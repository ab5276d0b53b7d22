import RpcSharp.Proofs.Json.Value
import RpcSharp.Proofs.Text.Utf8
import RpcSharp.Schema.Load

/-! A document that is printed and read again is the same document. -/

namespace RpcSharp.Schema

open RpcSharp.Json RpcSharp.Text

/-- A text stands for a value that is read as `a`. -/
def ReadsAs {α : Type} (read : Read α) (s : List Char) (a : α) : Prop :=
  ∃ v, Denotes s v ∧ read v = .ok a

theorem readsAs_text (s : String) : ReadsAs readText (printText s) s :=
  ⟨_, denotes_printText s, rfl⟩

theorem readsAs_flag (b : Bool) : ReadsAs readFlag (printFlag b) b :=
  ⟨_, denotes_printFlag b, rfl⟩

theorem readsAs_caller (c : Option Caller) :
    ReadsAs readCaller ((c.map Caller.print).getD printNull) c := by
  cases c with
  | none => exact ⟨_, denotes_printNull, rfl⟩
  | some c =>
    cases c with
    | client => exact ⟨_, denotes_printText "client", rfl⟩
    | server => exact ⟨_, denotes_printText "server", rfl⟩

/-! Lists -/

section Lists

variable {α : Type} {read : Read α} {print : α → List Char}
  (item : ∀ a, ReadsAs read (print a) a)

include item

theorem readItems_printed (as : List α) :
    ∃ values, List.Forall₂ Denotes (as.map print) values ∧
      ∀ i, readItems read .closed i values = .ok as := by
  induction as with
  | nil => exact ⟨[], .nil, fun i => rfl⟩
  | cons a as ih =>
    obtain ⟨v, denotes, first⟩ := item a
    obtain ⟨values, others, rest⟩ := ih
    refine ⟨v :: values, .cons denotes others, fun i => ?_⟩
    rw [readItems, first, rest (i + 1)]
    rfl

theorem ReadsAs.list (as : List α) : ReadsAs (readList read) (printList print as) as := by
  obtain ⟨values, denote, items⟩ := readItems_printed item as
  exact ⟨_, .list denote, items 0⟩

theorem ReadsAs.listOrNull (as : List α) :
    ReadsAs (readListOrNull read) (printList print as) as := by
  obtain ⟨values, denote, items⟩ := readItems_printed item as
  exact ⟨_, .list denote, items 0⟩

end Lists

/-! Records -/

/-- Entries that fill slots one by one, and what becomes of a record by that. -/
inductive Fills {α : Type} : List (Slot α) → List (String × List Char) → α → α → Prop
  | done (a : α) : Fills [] [] a a
  | next {slot : Slot α} {slots : List (Slot α)} {text : List Char}
      {entries : List (String × List Char)} {set : α → α} {a b : α} :
      ReadsAs slot.read text set → Fills slots entries (set a) b →
        Fills (slot :: slots) ((slot.key, text) :: entries) a b

theorem ReadsAs.set {α β : Type} {read : Read β} {s : List Char} {b : β}
    (reads : ReadsAs read s b) (set : β → α → α) :
    ReadsAs (fun v => set <$> read v) s (set b) := by
  obtain ⟨v, denotes, first⟩ := reads
  refine ⟨v, denotes, ?_⟩
  simp only [first]
  rfl

section Records

variable {α : Type} {s : Shape α}

theorem find?_key {slots : List (Slot α)} (distinct : (slots.map (·.key)).Nodup) {slot : Slot α}
    (known : slot ∈ slots) : slots.find? (·.key == slot.key) = some slot := by
  induction slots with
  | nil => contradiction
  | cons first slots ih =>
    rw [List.map_cons, List.nodup_cons] at distinct
    rcases List.mem_cons.mp known with rfl | later
    · simp
    · have other : (first.key == slot.key) = false := by
        rw [beq_eq_false_iff_ne]
        intro same
        exact distinct.1 (same ▸ List.mem_map_of_mem later)
      rw [List.find?_cons, other, ih distinct.2 later]

/- The slots that are filled have been seen, and the others are still to come. -/
theorem Fills.readEntries {slots : List (Slot α)} {entries : List (String × List Char)} {a b : α}
    (fills : Fills slots entries a b) (seen : List String)
    (known : ∀ slot ∈ slots, s.slot? slot.key = some slot)
    (fresh : ∀ slot ∈ slots, slot.key ∉ seen) (distinct : (slots.map (·.key)).Nodup)
    (complete : ∀ slot ∈ s.slots, slot.key ∈ seen ∨ slot ∈ slots) :
    ∃ values, List.Forall₂ DenotesEntry entries values ∧
      s.readEntries .closed seen a values = .ok b := by
  induction fills generalizing seen with
  | done a =>
    have filled : s.missing seen = none := by
      simp only [Shape.missing, Option.map_eq_none_iff, List.find?_eq_none]
      intro slot listed
      simp [(complete slot listed).resolve_right List.not_mem_nil]
    exact ⟨[], .nil, by rw [Shape.readEntries, Shape.finish, filled]⟩
  | @next slot slots text entries set a b reads _ ih =>
    obtain ⟨v, denotes, read⟩ := reads
    rw [List.map_cons, List.nodup_cons] at distinct
    have key : s.readKey seen (.ok slot.key) = .ok slot.key := by
      simp [Shape.readKey, fresh slot List.mem_cons_self]
    obtain ⟨values, others, rest⟩ := ih (slot.key :: seen)
      (fun other later => known other (List.mem_cons_of_mem slot later))
      (fun other later again => by
        rcases List.mem_cons.mp again with same | before
        · exact distinct.1 (same ▸ List.mem_map_of_mem later)
        · exact fresh other (List.mem_cons_of_mem slot later) before)
      distinct.2
      (fun other listed => by
        rcases complete other listed with before | later
        · exact .inl (List.mem_cons_of_mem _ before)
        · rcases List.mem_cons.mp later with rfl | later
          · exact .inl List.mem_cons_self
          · exact .inr later)
    refine ⟨(.ok slot.key, v) :: values, .cons ⟨rfl, denotes⟩ others, ?_⟩
    rw [Shape.readEntries, key]
    simp only [bind, Except.bind, known slot List.mem_cons_self, read]
    exact rest

theorem ReadsAs.record (distinct : (s.slots.map (·.key)).Nodup)
    {entries : List (String × List Char)} {a : α} (fills : Fills s.slots entries s.blank a) :
    ReadsAs s.read (printObject entries) a := by
  obtain ⟨values, denote, read⟩ := fills.readEntries (s := s) []
    (fun slot known => find?_key distinct known) (fun slot _ => List.not_mem_nil) distinct
    (fun slot listed => .inr listed)
  exact ⟨_, .object denote, read⟩

end Records

theorem Field.readsAs_print (f : Field) : ReadsAs Field.shape.read f.print f :=
  .record (by decide)
    (.next (.set (readsAs_text _) _) (.next (.set (readsAs_text _) _)
      (.next (.set (readsAs_text _) _) (.next (.set (readsAs_flag _) _) (.done _)))))

theorem readsAs_printFields (fs : List Field) :
    ReadsAs fieldsShape.read (printFields fs Field.print) fs :=
  .record (by decide) (.next (.set (.listOrNull Field.readsAs_print fs) _) (.done _))

theorem Request.readsAs_print (r : Request) : ReadsAs Request.shape.read r.print r :=
  .record (by decide)
    (.next (.set (readsAs_text _) _) (.next (.set (readsAs_text _) _)
      (.next (.set (readsAs_caller _) _) (.next (.set (readsAs_printFields _) _)
        (.next (.set (readsAs_printFields _) _) (.done _))))))

theorem Notification.readsAs_print (n : Notification) :
    ReadsAs Notification.shape.read n.print n :=
  .record (by decide)
    (.next (.set (readsAs_text _) _) (.next (.set (readsAs_text _) _)
      (.next (.set (readsAs_printFields _) _) (.done _))))

theorem StructType.readsAs_print (t : StructType) : ReadsAs StructType.shape.read t.print t :=
  .record (by decide)
    (.next (.set (readsAs_text _) _) (.next (.set (readsAs_text _) _)
      (.next (.set (.listOrNull Field.readsAs_print _) _) (.done _))))

theorem EnumValue.readsAs_print (e : EnumValue) : ReadsAs EnumValue.shape.read e.print e :=
  .record (by decide)
    (.next (.set (readsAs_text _) _) (.next (.set (readsAs_text _) _)
      (.next (.set (readsAs_text _) _) (.done _))))

theorem EnumType.readsAs_print (t : EnumType) : ReadsAs EnumType.shape.read t.print t :=
  .record (by decide)
    (.next (.set (readsAs_text _) _) (.next (.set (readsAs_text _) _)
      (.next (.set (.listOrNull EnumValue.readsAs_print _) _) (.done _))))

theorem Document.readsAs_print (d : Document) : ReadsAs Document.shape.read d.print d :=
  .record (by decide)
    (.next (.set (.list Request.readsAs_print _) _)
      (.next (.set (.list Notification.readsAs_print _) _)
        (.next (.set (.list StructType.readsAs_print _) _)
          (.next (.set (.list EnumType.readsAs_print _) _) (.done _)))))

/- Reading is the same for a text and for its bytes, and only the names are left to check. -/
theorem Document.ofGlyphs_printed (d : Document) : ofGlyphs (glyphs d.toText) = d.validate := by
  obtain ⟨v, denotes, read⟩ := d.readsAs_print
  have chars : glyphs d.toText = d.print.map some := by
    rw [glyphs, toText, String.toList_ofList]
  rw [ofGlyphs, chars, denotes.ofText_eq, read]

/-- A document whose names are accepted is what its own text is read as, and the bytes of that
text. -/
theorem document_roundTrip (d : Document) (valid : d.validate = .ok d) :
    Document.ofText d.toText = .ok d ∧ Document.ofBytes (encode d.toText) = .ok d := by
  constructor
  · rw [Document.ofText, d.ofGlyphs_printed, valid]
  · rw [Document.ofBytes, decode_encode, d.ofGlyphs_printed, valid]

/- Every kind of record, with all that strings escape and characters of every encoded length. -/
def awkwardDocument : Document where
  requests := [
    { method := "Fetch.Game", caller := some .server
      doc := "Quotes \", slashes \\ and /,\n\tcontrols \x00 \x08 \x0c \x1f \x7f"
      params := [{ name := "id", type := "number", optional := true }]
      result := [{ name := "game", doc := "é, € and 😀", type := "\x7b [key: string]: Game \x7d" }] },
    { method := "Version.Get", caller := some .client }]
  notifications := [{ method := "Log", params := [{ name := "\u2028", type := "" }] }]
  structTypes := [{ name := "Game", fields := [{ name := "title", type := "string" }, {}] }]
  enumTypes := [{ name := "Level", values := [{ name := "high", value := "\"high\"" }] }]

theorem awkwardDocument_roundTrip :
    awkwardDocument.validate = .ok awkwardDocument ∧
      Document.ofText awkwardDocument.toText = .ok awkwardDocument ∧
      Document.ofBytes (encode awkwardDocument.toText) = .ok awkwardDocument := by
  have valid : awkwardDocument.validate = .ok awkwardDocument := by decide
  exact ⟨valid, document_roundTrip awkwardDocument valid⟩

end RpcSharp.Schema
