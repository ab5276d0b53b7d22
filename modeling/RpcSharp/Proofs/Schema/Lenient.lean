import Mathlib.Logic.Relation
import RpcSharp.Proofs.Schema.Record

/-! A document can be spelled in many ways: with the keys of its records in any order, with keys
that mean nothing, without what is blank, or with records as lists. All of them are read as the same
document. -/

namespace RpcSharp.Schema

open RpcSharp.Json RpcSharp.Text

/-! The format -/

/-- The kinds of records. The parameters and the result of a method are payloads. -/
inductive Kind
  | document
  | request
  | notification
  | structType
  | enumType
  | enumValue
  | payload
  | field

/-- What the value of a key is. -/
inductive Part
  | text
  | flag
  | caller
  | record (k : Kind)
  | records (k : Kind)
  | recordsOrNull (k : Kind)

structure KeySpec where
  key : String
  part : Part
  optional : Bool := false

/-- The keys of a record in the order in which they are declared. -/
def Kind.members : Kind → List KeySpec
  | .document => [⟨"requests", .records .request, false⟩,
      ⟨"notifications", .records .notification, false⟩,
      ⟨"structTypes", .records .structType, false⟩, ⟨"enumTypes", .records .enumType, false⟩]
  | .request => [⟨"method", .text, false⟩, ⟨"doc", .text, true⟩, ⟨"caller", .caller, true⟩,
      ⟨"params", .record .payload, true⟩, ⟨"result", .record .payload, true⟩]
  | .notification => [⟨"method", .text, false⟩, ⟨"doc", .text, true⟩,
      ⟨"params", .record .payload, true⟩]
  | .structType => [⟨"name", .text, false⟩, ⟨"doc", .text, true⟩,
      ⟨"fields", .recordsOrNull .field, true⟩]
  | .enumType => [⟨"name", .text, false⟩, ⟨"doc", .text, true⟩,
      ⟨"values", .recordsOrNull .enumValue, true⟩]
  | .enumValue => [⟨"name", .text, false⟩, ⟨"doc", .text, true⟩, ⟨"value", .text, false⟩]
  | .payload => [⟨"fields", .recordsOrNull .field, true⟩]
  | .field => [⟨"name", .text, false⟩, ⟨"doc", .text, true⟩, ⟨"type", .text, false⟩,
      ⟨"optional", .flag, true⟩]

/-- Values that say what is so without them. -/
inductive Blank : Part → Value → Prop
  | text : Blank .text (.string (.ok ""))
  | flag : Blank .flag (.bool false)
  | caller : Blank .caller .null
  | null (k : Kind) : Blank (.recordsOrNull k) .null
  | nil (k : Kind) : Blank (.recordsOrNull k) (.list [] .closed)
  | object {k : Kind} {es : List (Key × Value)} :
      (∀ e ∈ es, ∀ m ∈ k.members, e.1 = .ok m.key → Blank m.part e.2) →
        Blank (.record k) (.object es .closed)
  | list {k : Kind} {items : List Value} :
      (∀ x ∈ k.members.zip items, Blank x.1.part x.2) → Blank (.record k) (.list items .closed)

/-- One change in the spelling of a value, or of a record at any depth in it. An entry is at the
front where it is changed, since all can be permuted. -/
inductive Respelled : Part → Value → Value → Prop
  | permuted {k : Kind} {es es' : List (Key × Value)} :
      es.Perm es' → Respelled (.record k) (.object es .closed) (.object es' .closed)
  | inserted {k : Kind} {es : List (Key × Value)} {key : String} {v : Value} :
      (∀ m ∈ k.members, m.key ≠ key) → v.WellFormed →
        Respelled (.record k) (.object es .closed) (.object ((.ok key, v) :: es) .closed)
  | dropped {k : Kind} {es : List (Key × Value)} {m : KeySpec} {v : Value} :
      m ∈ k.members → m.optional = true → Blank m.part v →
        Respelled (.record k) (.object ((.ok m.key, v) :: es) .closed) (.object es .closed)
  | nullToList (k : Kind) : Respelled (.recordsOrNull k) .null (.list [] .closed)
  | listToNull (k : Kind) : Respelled (.recordsOrNull k) (.list [] .closed) .null
  | unkeyed {k : Kind} {es : List (Key × Value)} {values : List Value} :
      List.Forall₂ (fun m v => (.ok m.key, v) ∈ es) k.members values →
        Respelled (.record k) (.object es .closed) (.list values .closed)
  | entry {k : Kind} {es : List (Key × Value)} {m : KeySpec} {v v' : Value} :
      m ∈ k.members → Respelled m.part v v' →
        Respelled (.record k) (.object ((.ok m.key, v) :: es) .closed)
          (.object ((.ok m.key, v') :: es) .closed)
  | position {k : Kind} {before after : List Value} {m : KeySpec} {v v' : Value} :
      k.members[before.length]? = some m → Respelled m.part v v' →
        Respelled (.record k) (.list (before ++ v :: after) .closed)
          (.list (before ++ v' :: after) .closed)
  | item {k : Kind} {before after : List Value} {v v' : Value} :
      Respelled (.record k) v v' →
        Respelled (.records k) (.list (before ++ v :: after) .closed)
          (.list (before ++ v' :: after) .closed)
  | itemOrNull {k : Kind} {before after : List Value} {v v' : Value} :
      Respelled (.record k) v v' →
        Respelled (.recordsOrNull k) (.list (before ++ v :: after) .closed)
          (.list (before ++ v' :: after) .closed)

/-! The format and the readers -/

abbrev Kind.Record : Kind → Type
  | .document => Document
  | .request => Request
  | .notification => Notification
  | .structType => StructType
  | .enumType => EnumType
  | .enumValue => EnumValue
  | .payload => List Field
  | .field => Field

def Kind.shape : (k : Kind) → Shape k.Record
  | .document => Document.shape
  | .request => Request.shape
  | .notification => Notification.shape
  | .structType => StructType.shape
  | .enumType => EnumType.shape
  | .enumValue => EnumValue.shape
  | .payload => fieldsShape
  | .field => Field.shape

namespace Part

abbrev Content : Part → Type
  | .text => String
  | .flag => Bool
  | .caller => Option Caller
  | .record k => k.Record
  | .records k | .recordsOrNull k => List k.Record

def read : (p : Part) → Read p.Content
  | .text => readText
  | .flag => readFlag
  | .caller => readCaller
  | .record k => k.shape.read
  | .records k => readList k.shape.read
  | .recordsOrNull k => readListOrNull k.shape.read

/-- What a part is that is left out. -/
def blank : (p : Part) → p.Content
  | .text => ""
  | .flag => false
  | .caller => none
  | .record k => k.shape.blank
  | .records _ | .recordsOrNull _ => []

end Part

/-- A slot reads a member and puts it where a blank record has what is blank. -/
structure Fits {α : Type} (blank : α) (m : KeySpec) (slot : Slot α) : Prop where
  key : slot.key = m.key
  required : slot.required = !m.optional
  read : ∃ set : m.part.Content → α → α,
    (∀ v, slot.read v = set <$> m.part.read v) ∧ set m.part.blank blank = blank

theorem Kind.fits (k : Kind) : List.Forall₂ (Fits k.shape.blank) k.members k.shape.slots := by
  cases k
  all_goals
    repeat' refine .cons ⟨rfl, rfl, _, fun _ => rfl, rfl⟩ ?_
    exact .nil

theorem Kind.lawful (k : Kind) : k.shape.Lawful := by
  constructor
  · cases k <;> decide
  · cases k
    all_goals
      simp only [shape, Document.shape, Request.shape, Notification.shape, StructType.shape,
        EnumType.shape, EnumValue.shape, fieldsShape, Field.shape, List.pairwise_cons,
        List.forall_mem_cons, List.not_mem_nil, false_imp_iff, implies_true, and_true,
        List.Pairwise.nil]
      repeat' apply And.intro
      all_goals exact Slot.commute_of_set (fun _ => rfl) (fun _ => rfl) fun _ _ _ => rfl

theorem Kind.map_key_members (k : Kind) :
    k.members.map (·.key) = k.shape.slots.map (·.key) := by
  cases k <;> rfl

theorem forall₂_getElem? {α β : Type} {R : α → β → Prop} {as : List α} {bs : List β}
    (related : List.Forall₂ R as bs) {i : Nat} {a : α} (place : as[i]? = some a) :
    ∃ b, bs[i]? = some b ∧ R a b := by
  induction related generalizing i with
  | nil => cases place
  | @cons a' b as bs first _ ih =>
    cases i with
    | zero =>
      cases place
      exact ⟨b, rfl, first⟩
    | succ i => exact ih place

section Fits

variable {k : Kind} {m : KeySpec} {slot : Slot k.Record}

theorem exists_slot (known : m ∈ k.members) :
    ∃ slot, k.shape.slot? m.key = some slot ∧ Fits k.shape.blank m slot := by
  obtain ⟨i, place⟩ := List.mem_iff_getElem?.mp known
  obtain ⟨slot, found, fits⟩ := forall₂_getElem? k.fits place
  refine ⟨slot, ?_, fits⟩
  rw [← fits.key]
  exact find?_key k.lawful.distinct (List.mem_of_getElem? found)

theorem exists_member {i : Nat} (place : k.shape.slots[i]? = some slot) :
    ∃ m, k.members[i]? = some m ∧ Fits k.shape.blank m slot :=
  forall₂_getElem? k.fits.flip place

theorem slot?_eq_none {key : String} (other : ∀ m ∈ k.members, m.key ≠ key) :
    k.shape.slot? key = none := by
  have unused : key ∉ k.shape.slots.map (·.key) := by
    rw [← k.map_key_members, List.mem_map]
    rintro ⟨m, known, named⟩
    exact other m known named
  simp only [Shape.slot?, List.find?_eq_none, beq_iff_eq]
  exact fun slot known named => unused (named ▸ List.mem_map_of_mem known)

theorem Fits.idle (fits : Fits k.shape.blank m slot) {v : Value}
    (idle : ∀ c, m.part.read v = .ok c → c = m.part.blank) {f : k.Record → k.Record}
    (read : slot.read v = .ok f) : f k.shape.blank = k.shape.blank := by
  obtain ⟨set, reads, blank⟩ := fits.read
  rw [reads, map_eq_ok_iff] at read
  obtain ⟨c, found, rfl⟩ := read
  rw [idle c found, blank]

theorem Fits.same (fits : Fits k.shape.blank m slot) {v v' : Value}
    (same : ∀ c, m.part.read v = .ok c → m.part.read v' = .ok c) (f : k.Record → k.Record)
    (read : slot.read v = .ok f) : slot.read v' = .ok f := by
  obtain ⟨set, reads, _⟩ := fits.read
  rw [reads, map_eq_ok_iff] at read ⊢
  obtain ⟨c, found, made⟩ := read
  exact ⟨c, same c found, made⟩

end Fits

/-! One change -/

theorem Blank.eq_blank {p : Part} {v : Value} (blank : Blank p v) {c : p.Content}
    (read : p.read v = .ok c) : c = p.blank := by
  induction blank with
  | text | flag | caller | null | nil =>
    cases read
    rfl
  | @object k es _ ih =>
    have takes := Shape.takes_of_readEntries read
    apply takes.eq_of_idle
    intro e listed slot known named f filled
    obtain ⟨i, place⟩ := List.mem_iff_getElem?.mp known
    obtain ⟨m, found, fits⟩ := exists_member place
    apply fits.idle ?_ filled
    intro c read
    exact ih e listed m (List.mem_of_getElem? found) (fits.key ▸ named) read
  | @list k items _ ih =>
    apply Shape.readSlots_eq_of_idle read
    rintro ⟨slot, v⟩ listed f filled
    obtain ⟨i, place⟩ := List.mem_iff_getElem?.mp listed
    obtain ⟨here, item⟩ := List.getElem?_zip_eq_some.mp place
    obtain ⟨m, found, fits⟩ := exists_member here
    apply fits.idle ?_ filled
    intro c read
    have member : (m, v) ∈ k.members.zip items :=
      List.mem_of_getElem? (List.getElem?_zip_eq_some.mpr ⟨found, item⟩)
    exact ih (m, v) member read

theorem Respelled.read_eq {p : Part} {v v' : Value} (respelled : Respelled p v v') {c : p.Content}
    (read : p.read v = .ok c) : p.read v' = .ok c := by
  induction respelled with
  | @permuted k es es' perm =>
    exact ((Shape.takes_of_readEntries read).perm k.lawful perm).readEntries
  | @inserted k es key v other sound =>
    have takes := Shape.takes_of_readEntries read
    exact (Shape.Takes.foreign (slot?_eq_none other) sound.skipFault_eq takes).readEntries
  | @dropped k es m v known optional blank =>
    obtain ⟨slot, own, fits⟩ := exists_slot known
    cases Shape.takes_of_readEntries read with
    | foreign none => cases own.symm.trans none
    | known found fresh first rest =>
      cases own.symm.trans found
      rw [fits.idle (fun c => blank.eq_blank) first] at rest
      -- The key that is gone was not needed, so it need not have been read.
      refine (rest.mono (fun key unread => absurd unread List.not_mem_nil) ?_).readEntries
      intro other listed required read
      rw [List.mem_singleton] at read
      have same := find?_key k.lawful.distinct listed
      rw [read] at same
      cases own.symm.trans same
      rw [fits.required, optional] at required
      contradiction
  | nullToList k =>
    cases read
    rfl
  | listToNull k =>
    cases read
    rfl
  | @unkeyed k es values present =>
    have takes := Shape.takes_of_readEntries read
    have keyed : List.Forall₂ (fun slot v => (.ok slot.key, v) ∈ es) k.shape.slots values := by
      rw [← List.forall₂_map_left_iff (f := KeySpec.key) (R := fun key v => (.ok key, v) ∈ es),
        k.map_key_members, List.forall₂_map_left_iff] at present
      exact present
    exact takes.readSlots k.lawful keyed (fun _ known => known) k.lawful.distinct
      (fun _ known => .inr known) 0
  | @entry k es m v v' known _ ih =>
    obtain ⟨slot, own, fits⟩ := exists_slot known
    cases Shape.takes_of_readEntries read with
    | foreign none => cases own.symm.trans none
    | known found fresh first rest =>
      cases own.symm.trans found
      exact (Shape.Takes.known found fresh (fits.same (fun c => ih) _ first) rest).readEntries
  | @position k before after m v v' place _ ih =>
    obtain ⟨slot, here, fits⟩ := forall₂_getElem? k.fits place
    exact Shape.readSlots_replace here (fits.same fun c => ih) read
  | item _ ih => exact readItems_replace (fun a => ih) read
  | itemOrNull _ ih => exact readItems_replace (fun a => ih) read

/-! Any number of changes -/

theorem read_eq_of_respellings {p : Part} {v v' : Value}
    (respellings : Relation.ReflTransGen (Respelled p) v v') {c : p.Content}
    (read : p.read v = .ok c) : p.read v' = .ok c := by
  induction respellings with
  | refl => exact read
  | tail _ respelled ih => exact respelled.read_eq ih

theorem Document.ofGlyphs_of_respellings {s t : List Glyph} {d : Document}
    (respellings : Relation.ReflTransGen (Respelled (.record .document)) (Value.ofText s)
      (Value.ofText t)) (loaded : ofGlyphs s = .ok d) : ofGlyphs t = .ok d := by
  unfold ofGlyphs at loaded ⊢
  cases read : shape.read (Value.ofText s) with
  | error fault =>
    rw [read] at loaded
    cases loaded
  | ok found =>
    have same : shape.read (Value.ofText t) = .ok found := read_eq_of_respellings respellings read
    rw [read] at loaded
    rw [same]
    exact loaded

/-- A text that is accepted is read as the same document as every text whose value comes from its
value by changes in spelling. So are the bytes of a text. -/
theorem reading_canonical (d : Document) :
    (∀ s t, Relation.ReflTransGen (Respelled (.record .document)) (Value.ofText (glyphs s))
        (Value.ofText (glyphs t)) →
      Document.ofText s = .ok d → Document.ofText t = .ok d) ∧
    ∀ s t, Relation.ReflTransGen (Respelled (.record .document)) (Value.ofText (decode s))
        (Value.ofText (decode t)) →
      Document.ofBytes s = .ok d → Document.ofBytes t = .ok d :=
  ⟨fun _ _ => Document.ofGlyphs_of_respellings, fun _ _ => Document.ofGlyphs_of_respellings⟩

/- One document, with all that it can say and with as little as it can. -/
def terseDocument : Document where
  requests := [{ method := "Run" }]
  structTypes := [{ name := "A" }]

def wordyText : String :=
  "\x7b\"requests\":[\x7b\"params\":\x7b\"fields\":[]\x7d,\"method\":\"Run\"\x7d]," ++
  "\"notifications\":[],\"structTypes\":[\x7b\"name\":\"A\",\"doc\":\"\",\"fields\":null\x7d]," ++
  "\"enumTypes\":[]\x7d"

def terseText : String :=
  "\x7b\"x\":[\x7b\x7d],\"structTypes\":[[\"A\",\"\",[]]],\"requests\":[\x7b\"method\":\"Run\"\x7d]," ++
  "\"notifications\":[],\"enumTypes\":[]\x7d"

def wordyRequest : Value :=
  .object [(.ok "params", .object [(.ok "fields", .list [] .closed)] .closed),
    (.ok "method", .string (.ok "Run"))] .closed

def terseRequest : Value := .object [(.ok "method", .string (.ok "Run"))] .closed

def wordyStruct : Value :=
  .object [(.ok "name", .string (.ok "A")), (.ok "doc", .string (.ok "")), (.ok "fields", .null)]
    .closed

def terseStruct (fields : Value) : Value :=
  .list [.string (.ok "A"), .string (.ok ""), fields] .closed

theorem terseRequest_respelled :
    Respelled (.records .request) (.list [wordyRequest] .closed) (.list [terseRequest] .closed) := by
  apply @Respelled.item .request [] []
  apply Respelled.dropped (m := ⟨"params", .record .payload, true⟩)
  · simp [Kind.members]
  · rfl
  · apply Blank.object
    simp only [List.mem_singleton, Kind.members, forall_eq]
    exact fun _ => .nil .field

theorem terseStruct_respelled :
    Respelled (.records .structType) (.list [wordyStruct] .closed)
      (.list [terseStruct .null] .closed) := by
  apply @Respelled.item .structType [] []
  apply Respelled.unkeyed
  simp [Kind.members]

theorem terseStruct_list_respelled :
    Respelled (.records .structType) (.list [terseStruct .null] .closed)
      (.list [terseStruct (.list [] .closed)] .closed) := by
  apply @Respelled.item .structType [] []
  apply @Respelled.position .structType [.string (.ok "A"), .string (.ok "")] []
  · rfl
  · exact .nullToList .field

theorem terseText_canonical :
    Relation.ReflTransGen (Respelled (.record .document)) (Value.ofText (glyphs wordyText))
      (Value.ofText (glyphs terseText)) ∧
    Document.ofText wordyText = .ok terseDocument ∧
    Document.ofText terseText = .ok terseDocument := by
  have wordy : Value.ofText (glyphs wordyText) = .object [
      (.ok "requests", .list [wordyRequest] .closed), (.ok "notifications", .list [] .closed),
      (.ok "structTypes", .list [wordyStruct] .closed), (.ok "enumTypes", .list [] .closed)]
        .closed := by cbv
  have terse : Value.ofText (glyphs terseText) = .object [
      (.ok "x", .list [.object [] .closed] .closed),
      (.ok "structTypes", .list [terseStruct (.list [] .closed)] .closed),
      (.ok "requests", .list [terseRequest] .closed), (.ok "notifications", .list [] .closed),
      (.ok "enumTypes", .list [] .closed)] .closed := by cbv
  have requests : (⟨"requests", .records .request, false⟩ : KeySpec) ∈ Kind.document.members := by
    simp [Kind.members]
  have structTypes :
      (⟨"structTypes", .records .structType, false⟩ : KeySpec) ∈ Kind.document.members := by
    simp [Kind.members]
  have respellings : Relation.ReflTransGen (Respelled (.record .document))
      (Value.ofText (glyphs wordyText)) (Value.ofText (glyphs terseText)) := by
    rw [wordy, terse]
    refine .head (.entry requests terseRequest_respelled) ?_
    refine .head (.permuted (@List.perm_middle (Key × Value) (.ok "structTypes", _) [_, _] [_])) ?_
    refine .head (.entry structTypes terseStruct_respelled) ?_
    refine .head (.entry structTypes terseStruct_list_respelled) (.single ?_)
    apply Respelled.inserted
    · simp [Kind.members]
    · exact .list (by simpa using .object (by simp))
  have loaded : Document.ofText wordyText = .ok terseDocument := by
    rw [Document.ofText, Document.ofGlyphs, wordy]
    rfl
  exact ⟨respellings, loaded, (reading_canonical terseDocument).1 _ _ respellings loaded⟩

end RpcSharp.Schema
