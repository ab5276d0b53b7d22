import Mathlib.Data.List.Forall2
import Mathlib.Data.List.Pairwise
import RpcSharp.Proofs.Basic
import RpcSharp.Proofs.Schema.RoundTrip

/-! What the reader of a record depends on: not the order of the entries, nor those without a slot,
nor whether the values stand under their keys or in the order of the slots. -/

namespace RpcSharp.Schema

open RpcSharp.Json

variable {α : Type}

theorem below_eq_ok_iff {step : Step} {x : Except Malformed α} {a : α} :
    below step x = .ok a ↔ x = .ok a := by
  cases x <;> simp [below]

theorem readItems_cons_iff {read : Read α} {ending : ListEnd} {i : Nat} {v : Value}
    {vs : List Value} {as : List α} :
    readItems read ending i (v :: vs) = .ok as ↔
      ∃ a rest, read v = .ok a ∧ readItems read ending (i + 1) vs = .ok rest ∧ a :: rest = as := by
  rw [readItems]
  simp only [bind_eq_ok_iff, below_eq_ok_iff, pure, Except.pure, Except.ok.injEq,
    exists_and_left]

theorem readItems_replace {read : Read α} {ending : ListEnd} {i : Nat} {before after : List Value}
    {v v' : Value} {as : List α} (same : ∀ a, read v = .ok a → read v' = .ok a)
    (items : readItems read ending i (before ++ v :: after) = .ok as) :
    readItems read ending i (before ++ v' :: after) = .ok as := by
  induction before generalizing i as with
  | nil =>
    rw [List.nil_append, readItems_cons_iff] at items ⊢
    obtain ⟨a, rest, first, others, made⟩ := items
    exact ⟨a, rest, same a first, others, made⟩
  | cons w before ih =>
    rw [List.cons_append, readItems_cons_iff] at items ⊢
    obtain ⟨a, rest, first, others, made⟩ := items
    exact ⟨a, rest, first, ih others, made⟩

/-- Two slots fill different parts of a record. -/
def Slot.Commute (slot slot' : Slot α) : Prop :=
  ∀ v w f g, slot.read v = .ok f → slot'.read w = .ok g → ∀ a, f (g a) = g (f a)

instance : Std.Symm (Slot.Commute (α := α)) where
  symm _ _ commute v w f g read read' a := (commute w v g f read' read a).symm

theorem Slot.commute_of_set {β γ : Type} {slot slot' : Slot α} {read : Read β} {read' : Read γ}
    {set : β → α → α} {set' : γ → α → α} (reads : ∀ v, slot.read v = set <$> read v)
    (reads' : ∀ v, slot'.read v = set' <$> read' v)
    (commute : ∀ b c a, set b (set' c a) = set' c (set b a)) : slot.Commute slot' := by
  intro v w f g first second a
  rw [reads, map_eq_ok_iff] at first
  rw [reads', map_eq_ok_iff] at second
  obtain ⟨b, _, rfl⟩ := first
  obtain ⟨c, _, rfl⟩ := second
  exact commute b c a

namespace Shape

variable {s : Shape α} {seen seen' : List String} {a b : α} {es es' : List (Key × Value)}

/-- The slots have keys of their own and fill parts of their own. -/
structure Lawful (s : Shape α) : Prop where
  distinct : (s.slots.map (·.key)).Nodup
  commute : s.slots.Pairwise Slot.Commute

theorem Lawful.commute_of_ne (lawful : s.Lawful) {slot slot' : Slot α} (known : slot ∈ s.slots)
    (known' : slot' ∈ s.slots) (other : slot.key ≠ slot'.key) : slot.Commute slot' :=
  lawful.commute.forall known known' fun same => other (congrArg Slot.key same)

/-! Entries in any order -/

/-- The entries of a complete object make the second record of the first, if the keys in the list
have been read before. -/
inductive Takes (s : Shape α) : List String → α → List (Key × Value) → α → Prop
  | done {seen : List String} {a : α} :
      (∀ slot ∈ s.slots, slot.required = true → slot.key ∈ seen) → Takes s seen a [] a
  | known {seen : List String} {a b : α} {es : List (Key × Value)} {key : String} {slot : Slot α}
      {v : Value} {f : α → α} :
      s.slot? key = some slot → key ∉ seen → slot.read v = .ok f →
        Takes s (key :: seen) (f a) es b → Takes s seen a ((.ok key, v) :: es) b
  | foreign {seen : List String} {a b : α} {es : List (Key × Value)} {key : String} {v : Value} :
      s.slot? key = none → v.skipFault = none → Takes s seen a es b →
        Takes s seen a ((.ok key, v) :: es) b

theorem missing_eq_none_iff :
    s.missing seen = none ↔ ∀ slot ∈ s.slots, slot.required = true → slot.key ∈ seen := by
  simp [missing]

theorem key_of_slot? {key : String} {slot : Slot α} (found : s.slot? key = some slot) :
    slot.key = key := by
  have same := List.find?_some found
  exact eq_of_beq same

theorem mem_of_slot? {key : String} {slot : Slot α} (found : s.slot? key = some slot) :
    slot ∈ s.slots :=
  List.mem_of_find?_eq_some found

theorem Takes.readEntries (takes : Takes s seen a es b) :
    s.readEntries .closed seen a es = .ok b := by
  induction takes with
  | done filled => rw [Shape.readEntries, finish, missing_eq_none_iff.mpr filled]
  | @known seen a b es key slot v f found fresh read _ ih =>
    have unread : s.readKey seen (.ok key) = .ok key := by simp [readKey, fresh]
    rw [Shape.readEntries, unread]
    simp only [bind, Except.bind, found, read]
    exact ih
  | @foreign seen a b es key v none skipped _ ih =>
    have unknown : s.readKey seen (.ok key) = .ok key := by simp [readKey, none]
    rw [Shape.readEntries, unknown]
    simp only [bind, Except.bind, none, skipped]
    exact ih

theorem takes_of_readEntries (read : s.readEntries .closed seen a es = .ok b) :
    Takes s seen a es b := by
  induction es generalizing seen a with
  | nil =>
    rw [Shape.readEntries, finish] at read
    cases filled : s.missing seen with
    | some key =>
      rw [filled] at read
      cases read
    | none =>
      rw [filled] at read
      cases read
      exact .done (missing_eq_none_iff.mp filled)
  | cons e es ih =>
    obtain ⟨key, v⟩ := e
    rw [Shape.readEntries, bind_eq_ok_iff] at read
    obtain ⟨name, keyRead, read⟩ := read
    cases key with
    | error fault => cases keyRead
    | ok key =>
      cases found : s.slot? key with
      | none =>
        simp only [readKey, found, Option.isSome_none, Bool.false_and, Bool.false_eq_true,
          if_false, Except.ok.injEq] at keyRead
        subst keyRead
        simp only [found] at read
        cases skipped : v.skipFault with
        | some fault =>
          rw [skipped] at read
          cases read
        | none =>
          rw [skipped] at read
          exact .foreign found skipped (ih read)
      | some slot =>
        simp only [readKey, found, Option.isSome_some, Bool.true_and] at keyRead
        split at keyRead
        · cases keyRead
        · rename_i fresh
          cases keyRead
          simp only [found, bind_eq_ok_iff, below_eq_ok_iff] at read
          obtain ⟨f, first, rest⟩ := read
          exact .known found (by simpa using fresh) first (ih rest)

/- Keys that have been read forbid to read them again, and only those of required slots are of use. -/
theorem Takes.mono (takes : Takes s seen a es b) (fewer : ∀ key ∈ seen', key ∈ seen)
    (needed : ∀ slot ∈ s.slots, slot.required = true → slot.key ∈ seen → slot.key ∈ seen') :
    Takes s seen' a es b := by
  induction takes generalizing seen' with
  | done filled =>
    apply Takes.done
    intro slot known required
    exact needed slot known required (filled slot known required)
  | @known seen a b es key slot v f found fresh read _ ih =>
    refine .known found (fun again => fresh (fewer _ again)) read (ih ?_ ?_)
    · intro other read
      rcases List.mem_cons.mp read with rfl | before
      · exact List.mem_cons_self
      · exact List.mem_cons_of_mem _ (fewer other before)
    · intro other known required read
      rcases List.mem_cons.mp read with same | before
      · exact same ▸ List.mem_cons_self
      · exact List.mem_cons_of_mem _ (needed other known required before)
  | foreign none skipped _ ih => exact .foreign none skipped (ih fewer needed)

theorem Takes.perm (lawful : s.Lawful) (perm : es.Perm es') (takes : Takes s seen a es b) :
    Takes s seen a es' b := by
  induction perm generalizing seen a with
  | nil => exact takes
  | cons e _ ih =>
    cases takes with
    | known found fresh read rest => exact .known found fresh read (ih rest)
    | foreign none skipped rest => exact .foreign none skipped (ih rest)
  | swap e e' es =>
    -- Each of the two entries has a slot or not. Only where both have one do the records differ
    -- that stand between them.
    cases takes with
    | @known _ _ _ _ key slot v f found fresh read rest =>
      cases rest with
      | @known _ _ _ _ key' slot' w g found' fresh' read' rest =>
        rw [List.mem_cons, not_or] at fresh'
        have other : slot'.key ≠ slot.key := by
          rw [key_of_slot? found, key_of_slot? found']
          exact fresh'.1
        have commute := lawful.commute_of_ne (mem_of_slot? found') (mem_of_slot? found) other
        refine .known found' fresh'.2 read' (.known found ?_ read ?_)
        · rw [List.mem_cons, not_or]
          exact ⟨fun same => fresh'.1 same.symm, fresh⟩
        · rw [← commute w v g f read' read]
          have same : ∀ name, name ∈ key' :: key :: seen ↔ name ∈ key :: key' :: seen := by
            intro name
            simp only [List.mem_cons]
            exact or_left_comm
          exact rest.mono (fun name => (same name).mpr) fun slot _ _ => (same slot.key).mp
      | foreign none skipped rest => exact .foreign none skipped (.known found fresh read rest)
    | foreign none skipped rest =>
      cases rest with
      | known found fresh read rest => exact .known found fresh read (.foreign none skipped rest)
      | foreign none' skipped' rest => exact .foreign none' skipped' (.foreign none skipped rest)
  | trans _ _ ih ih' => exact ih' (ih takes)

/- Where all slots are filled, what is left has none. -/
theorem Takes.eq_of_full (takes : Takes s seen a es b)
    (full : ∀ slot ∈ s.slots, slot.key ∈ seen) : a = b := by
  induction takes with
  | done _ => rfl
  | known found fresh _ _ _ =>
    have read := full _ (mem_of_slot? found)
    rw [key_of_slot? found] at read
    contradiction
  | foreign _ _ _ ih => exact ih full

theorem Takes.eq_of_idle (takes : Takes s seen a es b)
    (idle : ∀ e ∈ es, ∀ slot ∈ s.slots, e.1 = .ok slot.key →
      ∀ f, slot.read e.2 = .ok f → f a = a) : b = a := by
  induction takes with
  | done _ => rfl
  | @known seen a b es key slot v f found _ read _ ih =>
    rw [List.forall_mem_cons] at idle
    have same : f a = a := by
      apply idle.1 slot (mem_of_slot? found) ?_ f read
      rw [key_of_slot? found]
    rw [same] at ih
    exact ih idle.2
  | foreign _ _ _ ih => exact ih (List.forall_mem_cons.mp idle).2

/-! Values in the order of the slots -/

theorem readSlots_cons_iff {ending : ListEnd} {i : Nat} {slot : Slot α} {slots : List (Slot α)}
    {v : Value} {vs : List Value} :
    s.readSlots ending i a (slot :: slots) (v :: vs) = .ok b ↔
      ∃ f, slot.read v = .ok f ∧ s.readSlots ending (i + 1) (f a) slots vs = .ok b := by
  rw [readSlots, bind_eq_ok_iff]
  simp only [below_eq_ok_iff]

theorem readSlots_replace {ending : ListEnd} {i : Nat} {slots : List (Slot α)} {slot : Slot α}
    {before after : List Value} {v v' : Value} (place : slots[before.length]? = some slot)
    (same : ∀ f, slot.read v = .ok f → slot.read v' = .ok f)
    (read : s.readSlots ending i a slots (before ++ v :: after) = .ok b) :
    s.readSlots ending i a slots (before ++ v' :: after) = .ok b := by
  induction before generalizing i a slots with
  | nil =>
    cases slots with
    | nil => cases place
    | cons first slots =>
      cases place
      rw [List.nil_append, readSlots_cons_iff] at read ⊢
      obtain ⟨f, first, rest⟩ := read
      exact ⟨f, same f first, rest⟩
  | cons w before ih =>
    cases slots with
    | nil => cases place
    | cons first slots =>
      rw [List.cons_append, readSlots_cons_iff] at read ⊢
      obtain ⟨f, first, rest⟩ := read
      exact ⟨f, first, ih place rest⟩

theorem readSlots_eq_of_idle {ending : ListEnd} {i : Nat} {slots : List (Slot α)}
    {vs : List Value} (read : s.readSlots ending i a slots vs = .ok b)
    (idle : ∀ x ∈ slots.zip vs, ∀ f, x.1.read x.2 = .ok f → f a = a) : b = a := by
  induction slots generalizing i vs with
  | nil =>
    cases vs with
    | nil =>
      rw [Shape.readSlots] at read
      split at read
      · cases read
      · cases read
        rfl
    | cons => cases read
  | cons slot slots ih =>
    cases vs with
    | nil =>
      rw [Shape.readSlots] at read
      split at read
      · cases read
      · split at read
        · cases read
        · cases read
          rfl
      simp
    | cons v vs =>
      rw [List.zip_cons_cons, List.forall_mem_cons] at idle
      obtain ⟨f, first, rest⟩ := readSlots_cons_iff.mp read
      rw [idle.1 f first] at rest
      exact ih rest idle.2

/- Induction over the slots. The entry of each is brought to the front and read there. -/
theorem Takes.readSlots (lawful : s.Lawful) {slots : List (Slot α)} {values : List Value}
    (takes : Takes s seen a es b)
    (present : List.Forall₂ (fun slot v => (.ok slot.key, v) ∈ es) slots values)
    (known : ∀ slot ∈ slots, slot ∈ s.slots) (distinct : (slots.map (·.key)).Nodup)
    (complete : ∀ slot ∈ s.slots, slot.key ∈ seen ∨ slot ∈ slots) (i : Nat) :
    s.readSlots .closed i a slots values = .ok b := by
  induction slots generalizing seen a es values i with
  | nil =>
    cases present
    have full : ∀ slot ∈ s.slots, slot.key ∈ seen :=
      fun slot listed => (complete slot listed).resolve_right List.not_mem_nil
    rw [takes.eq_of_full full]
    rfl
  | cons slot slots ih =>
    obtain ⟨v, values, here, others, rfl⟩ := List.forall₂_cons_left_iff.mp present
    rw [List.map_cons, List.nodup_cons] at distinct
    obtain ⟨before, after, rfl⟩ := List.append_of_mem here
    have own : s.slot? slot.key = some slot :=
      find?_key lawful.distinct (known slot List.mem_cons_self)
    have apart : ∀ other ∈ slots, other.key ≠ slot.key :=
      fun other later same => distinct.1 (same ▸ List.mem_map_of_mem later)
    rw [readSlots_cons_iff]
    cases takes.perm lawful List.perm_middle with
    | foreign none => cases own.symm.trans none
    | @known _ _ _ _ _ found _ f own' _ read rest =>
      obtain rfl : slot = found := Option.some.inj (own.symm.trans own')
      refine ⟨f, read, ih rest ?_ ?_ distinct.2 ?_ (i + 1)⟩
      · refine ((List.forall₂_and_left _ _).mpr ⟨apart, others⟩).imp fun other w held => ?_
        obtain ⟨different, held⟩ := held
        simp only [List.mem_append, List.mem_cons, Prod.mk.injEq, Except.ok.injEq, different,
          false_and, false_or] at held
        exact List.mem_append.mpr held
      · exact fun other later => known other (List.mem_cons_of_mem slot later)
      · intro other listed
        rcases complete other listed with before | later
        · exact .inl (List.mem_cons_of_mem _ before)
        · rcases List.mem_cons.mp later with rfl | later
          · exact .inl List.mem_cons_self
          · exact .inr later

end Shape

end RpcSharp.Schema
