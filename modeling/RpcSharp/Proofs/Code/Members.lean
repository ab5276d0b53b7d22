import RpcSharp.Proofs.Code.Emission

/-! The names that the members of a class declare, what a constructor adds to a class, and where
the classes of a tree stand. -/

namespace RpcSharp.Code

section Name

variable (enclosing : String)

@[simp] theorem name?_nested (t : TypeNode) :
    MemberOf.name? enclosing (.nested t) = some t.name := rfl

@[simp] theorem name?_constant (c : Constant) :
    MemberOf.name? enclosing (.constant c) = some c.name := rfl

@[simp] theorem name?_property (p : Property) :
    MemberOf.name? enclosing (.property p) = some (propertyName p.name enclosing) := rfl

end Name

/-- The first element of `names` that also stands before itself. -/
def FirstRepetition (names : List String) (name : String) : Prop :=
  ∃ before after, names = before ++ name :: after ∧ before.Nodup ∧ name ∈ before

theorem nodup_of_firstRepeated {seen names : List String} (distinct : seen.Nodup)
    (none : firstRepeated seen names = none) : (seen.reverse ++ names).Nodup := by
  induction names generalizing seen with
  | nil => simpa [List.Nodup, List.pairwise_reverse, ne_comm] using distinct
  | cons name rest ih =>
    simp only [firstRepeated] at none
    split at none
    · contradiction
    · rename_i fresh
      have new : (name :: seen).Nodup := List.nodup_cons.mpr ⟨by simpa using fresh, distinct⟩
      simpa using ih new none

theorem repetition_of_firstRepeated {seen names : List String} {name : String}
    (distinct : seen.Nodup) (found : firstRepeated seen names = some name) :
    FirstRepetition (seen.reverse ++ names) name := by
  induction names generalizing seen with
  | nil => contradiction
  | cons first rest ih =>
    simp only [firstRepeated] at found
    split at found
    · rename_i known
      cases Option.some.inj found
      refine ⟨seen.reverse, rest, rfl, ?_, by simpa using known⟩
      simpa [List.Nodup, List.pairwise_reverse, ne_comm] using distinct
    · rename_i fresh
      have new : (first :: seen).Nodup := List.nodup_cons.mpr ⟨by simpa using fresh, distinct⟩
      simpa using ih new found

theorem FirstRepetition.not_nodup {names : List String} {name : String}
    (repetition : FirstRepetition names name) : ¬ names.Nodup := by
  obtain ⟨before, after, rfl, _, again⟩ := repetition
  intro distinct
  exact (List.nodup_append.mp distinct).2.2 name again name List.mem_cons_self rfl

/- Two places in one list: the same, or one of them after the other. -/
theorem append_cons_cases {α : Type} {before before' after after' : List α} {a a' : α}
    (same : before ++ a :: after = before' ++ a' :: after') :
    (a = a' ∧ before = before') ∨ (∃ gap, before' = before ++ a :: gap) ∨
      ∃ gap, before = before' ++ a' :: gap := by
  rcases List.append_eq_append_iff.mp same with ⟨gap, rfl, rest⟩ | ⟨gap, rfl, rest⟩
  · cases gap with
    | nil => exact .inl ⟨(List.cons.inj rest).1, by simp⟩
    | cons c gap => exact .inr (.inl ⟨gap, by rw [(List.cons.inj rest).1]⟩)
  · cases gap with
    | nil => exact .inl ⟨(List.cons.inj rest).1.symm, by simp⟩
    | cons c gap => exact .inr (.inr ⟨gap, by rw [(List.cons.inj rest).1]⟩)

theorem FirstRepetition.unique {names : List String} {name other : String}
    (one : FirstRepetition names name) (two : FirstRepetition names other) : name = other := by
  obtain ⟨before, after, rfl, distinct, again⟩ := one
  obtain ⟨before', after', same, distinct', again'⟩ := two
  rcases append_cons_cases same with ⟨h, _⟩ | ⟨gap, rfl⟩ | ⟨gap, rfl⟩
  · exact h
  · exact absurd distinct' (FirstRepetition.not_nodup ⟨before, gap, rfl, distinct, again⟩)
  · exact absurd distinct (FirstRepetition.not_nodup ⟨before', gap, rfl, distinct', again'⟩)

namespace ClassOf

theorem repeatedMember?_eq_none_iff (c : ClassNode) :
    c.repeatedMember? = none ↔ c.memberNames.Nodup := by
  constructor
  · exact fun none => nodup_of_firstRepeated List.nodup_nil none
  · intro distinct
    cases found : c.repeatedMember? with
    | none => rfl
    | some name =>
      exact absurd distinct (repetition_of_firstRepeated List.nodup_nil found).not_nodup

theorem repeatedMember?_eq_some_iff (c : ClassNode) (name : String) :
    c.repeatedMember? = some name ↔ FirstRepetition c.memberNames name := by
  constructor
  · exact fun found => repetition_of_firstRepeated List.nodup_nil found
  · intro repetition
    cases found : c.repeatedMember? with
    | none => exact absurd (c.repeatedMember?_eq_none_iff.mp found) repetition.not_nodup
    | some other =>
      have first := repetition_of_firstRepeated List.nodup_nil found
      exact congrArg some (first.unique repetition)

theorem requireUnique_eq_ok_iff (c c' : ClassNode) :
    c.requireUnique = .ok c' ↔ c.memberNames.Nodup ∧ c' = c := by
  rw [← repeatedMember?_eq_none_iff, requireUnique]
  cases c.repeatedMember? with
  | none => simp [eq_comm]
  | some name => simp

theorem requireUnique_eq_error_iff (c : ClassNode) (fault : UnitFault) :
    c.requireUnique = .error fault ↔
      ∃ name, FirstRepetition c.memberNames name ∧ fault = .repeatedMember c.name name := by
  simp only [← repeatedMember?_eq_some_iff]
  rw [requireUnique]
  cases c.repeatedMember? with
  | none => simp
  | some name => simp [eq_comm]

/- A constructor declares no name, so all but the list of members stays as it is. -/
theorem withJsonConstructor_eq (c : ClassNode) (always : Bool) :
    c.withJsonConstructor always = c ∨
      c.withJsonConstructor always = { c with members := .method c.jsonConstructor :: c.members } := by
  unfold withJsonConstructor
  split
  · exact .inl rfl
  · exact .inr rfl

@[simp] theorem withJsonConstructor_name (c : ClassNode) (always : Bool) :
    (c.withJsonConstructor always).name = c.name := by
  rcases c.withJsonConstructor_eq always with h | h <;> rw [h]

@[simp] theorem withJsonConstructor_namespace (c : ClassNode) (always : Bool) :
    (c.withJsonConstructor always).namespace = c.namespace := by
  rcases c.withJsonConstructor_eq always with h | h <;> rw [h]

@[simp] theorem withJsonConstructor_isStatic (c : ClassNode) (always : Bool) :
    (c.withJsonConstructor always).isStatic = c.isStatic := by
  rcases c.withJsonConstructor_eq always with h | h <;> rw [h]

@[simp] theorem withJsonConstructor_isPartial (c : ClassNode) (always : Bool) :
    (c.withJsonConstructor always).isPartial = c.isPartial := by
  rcases c.withJsonConstructor_eq always with h | h <;> rw [h]

@[simp] theorem withJsonConstructor_memberNames (c : ClassNode) (always : Bool) :
    (c.withJsonConstructor always).memberNames = c.memberNames := by
  rcases c.withJsonConstructor_eq always with h | h <;> rw [h]
  rfl

/- Of the members with a name, and so of the nested types, none is new. -/
theorem mem_withJsonConstructor {c : ClassNode} {always : Bool} {m : Member}
    (other : ∀ constructor, m ≠ .method constructor) :
    m ∈ (c.withJsonConstructor always).members ↔ m ∈ c.members := by
  rcases c.withJsonConstructor_eq always with h | h <;> rw [h]
  simp [other]

@[simp] theorem firstMisfit?_withJsonConstructor (c : ClassNode) (always : Bool) :
    firstMisfit? (c.withJsonConstructor always).members = firstMisfit? c.members := by
  rcases c.withJsonConstructor_eq always with h | h <;> simp [h, firstMisfit?, memberMisfit?]

end ClassOf

/-- A class stands in a tree, at the end of a path of class names from the root. -/
inductive ClassAt : TypeNode → List String → ClassNode → Prop
  | root (c : ClassNode) : ClassAt (.ofClass c) [c.name] c
  | inner {c inside : ClassNode} {t : TypeNode} {path : List String} :
      .nested t ∈ c.members → ClassAt t path inside → ClassAt (.ofClass c) (c.name :: path) inside

theorem ClassAt.path_eq {t : TypeNode} {path : List String} {c : ClassNode}
    (stands : ClassAt t path c) : ∃ rest, path = t.name :: rest := by
  cases stands with
  | root c => exact ⟨[], rfl⟩
  | inner _ _ => exact ⟨_, rfl⟩

theorem classAt_single {c : ClassNode} {t : TypeNode} (only : c.members = [.nested t])
    (path : List String) (inside : ClassNode) :
    ClassAt (.ofClass c) path inside ↔
      (path = [c.name] ∧ inside = c) ∨ ∃ rest, path = c.name :: rest ∧ ClassAt t rest inside := by
  constructor
  · intro stands
    cases stands with
    | root c => exact .inl ⟨rfl, rfl⟩
    | inner nested stands =>
      have same := MemberOf.nested.inj (List.mem_singleton.mp (only ▸ nested))
      exact .inr ⟨_, rfl, same ▸ stands⟩
  · rintro (⟨rfl, rfl⟩ | ⟨rest, rfl, stands⟩)
    · exact .root _
    · exact .inner (by simp [only]) stands

/-- Some class of a tree has a property. -/
def SomeClass (t : TypeNode) (P : ClassNode → Prop) : Prop := ∃ path c, ClassAt t path c ∧ P c

theorem someClass_iff (c : ClassNode) (P : ClassNode → Prop) :
    SomeClass (.ofClass c) P ↔ P c ∨ ∃ t, .nested t ∈ c.members ∧ SomeClass t P := by
  constructor
  · rintro ⟨path, inside, stands, holds⟩
    cases stands with
    | root c => exact .inl holds
    | inner nested stands => exact .inr ⟨_, nested, _, inside, stands, holds⟩
  · rintro (holds | ⟨t, nested, path, inside, stands, holds⟩)
    · exact ⟨_, c, .root c, holds⟩
    · exact ⟨_, inside, .inner nested stands, holds⟩

theorem someClass_of_flat {c : ClassNode} (flat : ∀ t, .nested t ∉ c.members)
    (P : ClassNode → Prop) : SomeClass (.ofClass c) P ↔ P c := by
  rw [someClass_iff]
  constructor
  · rintro (holds | ⟨t, nested, _⟩)
    · exact holds
    · exact absurd nested (flat t)
  · exact .inl

/-- A member is declared in the class at a path. -/
def DeclaredAt (t : TypeNode) (path : List String) (name : String) (m : Member) : Prop :=
  ∃ c, ClassAt t path c ∧ m ∈ c.members ∧ m.name? c.name = some name

theorem mem_memberNames_iff (c : ClassNode) (name : String) :
    name ∈ c.memberNames ↔ ∃ m ∈ c.members, m.name? c.name = some name := by
  simp [ClassOf.memberNames]

/- Whatever is declared in a class or below it is, or is inside, one of its members. -/
theorem DeclaredAt.member {c : ClassNode} {path : List String} {name : String} {m : Member}
    (declared : DeclaredAt (.ofClass c) path name m) :
    ∃ first more, path ++ [name] = c.name :: first :: more ∧ first ∈ c.memberNames := by
  obtain ⟨inside, stands, listed, named⟩ := declared
  cases stands with
  | root c => exact ⟨name, [], rfl, (mem_memberNames_iff c name).mpr ⟨m, listed, named⟩⟩
  | @inner _ _ t path nested stands =>
    obtain ⟨rest, rfl⟩ := stands.path_eq
    exact ⟨t.name, rest ++ [name], rfl, (mem_memberNames_iff c _).mpr ⟨.nested t, nested, rfl⟩⟩

end RpcSharp.Code
