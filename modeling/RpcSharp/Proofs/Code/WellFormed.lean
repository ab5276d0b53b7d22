import RpcSharp.Proofs.Code.Members

/-! Trees of classes as they should be: in every class the members declare different names and a
constructor stands before them, and the outermost class alone has a namespace. -/

namespace RpcSharp.Code

/-- All classes of a tree have a property. -/
def EveryClass (t : TypeNode) (P : ClassNode → Prop) : Prop := ∀ path c, ClassAt t path c → P c

theorem everyClass_iff_not (t : TypeNode) (P : ClassNode → Prop) :
    EveryClass t P ↔ ¬ SomeClass t (¬ P ·) := by
  simp [EveryClass, SomeClass]

theorem everyClass_iff (c : ClassNode) (P : ClassNode → Prop) :
    EveryClass (.ofClass c) P ↔ P c ∧ ∀ t, .nested t ∈ c.members → EveryClass t P := by
  simp [everyClass_iff_not, someClass_iff c]

theorem everyClass_of_flat {c : ClassNode} (flat : ∀ t, .nested t ∉ c.members)
    (P : ClassNode → Prop) : EveryClass (.ofClass c) P ↔ P c := by
  simp [everyClass_iff_not, someClass_of_flat flat]

def MemberOf.nested? : Member → Option TypeNode
  | .nested t => some t
  | _ => none

namespace ClassOf

def nestedTypes (c : ClassNode) : List TypeNode := c.members.filterMap (·.nested?)

/-- A constructor is the first member, so there is at most one. -/
def ConstructorFirst (c : ClassNode) : Prop :=
  ∀ i m, c.members[i]? = some m → m.constructor?.isSome = true → i = 0

structure WellDeclared (c : ClassNode) : Prop where
  distinct : c.memberNames.Nodup
  constructorFirst : c.ConstructorFirst
  classes : ∀ t, .nested t ∈ c.members → ∃ inner, t = .ofClass inner

theorem constructorFirst_of_none {c : ClassNode} (none : ∀ m ∈ c.members, m.constructor? = none) :
    c.ConstructorFirst := by
  intro i m found isConstructor
  rw [none m (List.mem_of_getElem? found)] at isConstructor
  contradiction

/-- A class that gets its constructor later, if at all, and holds no types. -/
def Plain (c : ClassNode) : Prop := ∀ m ∈ c.members, m.constructor? = none ∧ m.nested? = none

section Plain

variable {c : ClassNode} (plain : c.Plain) (always : Bool)

include plain

theorem Plain.flat (t : TypeNode) : .nested t ∉ (c.withJsonConstructor always).members := by
  intro nested
  have before := (mem_withJsonConstructor (by simp)).mp nested
  cases (plain _ before).2

theorem Plain.nestedTypes_eq_nil : (c.withJsonConstructor always).nestedTypes = [] := by
  refine List.filterMap_eq_nil_iff.mpr fun m known => ?_
  cases m with
  | nested t => exact absurd known (plain.flat always t)
  | constant | property | method => rfl

theorem Plain.constructorFirst : (c.withJsonConstructor always).ConstructorFirst := by
  rcases c.withJsonConstructor_eq always with same | added
  · rw [same]
    exact constructorFirst_of_none fun m known => (plain m known).1
  · rw [added]
    intro i m found isConstructor
    cases i with
    | zero => rfl
    | succ i =>
      rw [(plain m (List.mem_of_getElem? found)).1] at isConstructor
      contradiction

theorem Plain.wellDeclared (distinct : c.memberNames.Nodup) :
    (c.withJsonConstructor always).WellDeclared := by
  refine ⟨?_, plain.constructorFirst always, fun t nested => absurd nested (plain.flat always t)⟩
  rw [withJsonConstructor_memberNames]
  exact distinct

theorem Plain.constructor?_isSome_iff :
    (c.withJsonConstructor always).constructor?.isSome = true ↔ always = true ∨ c.properties ≠ [] := by
  have before : c.constructor? = none :=
    List.findSome?_eq_none_iff.mpr fun m known => (plain m known).1
  unfold withJsonConstructor
  by_cases left : c.properties = [] ∧ always = false
  · simp [before, left]
  · have added : (c.constructor?.isSome || (c.properties.isEmpty && !always)) = false := by
      simpa [before] using left
    have made : ({ c with members := .method c.jsonConstructor :: c.members } : ClassNode).constructor?
        = some c.jsonConstructor := rfl
    rw [added]
    simp only [Bool.false_eq_true, if_false, made, Option.isSome_some, true_iff]
    by_cases empty : c.properties = []
    · simpa [empty] using left
    · exact .inr empty

end Plain

end ClassOf

/-- A tree of classes whose root has a namespace, and no other node. -/
structure WellFormed (t : TypeNode) : Prop where
  isClass : ∃ c, t = .ofClass c
  declared : EveryClass t ClassOf.WellDeclared
  namespaces : ∀ path c, ClassAt t path c → (c.namespace.isSome = true ↔ path = [t.name])

theorem wellFormed_of_root {c : ClassNode} (declared : EveryClass (.ofClass c) ClassOf.WellDeclared)
    (set : c.namespace.isSome = true)
    (bare : ∀ t, .nested t ∈ c.members → EveryClass t (·.namespace = none)) :
    WellFormed (.ofClass c) := by
  refine ⟨⟨c, rfl⟩, declared, ?_⟩
  intro path inside stands
  cases stands with
  | root c => exact ⟨fun _ => rfl, fun _ => set⟩
  | @inner _ _ t path nested stands =>
    have none := bare t nested path inside stands
    obtain ⟨rest, rfl⟩ := stands.path_eq
    simp [none]

/-! The way inwards -/

/-- The classes that are passed on the way from the root along single nested types, and the one
where the way ends. -/
inductive Chain : TypeNode → List ClassNode → ClassNode → Prop
  | leaf {c : ClassNode} : (∀ t, c.nestedTypes ≠ [t]) → Chain (.ofClass c) [] c
  | inner {c leaf : ClassNode} {t : TypeNode} {outer : List ClassNode} :
      c.nestedTypes = [t] → Chain t outer leaf → Chain (.ofClass c) (c :: outer) leaf

theorem Chain.unique {t : TypeNode} {outer outer' : List ClassNode} {leaf leaf' : ClassNode}
    (one : Chain t outer leaf) (two : Chain t outer' leaf') : outer = outer' ∧ leaf = leaf' := by
  induction one generalizing outer' with
  | leaf ends =>
    cases two with
    | leaf _ => exact ⟨rfl, rfl⟩
    | inner single _ => exact absurd single (ends _)
  | inner single _ ih =>
    cases two with
    | leaf ends => exact absurd single (ends _)
    | inner single' rest =>
      cases single.symm.trans single'
      obtain ⟨rfl, rfl⟩ := ih rest
      exact ⟨rfl, rfl⟩

end RpcSharp.Code
