import RpcSharp.Proofs.Binding.Build
import RpcSharp.Proofs.Code.WellFormed

/-! Where the classes of a method's tree stand, and what they declare. -/

namespace RpcSharp.Binding

open RpcSharp.Code RpcSharp.Schema

/- A class on the way to the leaf holds the next one and nothing else. -/
theorem classAt_enclose_iff (isStatic : Bool) (outer : List String) (leaf : ClassNode)
    (path : List String) (inside : ClassNode) :
    ClassAt (.ofClass (enclose isStatic outer leaf)) path inside ↔
      (∃ before name after, outer = before ++ name :: after ∧ path = before ++ [name] ∧
        inside = enclose isStatic (name :: after) leaf) ∨
      ∃ rest, path = outer ++ rest ∧ ClassAt (.ofClass leaf) rest inside := by
  induction outer generalizing path with
  | nil => simp [enclose]
  | cons name outer ih =>
    have only : (enclose isStatic (name :: outer) leaf).members =
      [.nested (.ofClass (enclose isStatic outer leaf))] := rfl
    have named : (enclose isStatic (name :: outer) leaf).name = name := rfl
    rw [classAt_single only, named]
    constructor
    · rintro (⟨rfl, rfl⟩ | ⟨rest, rfl, stands⟩)
      · exact .inl ⟨[], name, outer, rfl, rfl, rfl⟩
      · rcases (ih rest).mp stands with ⟨before, next, after, rfl, rfl, rfl⟩ | ⟨below, rfl, deeper⟩
        · exact .inl ⟨name :: before, next, after, rfl, rfl, rfl⟩
        · exact .inr ⟨below, rfl, deeper⟩
    · rintro (⟨before, next, after, same, rfl, rfl⟩ | ⟨rest, rfl, stands⟩)
      · cases before with
        | nil =>
          obtain ⟨rfl, rfl⟩ := List.cons.inj same
          exact .inl ⟨rfl, rfl⟩
        | cons first before =>
          obtain ⟨rfl, rfl⟩ := List.cons.inj same
          exact .inr ⟨_, rfl, (ih _).mpr (.inl ⟨before, next, after, rfl, rfl, rfl⟩)⟩
      · exact .inr ⟨_, rfl, (ih _).mpr (.inr ⟨rest, rfl, stands⟩)⟩

theorem enclose_name (isStatic : Bool) (outer : List String) (leaf : ClassNode) :
    ∃ rest, outer ++ [leaf.name] = (enclose isStatic outer leaf).name :: rest := by
  cases outer with
  | nil => exact ⟨[], rfl⟩
  | cons name outer => exact ⟨outer ++ [leaf.name], rfl⟩

theorem enclose_marks {isStatic : Bool} (outer : List String) {leaf : ClassNode}
    (isPartial : leaf.isPartial = true) (static : leaf.isStatic = isStatic) :
    (enclose isStatic outer leaf).isPartial = true ∧
      (enclose isStatic outer leaf).isStatic = isStatic := by
  cases outer with
  | nil => exact ⟨isPartial, static⟩
  | cons name outer => exact ⟨rfl, rfl⟩

section Nest

variable (c : Context) (category : Category) (isStatic : Bool) (outer : List String)
  (leaf : ClassNode)

/-- The outermost class of a method. -/
def outermost : ClassNode :=
  { enclose isStatic (category.name :: outer) leaf with
    «namespace» := some (category.namespace c.base) }

theorem classAt_nest_iff (path : List String) (inside : ClassNode) :
    ClassAt (nest c category isStatic outer leaf) path inside ↔
      (path = [category.name] ∧ inside = outermost c category isStatic outer leaf) ∨
      ∃ rest, path = category.name :: rest ∧
        ClassAt (.ofClass (enclose isStatic outer leaf)) rest inside :=
  classAt_single (c := outermost c category isStatic outer leaf) rfl path inside

/-- What a method's tree declares: each class around the leaf the next one, and the rest inside
the leaf. -/
theorem declaredAt_nest_iff (path : List String) (name : String) (m : Member) :
    DeclaredAt (nest c category isStatic outer leaf) path name m ↔
      (∃ after, category.name :: outer = path ++ after ∧ path ≠ [] ∧
        m = .nested (.ofClass (enclose isStatic after leaf)) ∧
        name = (enclose isStatic after leaf).name) ∨
      ∃ rest, path = category.name :: outer ++ rest ∧ DeclaredAt (.ofClass leaf) rest name m := by
  have next (inside : ClassNode) (after : List String)
      (only : inside.members = [.nested (.ofClass (enclose isStatic after leaf))]) :
      (m ∈ inside.members ∧ m.name? inside.name = some name) ↔
        m = .nested (.ofClass (enclose isStatic after leaf)) ∧
          name = (enclose isStatic after leaf).name := by
    rw [only, List.mem_singleton]
    constructor
    · rintro ⟨rfl, named⟩
      exact ⟨rfl, (Option.some.inj named).symm⟩
    · rintro ⟨rfl, rfl⟩
      exact ⟨rfl, rfl⟩
  constructor
  · rintro ⟨inside, stands, declared⟩
    rcases (classAt_nest_iff c category isStatic outer leaf path inside).mp stands with
      ⟨rfl, rfl⟩ | ⟨rest, rfl, deeper⟩
    · exact .inl ⟨outer, rfl, by simp, (next _ outer rfl).mp declared⟩
    · rcases (classAt_enclose_iff isStatic outer leaf rest inside).mp deeper with
        ⟨before, last, after, rfl, rfl, rfl⟩ | ⟨below, rfl, innermost⟩
      · exact .inl ⟨after, by simp, by simp, (next _ after rfl).mp declared⟩
      · exact .inr ⟨below, rfl, inside, innermost, declared⟩
  · rintro (⟨after, parts, nonempty, declared⟩ | ⟨rest, rfl, inside, stands, declared⟩)
    · cases path with
      | nil => contradiction
      | cons first path =>
        obtain ⟨rfl, rfl⟩ := List.cons.inj parts
        rcases List.eq_nil_or_concat path with rfl | ⟨before, last, rfl⟩
        · exact ⟨_, (classAt_nest_iff ..).mpr (.inl ⟨rfl, rfl⟩), (next _ _ rfl).mpr declared⟩
        · refine ⟨enclose isStatic (last :: after) leaf, (classAt_nest_iff ..).mpr (.inr ⟨_, rfl, ?_⟩),
            (next _ _ rfl).mpr declared⟩
          exact (classAt_enclose_iff ..).mpr (.inl ⟨before, last, after, by simp, by simp, rfl⟩)
    · refine ⟨inside, (classAt_nest_iff ..).mpr (.inr ⟨_, rfl, ?_⟩), declared⟩
      exact (classAt_enclose_iff ..).mpr (.inr ⟨rest, rfl, stands⟩)

theorem someClass_nest_iff (P : ClassNode → Prop) :
    SomeClass (nest c category isStatic outer leaf) P ↔
      P (outermost c category isStatic outer leaf) ∨
      (∃ before name after, outer = before ++ name :: after ∧ P (enclose isStatic (name :: after) leaf)) ∨
      SomeClass (.ofClass leaf) P := by
  constructor
  · rintro ⟨path, inside, stands, holds⟩
    rcases (classAt_nest_iff c category isStatic outer leaf path inside).mp stands with
      ⟨rfl, rfl⟩ | ⟨rest, rfl, deeper⟩
    · exact .inl holds
    · rcases (classAt_enclose_iff isStatic outer leaf rest inside).mp deeper with
        ⟨before, name, after, parts, rfl, rfl⟩ | ⟨below, rfl, innermost⟩
      · exact .inr (.inl ⟨before, name, after, parts, holds⟩)
      · exact .inr (.inr ⟨below, inside, innermost, holds⟩)
  · rintro (holds | ⟨before, name, after, parts, holds⟩ | ⟨below, inside, stands, holds⟩)
    · exact ⟨_, _, (classAt_nest_iff ..).mpr (.inl ⟨rfl, rfl⟩), holds⟩
    · have deeper := (classAt_enclose_iff isStatic outer leaf _ _).mpr
        (.inl ⟨before, name, after, parts, rfl, rfl⟩)
      exact ⟨_, _, (classAt_nest_iff ..).mpr (.inr ⟨_, rfl, deeper⟩), holds⟩
    · have deeper := (classAt_enclose_iff isStatic outer leaf _ _).mpr (.inr ⟨below, rfl, stands⟩)
      exact ⟨_, inside, (classAt_nest_iff ..).mpr (.inr ⟨_, rfl, deeper⟩), holds⟩

theorem someClass_nest_name_iff (name : String) :
    SomeClass (nest c category isStatic outer leaf) (·.name = name) ↔
      name = category.name ∨ name ∈ outer ∨ SomeClass (.ofClass leaf) (·.name = name) := by
  have root : (outermost c category isStatic outer leaf).name = name ↔ name = category.name := eq_comm
  have between : (∃ before part after, outer = before ++ part :: after ∧
      (enclose isStatic (part :: after) leaf).name = name) ↔ name ∈ outer := by
    rw [List.mem_iff_append]
    constructor
    · rintro ⟨before, part, after, parts, rfl⟩
      exact ⟨before, after, parts⟩
    · rintro ⟨before, after, parts⟩
      exact ⟨before, name, after, parts, rfl⟩
  rw [someClass_nest_iff, root, between]

/- The classes around the leaf hold nothing but classes. -/
theorem someClass_nest_member_iff {m : Member} (other : ∀ t, m ≠ .nested t) :
    SomeClass (nest c category isStatic outer leaf) (m ∈ ·.members) ↔
      SomeClass (.ofClass leaf) (m ∈ ·.members) := by
  have holdsNone (name : String) (after : List String) :
      m ∉ (enclose isStatic (name :: after) leaf).members := by
    simp [enclose, other]
  rw [someClass_nest_iff]
  constructor
  · rintro (holds | ⟨_, name, after, _, holds⟩ | holds)
    · exact absurd holds (holdsNone category.name outer)
    · exact absurd holds (holdsNone name after)
    · exact holds
  · exact fun holds => .inr (.inr holds)

end Nest

/-! The innermost classes -/

section Declares

variable {scope : Scope} {fs : List Field} {members : List Member}
  (built : List.Forall₂ (Declares scope) fs members)

include built

theorem plain_of_declares : ∀ m ∈ members, m.constructor? = none ∧ m.nested? = none := by
  intro m known
  obtain ⟨f, _, type, _, rfl⟩ := (mem_iff_of_declares built m).mp known
  exact ⟨rfl, rfl⟩

theorem requestClass_plain (leaf : String) : (requestClass leaf members).Plain :=
  List.forall_mem_cons.mpr ⟨⟨rfl, rfl⟩, plain_of_declares built⟩

theorem responseClass_plain : (responseClass members).Plain := plain_of_declares built

theorem notificationClass_plain (n : Notification) (leaf : String) :
    (notificationClass n leaf members).Plain :=
  List.forall_mem_cons.mpr ⟨⟨rfl, rfl⟩, plain_of_declares built⟩

theorem structClass_plain (c : Context) (t : StructType) : (structClass c t members).Plain :=
  plain_of_declares built

end Declares

section Leaf

variable {scope : Scope} {params : List Member} {ps : List Field}
  (first : List.Forall₂ (Declares scope) ps params)

include first

theorem requestLeaf_someClass_iff {result : List Member} {rs : List Field}
    (second : List.Forall₂ (Declares scope) rs result) (r : Request) (leaf : String)
    (P : ClassNode → Prop) :
    SomeClass (.ofClass (requestLeaf r leaf params result)) P ↔
      P (requestLeaf r leaf params result) ∨
      P ((requestClass leaf params).withJsonConstructor true) ∨
      P ((responseClass result).withJsonConstructor false) := by
  have request := someClass_of_flat ((requestClass_plain first leaf).flat true) P
  have response := someClass_of_flat ((responseClass_plain second).flat false) P
  rw [someClass_iff, ← request, ← response]
  simp only [nested_mem_requestLeaf_iff, or_and_right, exists_or, exists_eq_left]

theorem notificationClass_someClass_iff (n : Notification) (leaf : String) (P : ClassNode → Prop) :
    SomeClass (.ofClass ((notificationClass n leaf params).withJsonConstructor false)) P ↔
      P ((notificationClass n leaf params).withJsonConstructor false) :=
  someClass_of_flat ((notificationClass_plain first n leaf).flat false) P

end Leaf

end RpcSharp.Binding
