import RpcSharp.Proofs.Binding.Capture

/-! The classes for fields. A tree that is built has one for each list of fields of its entry, with the
fields in order as its properties, and these are the only classes that have methods. -/

namespace RpcSharp.Binding

open RpcSharp.Code RpcSharp.Config RpcSharp.Schema

/-- The paths of the classes that have properties, each with the fields that these are for. -/
def Entry.fieldClasses : Entry → List (List String × List Field)
  | .request r => [
      (Category.requests.name :: segments r.method ++ ["Request"], r.params),
      (Category.requests.name :: segments r.method ++ ["Response"], r.result)]
  | .notification n => [(Category.notifications.name :: segments n.method, n.params)]
  | .structType t => [([t.name], t.fields)]
  | .enumType _ => []

/-- A class with a property for each field, and with a constructor if it needs one. -/
inductive HoldsFields (scope : Scope) (fs : List Field) : ClassNode → Prop
  | mk {c : ClassNode} (always : Bool) : c.Plain →
      List.Forall₂ (fun f p => Declares scope f (.property p)) fs c.properties →
      HoldsFields scope fs (c.withJsonConstructor always)

/- The constructor is no property. -/
theorem HoldsFields.declared {scope : Scope} {fs : List Field} {c : ClassNode}
    (holds : HoldsFields scope fs c) :
    List.Forall₂ (fun f p => Declares scope f (.property p)) fs c.properties := by
  cases holds with
  | @mk c always _ declared =>
    rcases c.withJsonConstructor_eq always with same | added
    · rwa [same]
    · rwa [added]

theorem properties_of_declares {scope : Scope} {fs : List Field} {members : List Member}
    (built : List.Forall₂ (Declares scope) fs members) :
    List.Forall₂ (fun f p => Declares scope f (.property p)) fs (members.filterMap (·.property?)) := by
  induction built with
  | nil => exact .nil
  | cons first _ ih =>
    obtain ⟨type, given, rfl⟩ := first
    exact .cons ⟨type, given, rfl⟩ ih

section Holds

variable {scope : Scope} {fs : List Field} {members : List Member}
  (built : List.Forall₂ (Declares scope) fs members)

include built

theorem requestClass_holdsFields (leaf : String) :
    HoldsFields scope fs ((requestClass leaf members).withJsonConstructor true) :=
  have declared := properties_of_declares built
  .mk true (requestClass_plain built leaf) declared

theorem responseClass_holdsFields :
    HoldsFields scope fs ((responseClass members).withJsonConstructor false) :=
  .mk false (responseClass_plain built) (properties_of_declares built)

theorem notificationClass_holdsFields (n : Notification) (leaf : String) :
    HoldsFields scope fs ((notificationClass n leaf members).withJsonConstructor false) :=
  have declared := properties_of_declares built
  .mk false (notificationClass_plain built n leaf) declared

theorem structClass_holdsFields (c : Context) (t : StructType) :
    HoldsFields scope fs ((structClass c t members).withJsonConstructor false) :=
  .mk false (structClass_plain built c t) (properties_of_declares built)

end Holds

/-! Where they stand -/

theorem HoldsFields.classAt_iff {scope : Scope} {fs : List Field} {c : ClassNode}
    (holds : HoldsFields scope fs c) (path : List String) (inside : ClassNode) :
    ClassAt (.ofClass c) path inside ↔ path = [c.name] ∧ inside = c := by
  constructor
  · intro stands
    cases stands with
    | root c => exact ⟨rfl, rfl⟩
    | inner nested _ =>
      cases holds with
      | mk always plain _ => exact absurd nested (plain.flat always _)
  · rintro ⟨rfl, rfl⟩
    exact .root _

section Nest

variable (c : Context) (category : Category) (isStatic : Bool) (outer : List String)
  (leaf : ClassNode) {inside : ClassNode}

theorem classAt_nest_of_leaf {rest : List String} (stands : ClassAt (.ofClass leaf) rest inside) :
    ClassAt (nest c category isStatic outer leaf) (category.name :: outer ++ rest) inside :=
  (classAt_nest_iff ..).mpr (.inr ⟨outer ++ rest, rfl,
    (classAt_enclose_iff ..).mpr (.inr ⟨rest, rfl, stands⟩)⟩)

/- The classes around the leaf hold nothing but classes. -/
theorem classAt_leaf_of_member {path : List String} {m : Member}
    (stands : ClassAt (nest c category isStatic outer leaf) path inside)
    (known : m ∈ inside.members) (other : ∀ t, m ≠ .nested t) :
    ∃ rest, path = category.name :: outer ++ rest ∧ ClassAt (.ofClass leaf) rest inside := by
  have around (name : String) (after : List String) :
      m ∉ (enclose isStatic (name :: after) leaf).members := by
    simp [enclose, other]
  rcases (classAt_nest_iff c category isStatic outer leaf path inside).mp stands with
    ⟨_, rfl⟩ | ⟨rest, rfl, deeper⟩
  · exact absurd known (around category.name outer)
  · rcases (classAt_enclose_iff isStatic outer leaf rest inside).mp deeper with
      ⟨_, name, after, _, _, rfl⟩ | ⟨below, rfl, innermost⟩
    · exact absurd known (around name after)
    · exact ⟨below, rfl, innermost⟩

end Nest

theorem classAt_nest_of_nested (c : Context) (outer : List String) {r : Request} {leaf : String}
    {params result : List Member} {inside : ClassNode}
    (nested : .nested (.ofClass inside) ∈ (requestLeaf r leaf params result).members) :
    ClassAt (nest c .requests true outer (requestLeaf r leaf params result))
      (Category.requests.name :: (outer ++ [leaf]) ++ [inside.name]) inside := by
  have below : ClassAt (.ofClass (requestLeaf r leaf params result)) [leaf, inside.name] inside :=
    .inner nested (.root inside)
  simpa using classAt_nest_of_leaf c .requests true outer _ below

section Built

variable {c : Context} {e : Entry} {t : TypeNode} (built : e.build c = .ok t)

include built

theorem exists_holdsFields {path : List String} {fs : List Field}
    (listed : (path, fs) ∈ e.fieldClasses) :
    ∃ inside, ClassAt t path inside ∧ HoldsFields (e.scope c) fs inside := by
  cases e with
  | request r =>
    obtain ⟨leaf, outer, params, result, parts, first, second, _, _, rfl⟩ := buildRequest_eq_ok built
    simp only [Entry.fieldClasses, parts, List.mem_cons, List.not_mem_nil, or_false,
      Prod.mk.injEq] at listed
    rcases listed with ⟨rfl, rfl⟩ | ⟨rfl, rfl⟩
    · have holds := requestClass_holdsFields first leaf
      have stands := classAt_nest_of_nested c outer
        ((nested_mem_requestLeaf_iff r leaf params result _).mpr (.inl rfl))
      exact ⟨_, by simpa [requestClass] using stands, holds⟩
    · have holds := responseClass_holdsFields second
      have stands := classAt_nest_of_nested c outer
        ((nested_mem_requestLeaf_iff r leaf params result _).mpr (.inr rfl))
      exact ⟨_, by simpa [responseClass] using stands, holds⟩
  | notification n =>
    obtain ⟨leaf, outer, params, parts, first, _, rfl⟩ := buildNotification_eq_ok built
    simp only [Entry.fieldClasses, parts, List.mem_singleton, Prod.mk.injEq] at listed
    obtain ⟨rfl, rfl⟩ := listed
    have holds := notificationClass_holdsFields first n leaf
    have inner := (holds.classAt_iff [leaf] _).mpr ⟨by simp [notificationClass], rfl⟩
    exact ⟨_, classAt_nest_of_leaf c .notifications false outer _ inner, holds⟩
  | structType x =>
    obtain ⟨members, first, _, rfl⟩ := buildStruct_eq_ok built
    simp only [Entry.fieldClasses, List.mem_singleton, Prod.mk.injEq] at listed
    obtain ⟨rfl, rfl⟩ := listed
    have holds := structClass_holdsFields first c x
    refine ⟨_, (holds.classAt_iff _ _).mpr ⟨?_, rfl⟩, holds⟩
    simp [structClass]
  | enumType x => contradiction

theorem holdsFields_of_method {path : List String} {inside : ClassNode} {m : Method}
    (stands : ClassAt t path inside) (known : .method m ∈ inside.members) :
    ∃ fs, (path, fs) ∈ e.fieldClasses ∧ HoldsFields (e.scope c) fs inside := by
  cases e with
  | request r =>
    obtain ⟨leaf, outer, params, result, parts, first, second, _, _, rfl⟩ := buildRequest_eq_ok built
    obtain ⟨rest, rfl, below⟩ := classAt_leaf_of_member _ _ _ _ _ stands known (by simp)
    cases below with
    | root _ => simp [requestLeaf, idConstant] at known
    | inner nested below =>
      rcases (nested_mem_requestLeaf_iff ..).mp nested with rfl | rfl
      · have holds := requestClass_holdsFields first leaf
        obtain ⟨rfl, rfl⟩ := (holds.classAt_iff _ _).mp below
        refine ⟨r.params, ?_, holds⟩
        simp [Entry.fieldClasses, parts, requestLeaf, requestClass]
      · have holds := responseClass_holdsFields second
        obtain ⟨rfl, rfl⟩ := (holds.classAt_iff _ _).mp below
        refine ⟨r.result, ?_, holds⟩
        simp [Entry.fieldClasses, parts, requestLeaf, responseClass]
  | notification n =>
    obtain ⟨leaf, outer, params, parts, first, _, rfl⟩ := buildNotification_eq_ok built
    obtain ⟨rest, rfl, below⟩ := classAt_leaf_of_member _ _ _ _ _ stands known (by simp)
    have holds := notificationClass_holdsFields first n leaf
    obtain ⟨rfl, rfl⟩ := (holds.classAt_iff _ _).mp below
    refine ⟨n.params, ?_, holds⟩
    simp [Entry.fieldClasses, parts, notificationClass]
  | structType x =>
    obtain ⟨members, first, _, rfl⟩ := buildStruct_eq_ok built
    have holds := structClass_holdsFields first c x
    obtain ⟨rfl, rfl⟩ := (holds.classAt_iff _ _).mp stands
    refine ⟨x.fields, ?_, holds⟩
    simp [Entry.fieldClasses, structClass]
  | enumType x =>
    cases Except.ok.inj built
    cases stands

end Built

theorem Entry.mem_fields {e : Entry} {path : List String} {fs : List Field}
    (listed : (path, fs) ∈ e.fieldClasses) : ∀ f ∈ fs, f ∈ e.fields := by
  intro f known
  cases e with
  | request r =>
    simp only [fieldClasses, List.mem_cons, List.not_mem_nil, or_false, Prod.mk.injEq] at listed
    rcases listed with ⟨_, rfl⟩ | ⟨_, rfl⟩
    · exact List.mem_append_left _ known
    · exact List.mem_append_right _ known
  | notification n =>
    cases List.mem_singleton.mp listed
    exact known
  | structType x =>
    cases List.mem_singleton.mp listed
    exact known
  | enumType x => contradiction

end RpcSharp.Binding
