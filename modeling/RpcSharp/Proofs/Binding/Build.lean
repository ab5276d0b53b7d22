import Mathlib.Data.List.Forall2
import RpcSharp.Binding.Build
import RpcSharp.Proofs.Basic
import RpcSharp.Proofs.Code.Members
import RpcSharp.Proofs.Code.TypeName
import RpcSharp.Proofs.Schema.Names

/-! The steps of building a declaration: what each gives, when it refuses, and the shape of the
tree that a method gets in the end. -/

namespace RpcSharp.Binding

open RpcSharp.Code RpcSharp.Schema RpcSharp.Text

/-! The names around a method -/

/-- The classes that are generated beside those for the parts of a method's name. -/
def generatedNames : Category → List String
  | .requests => ["Requests", "Request", "Response"]
  | .notifications => ["Notifications"]
  | .structs => []
  | .enums => []

/-- A name means a class that is generated for the methods of a category. -/
def Shadows (d : Document) (c : Category) (name : String) : Prop :=
  (∃ method ∈ d.names c, name ∈ segments method) ∨ name ∈ generatedNames c

/-- The scope of the fields of a category's methods. -/
def scopeOf (d : Document) (c : Category) : Scope :=
  .ofMethods (d.names c) (generatedNames c) (d.names .enums)

theorem ofDocument_requests (d : Document) (base : String) :
    (Context.ofDocument d base).requests = scopeOf d .requests := rfl

theorem ofDocument_notifications (d : Document) (base : String) :
    (Context.ofDocument d base).notifications = scopeOf d .notifications := rfl

theorem mem_taken_iff (d : Document) (c : Category) (name : String) :
    name ∈ (scopeOf d c).taken ↔ Shadows d c name := by
  simp only [scopeOf, Scope.ofMethods, List.mem_append, List.mem_flatMap]
  exact Iff.rfl

/- Names that are accepted have no colons, and neither do those of generated classes. -/
theorem colon_not_mem_taken {d : Document} (valid : d.validate = .ok d) (c : Category) :
    ∀ name ∈ (scopeOf d c).taken, ':' ∉ name.toList := by
  intro name taken
  rcases (mem_taken_iff d c name).mp taken with ⟨method, listed, part⟩ | generated
  · intro colon
    have path := isPathChar_of_mem_segments valid listed part colon
    contradiction
  · have plain : ∀ name ∈ generatedNames c, ':' ∉ name.toList := by cases c <;> decide
    exact plain name generated

/-! The steps -/

theorem splitMethod_cases (method : String) :
    ((∃ segment ∈ segments method, allBlank segment.toList = true) ∧
      splitMethod method = .error (.emptySegment method)) ∨
    ((∀ segment ∈ segments method, allBlank segment.toList = false) ∧
      ∃ leaf outer, segments method = outer ++ [leaf] ∧ splitMethod method = .ok (leaf, outer)) := by
  have nonempty := splitWhere_ne_nil (· == '.') method.toList
  unfold splitMethod segments
  generalize splitWhere (· == '.') method.toList = pieces at nonempty
  by_cases blank : pieces.any allBlank = true
  · refine .inl ⟨?_, by simp [blank]⟩
    obtain ⟨piece, found, isBlank⟩ := List.any_eq_true.mp blank
    exact ⟨String.ofList piece, List.mem_map_of_mem found, by simpa using isBlank⟩
  · refine .inr ⟨?_, String.ofList (pieces.getLast nonempty), pieces.dropLast.map String.ofList, ?_, ?_⟩
    · simpa using blank
    · rw [← List.map_singleton, ← List.map_append, List.dropLast_append_getLast]
    · simp [blank, List.getLast?_eq_some_getLast nonempty]

theorem splitMethod_eq_ok {method leaf : String} {outer : List String}
    (split : splitMethod method = .ok (leaf, outer)) : segments method = outer ++ [leaf] := by
  rcases splitMethod_cases method with ⟨_, refused⟩ | ⟨_, leaf', outer', parts, built⟩
  · rw [refused] at split
    contradiction
  · rw [built] at split
    cases split
    exact parts

/-- What a field becomes: a property under its name, of the type that the scope gives it. -/
def Declares (scope : Scope) (f : Field) (m : Member) : Prop :=
  ∃ type, scope.fieldType f.type f.optional = .ok type ∧ m = .property ⟨f.name, type, f.doc⟩

theorem fieldProperty_eq_ok_iff (scope : Scope) (f : Field) (m : Member) :
    fieldProperty scope f = .ok m ↔ Declares scope f m := by
  simp only [fieldProperty, bind_eq_ok_iff, pure, Except.pure, Except.ok.injEq]
  constructor
  · rintro ⟨type, given, rfl⟩
    exact ⟨type, given, rfl⟩
  · rintro ⟨type, given, rfl⟩
    exact ⟨type, given, rfl⟩

theorem fieldProperties_eq_ok_iff (scope : Scope) (fs : List Field) (members : List Member) :
    fieldProperties scope fs = .ok members ↔ List.Forall₂ (Declares scope) fs members := by
  unfold fieldProperties
  induction fs generalizing members with
  | nil => simp [pure, Except.pure, eq_comm]
  | cons f fs ih =>
    simp only [List.mapM_cons, bind_eq_ok_iff, fieldProperty_eq_ok_iff, ih,
      List.forall₂_cons_left_iff, pure, Except.pure, Except.ok.injEq]
    constructor
    · rintro ⟨m, first, ms, rest, rfl⟩
      exact ⟨m, ms, first, rest, rfl⟩
    · rintro ⟨m, ms, first, rest, rfl⟩
      exact ⟨m, first, ms, rest, rfl⟩

/-- The first of the fields whose type cannot be written. -/
def FirstUnsupported (fs : List Field) (f : Field) : Prop :=
  ∃ before after, fs = before ++ f :: after ∧ (∀ g ∈ before, Supported g.type) ∧ ¬ Supported f.type

section Colons

variable {scope : Scope} (names : ∀ name ∈ scope.taken, ':' ∉ name.toList)

include names

theorem fieldProperty_cases (f : Field) :
    (Supported f.type ∧ ∃ m, fieldProperty scope f = .ok m) ∨
    (¬ Supported f.type ∧
      fieldProperty scope f = .error (.unsupportedType (scope.resolve f.type))) := by
  rw [← scope.supported_resolve_iff names]
  by_cases good : Supported (scope.resolve f.type)
  · obtain ⟨type, mapped⟩ := mapType_of_supported good
    refine .inl ⟨good, .property ⟨f.name, nullable type f.optional, f.doc⟩, ?_⟩
    simp [fieldProperty, Scope.fieldType, mapped, Except.map, bind, Except.bind, pure, Except.pure]
  · refine .inr ⟨good, ?_⟩
    simp [fieldProperty, Scope.fieldType, mapType_of_unsupported good, Except.map, bind, Except.bind]

theorem fieldProperties_cases (fs : List Field) :
    ((∀ f ∈ fs, Supported f.type) ∧ ∃ members, fieldProperties scope fs = .ok members) ∨
    ∃ f, FirstUnsupported fs f ∧
      fieldProperties scope fs = .error (.unsupportedType (scope.resolve f.type)) := by
  unfold fieldProperties
  induction fs with
  | nil => exact .inl ⟨by simp, [], rfl⟩
  | cons f fs ih =>
    rw [List.mapM_cons]
    rcases fieldProperty_cases names f with ⟨good, m, built⟩ | ⟨bad, refused⟩
    · rcases ih with ⟨others, ms, rest⟩ | ⟨g, ⟨before, after, rfl, early, bad⟩, refused⟩
      · exact .inl ⟨by simpa [good] using others, m :: ms, by rw [built, rest]; rfl⟩
      · refine .inr ⟨g, ⟨f :: before, after, rfl, by simpa [good] using early, bad⟩, ?_⟩
        rw [built, refused]
        rfl
    · exact .inr ⟨f, ⟨[], fs, rfl, by simp, bad⟩, by rw [refused]; rfl⟩

end Colons

/- The members that fields become declare the fields' property names and hold no types. -/
theorem filterMap_name?_of_declares {scope : Scope} {fs : List Field} {members : List Member}
    (built : List.Forall₂ (Declares scope) fs members) (enclosing : String) :
    members.filterMap (·.name? enclosing) = fs.map (propertyName ·.name enclosing) := by
  induction built with
  | nil => rfl
  | cons first _ ih =>
    obtain ⟨type, _, rfl⟩ := first
    simp [ih]

theorem firstMisfit?_of_declares {scope : Scope} {fs : List Field} {members : List Member}
    (built : List.Forall₂ (Declares scope) fs members) : firstMisfit? members = none := by
  induction built with
  | nil => rfl
  | cons first _ ih =>
    obtain ⟨type, _, rfl⟩ := first
    simp [firstMisfit?, memberMisfit?, ih]

theorem mem_iff_of_declares {scope : Scope} {fs : List Field} {members : List Member}
    (built : List.Forall₂ (Declares scope) fs members) (m : Member) :
    m ∈ members ↔ ∃ f ∈ fs, Declares scope f m := by
  induction built with
  | nil => simp
  | @cons f first fs members declares _ ih =>
    have same : m = first ↔ Declares scope f m := by
      obtain ⟨type, given, rfl⟩ := declares
      constructor
      · rintro rfl
        exact ⟨type, given, rfl⟩
      · rintro ⟨type', given', rfl⟩
        cases given.symm.trans given'
        rfl
    simp [same, ih]

theorem fieldType_of_declares {scope : Scope} {fs : List Field} {members : List Member}
    (built : List.Forall₂ (Declares scope) fs members) :
    ∀ f ∈ fs, ∃ type, scope.fieldType f.type f.optional = .ok type := by
  induction built with
  | nil => simp
  | cons first _ ih =>
    obtain ⟨type, given, _⟩ := first
    simpa [given] using ih

theorem firstMisfit?_enclose (isStatic : Bool) (outer : List String) (leaf : ClassNode) :
    firstMisfit? (enclose isStatic outer leaf).members = firstMisfit? leaf.members := by
  induction outer with
  | nil => rfl
  | cons name outer ih => simpa [enclose, firstMisfit?, memberMisfit?] using ih

theorem nest_misfit? (c : Context) (category : Category) (isStatic : Bool) (outer : List String)
    (leaf : ClassNode) : (nest c category isStatic outer leaf).misfit? = firstMisfit? leaf.members :=
  firstMisfit?_enclose isStatic (category.name :: outer) leaf

/-! The classes of a method -/

def requestClass (leaf : String) (params : List Member) : ClassNode :=
  { name := "Request", members := .method (sendMethod leaf) :: params }

def responseClass (result : List Member) : ClassNode := { name := "Response", members := result }

def notificationClass (n : Notification) (leaf : String) (params : List Member) : ClassNode :=
  { name := leaf, doc := n.doc, isPartial := true, members := idConstant n.method :: params }

def structClass (c : Context) (t : StructType) (members : List Member) : ClassNode :=
  { name := t.name, «namespace» := some (Category.structs.namespace c.base), doc := t.doc
    members := members }

/-- The innermost class of a request, around its parameters and its result. -/
def requestLeaf (r : Request) (leaf : String) (params result : List Member) : ClassNode :=
  { name := leaf, doc := r.doc, isStatic := true, isPartial := true
    members := [
      idConstant r.method,
      .nested (.ofClass ((requestClass leaf params).withJsonConstructor true)),
      .nested (.ofClass ((responseClass result).withJsonConstructor false))] }

theorem requestLeaf_memberNames (r : Request) (leaf : String) (params result : List Member) :
    (requestLeaf r leaf params result).memberNames = ["Id", "Request", "Response"] := by
  simp [requestLeaf, ClassOf.memberNames, idConstant, TypeNode.name, requestClass, responseClass]

theorem nested_mem_requestLeaf_iff (r : Request) (leaf : String) (params result : List Member)
    (t : TypeNode) :
    .nested t ∈ (requestLeaf r leaf params result).members ↔
      t = .ofClass ((requestClass leaf params).withJsonConstructor true) ∨
      t = .ofClass ((responseClass result).withJsonConstructor false) := by
  simp [requestLeaf, idConstant]

section MemberNames

variable {scope : Scope} {fs : List Field} {members : List Member}
  (built : List.Forall₂ (Declares scope) fs members)

include built

theorem requestClass_memberNames (leaf : String) :
    (requestClass leaf members).memberNames =
      "SendAsync" :: fs.map (propertyName ·.name "Request") := by
  have named : MemberOf.name? "Request" (.method (sendMethod leaf)) = some "SendAsync" := rfl
  simp [requestClass, ClassOf.memberNames, named, filterMap_name?_of_declares built]

theorem responseClass_memberNames :
    (responseClass members).memberNames = fs.map (propertyName ·.name "Response") :=
  filterMap_name?_of_declares built "Response"

theorem notificationClass_memberNames (n : Notification) (leaf : String) :
    (notificationClass n leaf members).memberNames =
      "Id" :: fs.map (propertyName ·.name leaf) := by
  simp [notificationClass, ClassOf.memberNames, idConstant, filterMap_name?_of_declares built]

theorem structClass_memberNames (c : Context) (t : StructType) :
    (structClass c t members).memberNames = fs.map (propertyName ·.name t.name) :=
  filterMap_name?_of_declares built t.name

end MemberNames

/-! The trees of entries that are built -/

theorem buildRequest_eq_ok {c : Context} {r : Request} {t : TypeNode}
    (built : buildRequest c r = .ok t) :
    ∃ leaf outer params result, segments r.method = outer ++ [leaf] ∧
      List.Forall₂ (Declares c.requests) r.params params ∧
      List.Forall₂ (Declares c.requests) r.result result ∧
      (requestClass leaf params).memberNames.Nodup ∧ (responseClass result).memberNames.Nodup ∧
      t = nest c .requests true outer (requestLeaf r leaf params result) := by
  simp only [buildRequest, bind_eq_ok_iff, pure, Except.pure, Except.ok.injEq] at built
  obtain ⟨⟨leaf, outer⟩, split, params, first, result, second, request, unique, response, unique',
    content, unique'', rfl⟩ := built
  obtain ⟨distinct, rfl⟩ := (ClassOf.requireUnique_eq_ok_iff _ _).mp unique
  obtain ⟨distinct', rfl⟩ := (ClassOf.requireUnique_eq_ok_iff _ _).mp unique'
  obtain ⟨_, rfl⟩ := (ClassOf.requireUnique_eq_ok_iff _ _).mp unique''
  exact ⟨leaf, outer, params, result, splitMethod_eq_ok split,
    (fieldProperties_eq_ok_iff _ _ _).mp first, (fieldProperties_eq_ok_iff _ _ _).mp second,
    distinct, distinct', rfl⟩

theorem buildNotification_eq_ok {c : Context} {n : Notification} {t : TypeNode}
    (built : buildNotification c n = .ok t) :
    ∃ leaf outer params, segments n.method = outer ++ [leaf] ∧
      List.Forall₂ (Declares c.notifications) n.params params ∧
      (notificationClass n leaf params).memberNames.Nodup ∧
      t = nest c .notifications false outer
        ((notificationClass n leaf params).withJsonConstructor false) := by
  simp only [buildNotification, bind_eq_ok_iff, pure, Except.pure, Except.ok.injEq] at built
  obtain ⟨⟨leaf, outer⟩, split, params, first, content, unique, rfl⟩ := built
  obtain ⟨distinct, rfl⟩ := (ClassOf.requireUnique_eq_ok_iff _ _).mp unique
  exact ⟨leaf, outer, params, splitMethod_eq_ok split, (fieldProperties_eq_ok_iff _ _ _).mp first,
    distinct, rfl⟩

theorem buildStruct_eq_ok {c : Context} {s : StructType} {t : TypeNode}
    (built : buildStruct c s = .ok t) :
    ∃ members, List.Forall₂ (Declares {}) s.fields members ∧
      (structClass c s members).memberNames.Nodup ∧
      t = .ofClass ((structClass c s members).withJsonConstructor false) := by
  simp only [buildStruct, bind_eq_ok_iff, pure, Except.pure, Except.ok.injEq] at built
  obtain ⟨members, first, content, unique, rfl⟩ := built
  obtain ⟨distinct, rfl⟩ := (ClassOf.requireUnique_eq_ok_iff _ _).mp unique
  exact ⟨members, (fieldProperties_eq_ok_iff _ _ _).mp first, distinct, rfl⟩

end RpcSharp.Binding
