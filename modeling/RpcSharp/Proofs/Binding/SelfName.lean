import RpcSharp.Proofs.Binding.Nesting
import RpcSharp.Proofs.Binding.Outcome

/-! Classes that declare their own name, which C# refuses. Properties are renamed, so only nested
classes and constants can do this: where a part of a method's name stands beside itself, where the
first part is the name of the category, and where the last part is the name of something that the
innermost class declares. -/

namespace RpcSharp.Binding

open RpcSharp.Code RpcSharp.Config RpcSharp.Schema

/-- A class declares a member with the name of the class. -/
def NamesItself (c : ClassNode) : Prop := c.name ∈ c.memberNames

/-- Some name stands twice in a row. -/
def Doubled (names : List String) : Prop :=
  ∃ before name after, names = before ++ name :: name :: after

theorem not_doubled_single (name : String) : ¬ Doubled [name] := by
  rintro ⟨before, twice, after, same⟩
  have length := congrArg List.length same
  simp only [List.length_append, List.length_cons, List.length_nil] at length
  omega

theorem doubled_cons_cons_iff (first second : String) (rest : List String) :
    Doubled (first :: second :: rest) ↔ first = second ∨ Doubled (second :: rest) := by
  constructor
  · rintro ⟨before, name, after, same⟩
    cases before with
    | nil =>
      obtain ⟨rfl, same⟩ := List.cons.inj same
      exact .inl (List.cons.inj same).1.symm
    | cons _ before => exact .inr ⟨before, name, after, (List.cons.inj same).2⟩
  · rintro (rfl | ⟨before, name, after, same⟩)
    · exact ⟨[], first, rest, rfl⟩
    · exact ⟨first :: before, name, after, by rw [same, List.cons_append]⟩

instance decidableDoubled : (names : List String) → Decidable (Doubled names)
  | [] => isFalse (by simp [Doubled])
  | [name] => isFalse (not_doubled_single name)
  | first :: second :: rest =>
    have := decidableDoubled (second :: rest)
    decidable_of_iff _ (doubled_cons_cons_iff first second rest).symm

/-! Inside -/

theorem propertyName_ne (field enclosing : String) : propertyName field enclosing ≠ enclosing := by
  unfold propertyName
  intro same
  dsimp only at same
  split at same
  · rename_i collides
    have length := congrArg String.length same
    rw [collides, String.length_append] at length
    have suffix : "Value".length = 5 := rfl
    omega
  · contradiction

theorem not_mem_propertyNames (fs : List Field) (enclosing : String) :
    enclosing ∉ fs.map (propertyName ·.name enclosing) := by
  intro known
  obtain ⟨f, _, same⟩ := List.mem_map.mp known
  exact propertyName_ne f.name enclosing same

section Leaf

variable {scope : Scope} {params : List Member} {ps : List Field}
  (first : List.Forall₂ (Declares scope) ps params)

include first

theorem requestLeaf_namesItself_iff {result : List Member} {rs : List Field}
    (second : List.Forall₂ (Declares scope) rs result) (r : Request) (leaf : String) :
    SomeClass (.ofClass (requestLeaf r leaf params result)) NamesItself ↔
      leaf ∈ ["Id", "Request", "Response"] := by
  have request : ¬ NamesItself ((requestClass leaf params).withJsonConstructor true) := by
    unfold NamesItself
    rw [ClassOf.withJsonConstructor_memberNames, requestClass_memberNames first,
      ClassOf.withJsonConstructor_name, List.mem_cons, not_or]
    exact ⟨by simp [requestClass], not_mem_propertyNames ps "Request"⟩
  have response : ¬ NamesItself ((responseClass result).withJsonConstructor false) := by
    unfold NamesItself
    rw [ClassOf.withJsonConstructor_memberNames, responseClass_memberNames second,
      ClassOf.withJsonConstructor_name]
    exact not_mem_propertyNames rs "Response"
  have here : NamesItself (requestLeaf r leaf params result) ↔
      leaf ∈ ["Id", "Request", "Response"] := by
    unfold NamesItself
    rw [requestLeaf_memberNames]
    rfl
  simp only [requestLeaf_someClass_iff first second, here, request, response, or_false]

theorem notificationClass_namesItself_iff (n : Notification) (leaf : String) :
    SomeClass (.ofClass ((notificationClass n leaf params).withJsonConstructor false)) NamesItself ↔
      leaf = "Id" := by
  rw [notificationClass_someClass_iff first]
  unfold NamesItself
  rw [ClassOf.withJsonConstructor_memberNames, notificationClass_memberNames first,
    ClassOf.withJsonConstructor_name, List.mem_cons]
  exact or_iff_left (not_mem_propertyNames ps leaf)

theorem structClass_not_namesItself (c : Context) (x : StructType) :
    ¬ SomeClass (.ofClass ((structClass c x params).withJsonConstructor false)) NamesItself := by
  rw [someClass_of_flat ((structClass_plain first c x).flat false)]
  unfold NamesItself
  rw [ClassOf.withJsonConstructor_memberNames, structClass_memberNames first,
    ClassOf.withJsonConstructor_name]
  exact not_mem_propertyNames ps x.name

end Leaf

/-! Around -/

section Around

variable (isStatic : Bool) (leaf : ClassNode)

/- A class that holds the next one alone declares its name and nothing else. -/
theorem someClass_around_iff {c : ClassNode} {outer : List String}
    (only : c.members = [.nested (.ofClass (enclose isStatic outer leaf))])
    (inside : SomeClass (.ofClass (enclose isStatic outer leaf)) NamesItself ↔
      Doubled (outer ++ [leaf.name]) ∨ SomeClass (.ofClass leaf) NamesItself) :
    SomeClass (.ofClass c) NamesItself ↔
      Doubled (c.name :: (outer ++ [leaf.name])) ∨ SomeClass (.ofClass leaf) NamesItself := by
  obtain ⟨rest, names⟩ := enclose_name isStatic outer leaf
  have here : NamesItself c ↔ c.name = (enclose isStatic outer leaf).name := by
    unfold NamesItself
    simp [ClassOf.memberNames, only, TypeNode.name]
  have nested (t : TypeNode) :
      .nested t ∈ c.members ↔ t = .ofClass (enclose isStatic outer leaf) := by
    simp [only]
  rw [someClass_iff, here]
  simp only [nested, exists_eq_left, inside]
  rw [names, doubled_cons_cons_iff, or_assoc]

theorem enclose_namesItself_iff (outer : List String) :
    SomeClass (.ofClass (enclose isStatic outer leaf)) NamesItself ↔
      Doubled (outer ++ [leaf.name]) ∨ SomeClass (.ofClass leaf) NamesItself := by
  induction outer with
  | nil => exact (or_iff_right (not_doubled_single leaf.name)).symm
  | cons name outer ih => exact someClass_around_iff isStatic leaf rfl ih

theorem nest_namesItself_iff (c : Context) (category : Category) {method : String}
    {outer : List String} (parts : segments method = outer ++ [leaf.name]) :
    SomeClass (nest c category isStatic outer leaf) NamesItself ↔
      Doubled (category.name :: segments method) ∨ SomeClass (.ofClass leaf) NamesItself := by
  have inside := enclose_namesItself_iff isStatic leaf outer
  rw [parts]
  exact someClass_around_iff isStatic leaf
    (c := outermost c category isStatic outer leaf) rfl inside

end Around

section Built

variable {c : Context} {t : TypeNode}

theorem buildRequest_namesItself_iff {r : Request} (built : buildRequest c r = .ok t) :
    SomeClass t NamesItself ↔
      Doubled ("Requests" :: segments r.method) ∨
        leafName r.method ∈ ["Id", "Request", "Response"] := by
  obtain ⟨leaf, outer, params, result, parts, first, second, _, _, rfl⟩ := buildRequest_eq_ok built
  rw [nest_namesItself_iff true (requestLeaf r leaf params result) c .requests parts,
    requestLeaf_namesItself_iff first second, leafName_eq parts]
  rfl

theorem buildNotification_namesItself_iff {n : Notification}
    (built : buildNotification c n = .ok t) :
    SomeClass t NamesItself ↔
      Doubled ("Notifications" :: segments n.method) ∨ leafName n.method = "Id" := by
  obtain ⟨leaf, outer, params, parts, first, _, rfl⟩ := buildNotification_eq_ok built
  have named : segments n.method =
      outer ++ [((notificationClass n leaf params).withJsonConstructor false).name] := by
    rw [ClassOf.withJsonConstructor_name]
    exact parts
  rw [nest_namesItself_iff false _ c .notifications named, notificationClass_namesItself_iff first,
    leafName_eq parts]
  rfl

theorem buildStruct_not_namesItself {x : StructType} (built : buildStruct c x = .ok t) :
    ¬ SomeClass t NamesItself := by
  obtain ⟨members, first, _, rfl⟩ := buildStruct_eq_ok built
  exact structClass_not_namesItself first c x

end Built

/-- The exact methods for which some class declares its own name. Types never do so, whatever their
fields are called. -/
theorem namesItself_iff_doubled (d : Document) (s : Settings) :
    (∀ r t, buildRequest (context d s) r = .ok t →
      (SomeClass t NamesItself ↔
        Doubled ("Requests" :: segments r.method) ∨
          leafName r.method ∈ ["Id", "Request", "Response"])) ∧
    (∀ n t, buildNotification (context d s) n = .ok t →
      (SomeClass t NamesItself ↔
        Doubled ("Notifications" :: segments n.method) ∨ leafName n.method = "Id")) ∧
    (∀ x t, buildStruct (context d s) x = .ok t → ¬ SomeClass t NamesItself) := by
  refine ⟨?_, ?_, ?_⟩
  · intro r t built
    exact buildRequest_namesItself_iff built
  · intro n t built
    exact buildNotification_namesItself_iff built
  · intro x t built
    exact buildStruct_not_namesItself built

/- Parts that stand twice but apart, and fields with the names of the classes around them. -/
def apartDocument : Document where
  requests := [
    { method := "List.Games.List"
      params := [{ name := "request", type := "string" }, { name := "list", type := "string" }] }]
  notifications := [
    { method := "Log.Message.Log", params := [{ name := "log", type := "string" }] }]
  structTypes := [{ name := "Game", fields := [{ name := "game", type := "string" }] }]

theorem apartDocument_not_namesItself :
    apartDocument.validate = .ok apartDocument ∧
    (∀ r ∈ apartDocument.requests, ∃ t,
      buildRequest (context apartDocument {}) r = .ok t ∧ ¬ SomeClass t NamesItself) ∧
    (∀ n ∈ apartDocument.notifications, ∃ t,
      buildNotification (context apartDocument {}) n = .ok t ∧ ¬ SomeClass t NamesItself) ∧
    (∀ x ∈ apartDocument.structTypes, ∃ t,
      buildStruct (context apartDocument {}) x = .ok t ∧ ¬ SomeClass t NamesItself) := by
  have valid : apartDocument.validate = .ok apartDocument := by decide
  have good : ∀ e ∈ entries apartDocument, e.Compilable := by decide
  have requests : ∀ r ∈ apartDocument.requests, ¬ (Doubled ("Requests" :: segments r.method) ∨
      leafName r.method ∈ ["Id", "Request", "Response"]) := by
    decide
  have notifications : ∀ n ∈ apartDocument.notifications,
      ¬ (Doubled ("Notifications" :: segments n.method) ∨ leafName n.method = "Id") := by
    decide
  have names := namesItself_iff_doubled apartDocument {}
  refine ⟨valid, ?_, ?_, ?_⟩
  · intro r listed
    obtain ⟨t, built⟩ := exists_buildRequest valid good {} listed
    exact ⟨t, built, (names.1 r t built).not.mpr (requests r listed)⟩
  · intro n listed
    obtain ⟨t, built⟩ := exists_buildNotification valid good {} listed
    exact ⟨t, built, (names.2.1 n t built).not.mpr (notifications n listed)⟩
  · intro x listed
    obtain ⟨t, built⟩ := exists_buildStruct valid good {} listed
    exact ⟨t, built, names.2.2 x t built⟩

/- Every way in which a class can get to declare its own name. -/
def echoDocument : Document where
  requests := [
    { method := "Profile.Profile" }, { method := "Requests.List" }, { method := "Game.Id" },
    { method := "Game.Request" }, { method := "Response" }]
  notifications := [{ method := "Log.Log" }, { method := "Notifications" }, { method := "Log.Id" }]

theorem echoDocument_namesItself :
    echoDocument.validate = .ok echoDocument ∧
    (∀ r ∈ echoDocument.requests, ∃ t,
      buildRequest (context echoDocument {}) r = .ok t ∧ SomeClass t NamesItself) ∧
    (∀ n ∈ echoDocument.notifications, ∃ t,
      buildNotification (context echoDocument {}) n = .ok t ∧ SomeClass t NamesItself) := by
  have valid : echoDocument.validate = .ok echoDocument := by decide
  have good : ∀ e ∈ entries echoDocument, e.Compilable := by decide
  have requests : ∀ r ∈ echoDocument.requests, Doubled ("Requests" :: segments r.method) ∨
      leafName r.method ∈ ["Id", "Request", "Response"] := by
    decide
  have notifications : ∀ n ∈ echoDocument.notifications,
      Doubled ("Notifications" :: segments n.method) ∨ leafName n.method = "Id" := by
    decide
  refine ⟨valid, ?_, ?_⟩
  · intro r listed
    obtain ⟨t, built⟩ := exists_buildRequest valid good {} listed
    exact ⟨t, built, (buildRequest_namesItself_iff built).mpr (requests r listed)⟩
  · intro n listed
    obtain ⟨t, built⟩ := exists_buildNotification valid good {} listed
    exact ⟨t, built, (buildNotification_namesItself_iff built).mpr (notifications n listed)⟩

end RpcSharp.Binding
