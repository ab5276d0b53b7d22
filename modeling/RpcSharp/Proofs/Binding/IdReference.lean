import RpcSharp.Proofs.Binding.TreeShape

/-! What the method that sends a request refers to. It names the innermost class around it to get at
the constant with the method's name, and C# takes a name for the closest thing that is called so.
The class is found exactly if no parameter of the method, no member of the class of the method and
no member of the innermost class is closer. -/

namespace RpcSharp.Code

/-- The member that a class declares under a name. -/
def ClassOf.member? (c : ClassNode) (name : String) : Option Member :=
  c.members.find? (·.name? c.name == some name)

/-- What a name by itself can mean in the body of a method. -/
inductive Meaning
  | parameter (p : Parameter)
  | member (declaring : ClassNode) (m : Member)

/-- Parameters come first, then the members of the classes around, the closest class first. -/
def meaning? (parameters : List Parameter) (around : List ClassNode) (name : String) :
    Option Meaning :=
  match parameters.find? (·.name == name) with
  | some p => some (.parameter p)
  | none => around.findSome? fun c => (c.member? name).map (.member c)

namespace ClassOf

theorem member?_eq_none_iff (c : ClassNode) (name : String) :
    c.member? name = none ↔ name ∉ c.memberNames := by
  rw [mem_memberNames_iff]
  simp [member?]

theorem mem_of_member? {c : ClassNode} {name : String} {m : Member}
    (found : c.member? name = some m) : m ∈ c.members :=
  List.mem_of_find?_eq_some found

theorem member?_withJsonConstructor (c : ClassNode) (always : Bool) (name : String) :
    (c.withJsonConstructor always).member? name = c.member? name := by
  rcases c.withJsonConstructor_eq always with same | added
  · rw [same]
  · rw [added]
    rfl

end ClassOf

section Meaning

variable {parameters : List Parameter} {name : String}

theorem meaning?_of_parameter (around : List ClassNode) (known : name ∈ parameters.map (·.name)) :
    ∃ p, meaning? parameters around name = some (.parameter p) := by
  unfold meaning?
  cases found : parameters.find? (·.name == name) with
  | some p => exact ⟨p, rfl⟩
  | none =>
    obtain ⟨p, listed, named⟩ := List.mem_map.mp known
    have other := List.find?_eq_none.mp found p listed
    simp [named] at other

theorem meaning?_eq_of_not_parameter (around : List ClassNode)
    (unknown : name ∉ parameters.map (·.name)) :
    meaning? parameters around name = around.findSome? fun c => (c.member? name).map (.member c) := by
  have none : parameters.find? (·.name == name) = none := by
    refine List.find?_eq_none.mpr fun p listed named => unknown ?_
    exact List.mem_map.mpr ⟨p, listed, by simpa using named⟩
  rw [meaning?, none]

end Meaning

/- The class that a way ends at is the one type in the class before it. -/
theorem Chain.parent {t : TypeNode} {outer : List ClassNode} {leaf : ClassNode}
    (chain : Chain t outer leaf) {before : List ClassNode} {parent : ClassNode}
    (last : outer = before ++ [parent]) : parent.nestedTypes = [.ofClass leaf] := by
  induction chain generalizing before with
  | leaf _ => simp at last
  | @inner c leaf t outer single rest ih =>
    cases before with
    | nil =>
      obtain ⟨rfl, rfl⟩ := List.cons.inj last
      cases rest with
      | leaf _ => exact single
    | cons first before => exact ih (List.cons.inj last).2

end RpcSharp.Code

namespace RpcSharp.Binding

open RpcSharp.Code RpcSharp.Config RpcSharp.Schema

/-- The method that sends stands in the class of the request, in the class at the end of the way
inwards, and names that class for its constant. -/
structure Sends (t : TypeNode) (outer : List ClassNode) (leaf request : ClassNode) (send : Method) :
    Prop where
  chain : Chain t outer leaf
  inside : leaf.member? "Request" = some (.nested (.ofClass request))
  method : request.member? "SendAsync" = some (.method send)
  body : send.body =
    ["return jsonRpc.InvokeWithParameterObjectAsync<Response>(" ++ leaf.name ++ ".Id, this);"]

/-- The names that are closer to the method than the innermost class. -/
def closerNames (leaf request : ClassNode) (send : Method) : List String :=
  send.parameters.map (·.name) ++ request.memberNames ++ leaf.memberNames

/-- In the method the name of the innermost class means a class whose constant `Id` is the name of
the method that is called. -/
def RefersToId (outer : List ClassNode) (leaf request : ClassNode) (send : Method)
    (method : String) : Prop :=
  ∃ declaring target k,
    meaning? send.parameters (request :: leaf :: outer.reverse) leaf.name =
      some (.member declaring (.nested (.ofClass target))) ∧
    target.member? "Id" = some (.constant k) ∧ k.value = "\"" ++ method ++ "\""

theorem Sends.unique {t : TypeNode} {outer outer' : List ClassNode}
    {leaf leaf' request request' : ClassNode} {send send' : Method}
    (one : Sends t outer leaf request send) (two : Sends t outer' leaf' request' send') :
    outer = outer' ∧ leaf = leaf' ∧ request = request' ∧ send = send' := by
  obtain ⟨rfl, rfl⟩ := one.chain.unique two.chain
  cases one.inside.symm.trans two.inside
  cases one.method.symm.trans two.method
  exact ⟨rfl, rfl, rfl, rfl⟩

/- There is always a class around the innermost one, and it holds nothing else. -/
theorem MethodChain.parent {category : Category} {isStatic : Bool} {method : String} {t : TypeNode}
    {outer : List ClassNode} {leaf : ClassNode}
    (spelled : MethodChain category isStatic method t outer leaf) :
    ∃ before parent, outer = before ++ [parent] ∧ parent.members = [.nested (.ofClass leaf)] := by
  rcases List.eq_nil_or_concat outer with rfl | ⟨before, parent, last⟩
  · have names := (List.cons.inj spelled.names).2
    exact absurd names.symm (segments_ne_nil method)
  · rw [List.concat_eq_append] at last
    obtain ⟨inner, only⟩ := spelled.single parent (by simp [last])
    have nested := spelled.chain.parent last
    simp only [ClassOf.nestedTypes, only, MemberOf.nested?, List.filterMap_cons,
      List.filterMap_nil, List.cons.injEq, and_true] at nested
    exact ⟨before, parent, last, by rw [only, nested]⟩

section Lookup

variable {outer : List ClassNode} {leaf request : ClassNode} {send : Method} {method : String}

/- Whatever is closer is no class with a constant. -/
theorem not_refersToId (flat : ∀ t, .nested t ∉ request.members)
    (bare : ∀ inner, .nested (.ofClass inner) ∈ leaf.members → ∀ k, .constant k ∉ inner.members)
    (closer : leaf.name ∈ closerNames leaf request send) :
    ¬ RefersToId outer leaf request send method := by
  rintro ⟨declaring, target, k, means, id, _⟩
  by_cases parameter : leaf.name ∈ send.parameters.map (·.name)
  · obtain ⟨p, taken⟩ := meaning?_of_parameter (request :: leaf :: outer.reverse) parameter
    rw [taken] at means
    cases means
  · rw [meaning?_eq_of_not_parameter _ parameter, List.findSome?_cons] at means
    cases first : request.member? leaf.name with
    | some m =>
      simp only [first, Option.map_some, Option.some.injEq, Meaning.member.injEq] at means
      have nested := ClassOf.mem_of_member? first
      rw [means.2] at nested
      exact flat _ nested
    | none =>
      simp only [first, Option.map_none, List.findSome?_cons] at means
      cases second : leaf.member? leaf.name with
      | some m =>
        simp only [second, Option.map_some, Option.some.injEq, Meaning.member.injEq] at means
        have nested := ClassOf.mem_of_member? second
        rw [means.2] at nested
        exact bare target nested k (ClassOf.mem_of_member? id)
      | none =>
        rw [ClassOf.member?_eq_none_iff] at first second
        simp only [closerNames, List.mem_append, parameter, first, second, or_self] at closer

theorem refersToId_of_not_closer {before : List ClassNode} {parent : ClassNode}
    (last : outer = before ++ [parent]) (only : parent.members = [.nested (.ofClass leaf)])
    {k : Constant} (id : leaf.member? "Id" = some (.constant k))
    (value : k.value = "\"" ++ method ++ "\"")
    (free : leaf.name ∉ closerNames leaf request send) :
    RefersToId outer leaf request send method := by
  simp only [closerNames, List.mem_append, not_or] at free
  obtain ⟨⟨parameter, first⟩, second⟩ := free
  rw [← ClassOf.member?_eq_none_iff] at first second
  have third : parent.member? leaf.name = some (.nested (.ofClass leaf)) := by
    simp [ClassOf.member?, only, TypeNode.name]
  refine ⟨parent, leaf, k, ?_, id, value⟩
  rw [meaning?_eq_of_not_parameter _ parameter, last]
  simp [first, second, third]

end Lookup

section Request

variable {scope : Scope} {params result : List Member} {ps rs : List Field}
  (first : List.Forall₂ (Declares scope) ps params) (second : List.Forall₂ (Declares scope) rs result)

theorem constant_not_mem_of_declares {fs : List Field} {members : List Member}
    (built : List.Forall₂ (Declares scope) fs members) (k : Constant) : .constant k ∉ members := by
  intro known
  obtain ⟨f, _, type, _, same⟩ := (mem_iff_of_declares built _).mp known
  cases same

include first second

theorem requestLeaf_bare (r : Request) (leaf : String) (inner : ClassNode)
    (nested : .nested (.ofClass inner) ∈ (requestLeaf r leaf params result).members)
    (k : Constant) : .constant k ∉ inner.members := by
  rcases (nested_mem_requestLeaf_iff r leaf params result _).mp nested with same | same <;> cases same
  · rw [ClassOf.mem_withJsonConstructor (by simp)]
    simpa [requestClass] using constant_not_mem_of_declares first k
  · rw [ClassOf.mem_withJsonConstructor (by simp)]
    exact constant_not_mem_of_declares second k

end Request

/-- The innermost class of a request has the name of the parameter of the method that sends, of this
method, of a member beside it or of a property for a field. -/
def LeafHidden (r : Request) : Prop :=
  leafName r.method ∈ ["jsonRpc", "SendAsync", "Id", "Request", "Response"] ∨
    ∃ f ∈ r.params, propertyName f.name "Request" = leafName r.method

instance (r : Request) : Decidable (LeafHidden r) := inferInstanceAs (Decidable (_ ∨ _))

theorem buildRequest_sends {c : Context} {r : Request} {t : TypeNode}
    (built : buildRequest c r = .ok t) :
    ∃ outer leaf request send, Sends t outer leaf request send ∧
      (RefersToId outer leaf request send r.method ↔ leaf.name ∉ closerNames leaf request send) ∧
      (leaf.name ∈ closerNames leaf request send ↔ LeafHidden r) := by
  obtain ⟨leaf, outer, params, result, parts, first, second, _, _, rfl⟩ := buildRequest_eq_ok built
  obtain ⟨containers, spelled⟩ := requestLeaf_methodChain c params result parts
  obtain ⟨before, parent, last, only⟩ := spelled.parent
  have flat := (requestClass_plain first leaf).flat true
  have bare := requestLeaf_bare first second r leaf
  have named : leafName r.method = leaf := leafName_eq parts
  refine ⟨containers, requestLeaf r leaf params result,
    (requestClass leaf params).withJsonConstructor true, sendMethod leaf, ?_, ?_, ?_⟩
  · refine ⟨spelled.chain, ?_, ?_, rfl⟩
    · simp [ClassOf.member?, requestLeaf, idConstant, TypeNode.name, requestClass]
    · rw [ClassOf.member?_withJsonConstructor]
      rfl
  · constructor
    · intro refers closer
      exact not_refersToId flat bare closer refers
    · exact refersToId_of_not_closer last only rfl rfl
  · unfold closerNames LeafHidden
    rw [ClassOf.withJsonConstructor_memberNames, requestClass_memberNames first,
      requestLeaf_memberNames, named]
    simp only [sendMethod, requestLeaf, List.map_cons, List.map_nil, List.mem_append, List.mem_cons,
      List.mem_map, List.not_mem_nil]
    grind

/-- The method that sends a request gets the name of the request from the innermost class exactly if
nothing closer has the name of this class: neither its parameter, nor a member of the class of the
request, nor a member of the innermost class itself. -/
theorem refersToId_iff_not_hidden (d : Document) (s : Settings) (r : Request) (t : TypeNode)
    (built : buildRequest (context d s) r = .ok t) :
    (∃ outer leaf request send, Sends t outer leaf request send) ∧
    ∀ outer leaf request send, Sends t outer leaf request send →
      (RefersToId outer leaf request send r.method ↔ leaf.name ∉ closerNames leaf request send) ∧
      (leaf.name ∈ closerNames leaf request send ↔ LeafHidden r) := by
  obtain ⟨outer, leaf, request, send, sends, refers, closer⟩ := buildRequest_sends built
  refine ⟨⟨outer, leaf, request, send, sends⟩, ?_⟩
  intro outer' leaf' request' send' sends'
  obtain ⟨rfl, rfl, rfl, rfl⟩ := sends.unique sends'
  exact ⟨refers, closer⟩

/- The last part of the name is also the first, and a field has the name of the class around it. -/
def seenDocument : Document where
  requests := [
    { method := "Fetch.Game.Fetch"
      params := [{ name := "game", type := "string" }, { name := "request", type := "string" }] }]

theorem seenDocument_refersToId :
    seenDocument.validate = .ok seenDocument ∧
    ∀ r ∈ seenDocument.requests, ∃ t outer leaf request send,
      buildRequest (context seenDocument {}) r = .ok t ∧ Sends t outer leaf request send ∧
        RefersToId outer leaf request send r.method := by
  have valid : seenDocument.validate = .ok seenDocument := by decide
  have good : ∀ e ∈ entries seenDocument, e.Compilable := by decide
  have seen : ∀ r ∈ seenDocument.requests, ¬ LeafHidden r := by decide
  refine ⟨valid, ?_⟩
  intro r listed
  obtain ⟨t, built⟩ := exists_buildRequest valid good {} listed
  obtain ⟨⟨outer, leaf, request, send, sends⟩, every⟩ :=
    refersToId_iff_not_hidden seenDocument {} r t built
  obtain ⟨refers, closer⟩ := every outer leaf request send sends
  exact ⟨t, outer, leaf, request, send, built, sends, refers.mpr (closer.not.mpr (seen r listed))⟩

/- Innermost classes with the name of a parameter, of a member beside the method and of a member of
their own. -/
def hiddenDocument : Document where
  requests := [
    { method := "Search.Games", params := [{ name := "games", type := "string" }] },
    { method := "Search.GameID", params := [{ name := "game-ID", type := "string" }] },
    { method := "Call.jsonRpc" }, { method := "SendAsync" }, { method := "Get.Id" },
    { method := "Get.Request" }, { method := "Get.Response" }]

theorem hiddenDocument_not_refersToId :
    hiddenDocument.validate = .ok hiddenDocument ∧
    ∀ r ∈ hiddenDocument.requests, ∃ t outer leaf request send,
      buildRequest (context hiddenDocument {}) r = .ok t ∧ Sends t outer leaf request send ∧
        leaf.name ∈ closerNames leaf request send ∧
        ¬ RefersToId outer leaf request send r.method := by
  have valid : hiddenDocument.validate = .ok hiddenDocument := by decide
  have good : ∀ e ∈ entries hiddenDocument, e.Compilable := by decide
  have hidden : ∀ r ∈ hiddenDocument.requests, LeafHidden r := by decide
  refine ⟨valid, ?_⟩
  intro r listed
  obtain ⟨t, built⟩ := exists_buildRequest valid good {} listed
  obtain ⟨outer, leaf, request, send, sends, refers, closer⟩ := buildRequest_sends built
  have taken := closer.mpr (hidden r listed)
  exact ⟨t, outer, leaf, request, send, built, sends, taken, fun found => refers.mp found taken⟩

end RpcSharp.Binding
