import RpcSharp.Proofs.Binding.Nesting
import RpcSharp.Proofs.Binding.Outcome

/-! The shape of the trees that are built. All are well-formed. For a method the way inwards spells
its name, through classes that are parts of their kind, and ends at a class with its content. -/

namespace RpcSharp.Binding

open RpcSharp.Code RpcSharp.Config RpcSharp.Schema

/-! Around the innermost class -/

/-- A class that holds another and nothing else. -/
def container (isStatic : Bool) (name : String) (inner : ClassNode) : ClassNode :=
  { name := name, isStatic := isStatic, isPartial := true, members := [.nested (.ofClass inner)] }

theorem nested_of_mem_container (isStatic : Bool) (name : String) {inner : ClassNode}
    {t : TypeNode} (nested : .nested t ∈ (container isStatic name inner).members) :
    t = .ofClass inner :=
  MemberOf.nested.inj (List.mem_singleton.mp nested)

theorem container_wellDeclared (isStatic : Bool) (name : String) (inner : ClassNode) :
    (container isStatic name inner).WellDeclared := by
  refine ⟨by simp [container, ClassOf.memberNames], ClassOf.constructorFirst_of_none ?_, ?_⟩
  · intro m known
    rw [List.mem_singleton.mp known]
    rfl
  · intro t nested
    exact ⟨inner, nested_of_mem_container isStatic name nested⟩

theorem container_nestedTypes (isStatic : Bool) (name : String) (inner : ClassNode) :
    (container isStatic name inner).nestedTypes = [.ofClass inner] := rfl

section Enclose

variable (isStatic : Bool) {leaf : ClassNode}

theorem everyClass_enclose {P : ClassNode → Prop}
    (around : ∀ name inner, P (container isStatic name inner))
    (inside : EveryClass (.ofClass leaf) P) (outer : List String) :
    EveryClass (.ofClass (enclose isStatic outer leaf)) P := by
  induction outer with
  | nil => exact inside
  | cons name outer ih =>
    refine (everyClass_iff _ P).mpr ⟨around name _, fun t nested => ?_⟩
    rw [nested_of_mem_container isStatic name nested]
    exact ih

theorem chain_enclose (ends : ∀ t, leaf.nestedTypes ≠ [t]) (outer : List String) :
    ∃ containers, Chain (.ofClass (enclose isStatic outer leaf)) containers leaf ∧
      containers.map (·.name) = outer ∧
      ∀ c ∈ containers, ∃ name inner, c = container isStatic name inner := by
  induction outer with
  | nil => exact ⟨[], .leaf ends, rfl, by simp⟩
  | cons name outer ih =>
    obtain ⟨containers, chain, names, single⟩ := ih
    refine ⟨_, .inner (container_nestedTypes isStatic name _) chain, ?_, ?_⟩
    · rw [List.map_cons, names]
      rfl
    · intro c known
      rcases List.mem_cons.mp known with rfl | later
      · exact ⟨name, _, rfl⟩
      · exact single c later

theorem nest_wellFormed (c : Context) (category : Category) (outer : List String)
    (declared : EveryClass (.ofClass leaf) ClassOf.WellDeclared)
    (bare : EveryClass (.ofClass leaf) (·.namespace = none)) :
    WellFormed (nest c category isStatic outer leaf) := by
  -- But for its namespace the root is a container like the others.
  have plain := container_wellDeclared isStatic category.name (enclose isStatic outer leaf)
  refine wellFormed_of_root (c := outermost c category isStatic outer leaf)
    ((everyClass_iff _ _).mpr ⟨?_, fun t nested => ?_⟩) rfl fun t nested => ?_
  · exact ⟨plain.distinct, plain.constructorFirst, plain.classes⟩
  · rw [nested_of_mem_container isStatic category.name nested]
    exact everyClass_enclose isStatic (container_wellDeclared isStatic) declared outer
  · rw [nested_of_mem_container isStatic category.name nested]
    exact everyClass_enclose isStatic (fun _ _ => rfl) bare outer

end Enclose

/-! The innermost classes -/

theorem properties_eq_nil_iff {scope : Scope} {fs : List Field} {members : List Member}
    (built : List.Forall₂ (Declares scope) fs members) :
    members.filterMap (·.property?) = [] ↔ fs = [] := by
  cases built with
  | nil => simp
  | cons first _ =>
    obtain ⟨type, _, rfl⟩ := first
    simp [MemberOf.property?]

section Request

variable {scope : Scope} {params result : List Member} {ps rs : List Field}
  (first : List.Forall₂ (Declares scope) ps params) (second : List.Forall₂ (Declares scope) rs result)
  (r : Request) (leaf : String)

include first second

theorem requestLeaf_everyClass_iff (P : ClassNode → Prop) :
    EveryClass (.ofClass (requestLeaf r leaf params result)) P ↔
      P (requestLeaf r leaf params result) ∧
      P ((requestClass leaf params).withJsonConstructor true) ∧
      P ((responseClass result).withJsonConstructor false) := by
  simp [everyClass_iff_not, requestLeaf_someClass_iff first second]

theorem requestLeaf_wellDeclared (distinct : (requestClass leaf params).memberNames.Nodup)
    (distinct' : (responseClass result).memberNames.Nodup) :
    EveryClass (.ofClass (requestLeaf r leaf params result)) ClassOf.WellDeclared := by
  rw [requestLeaf_everyClass_iff first second]
  refine ⟨⟨?_, ClassOf.constructorFirst_of_none ?_, ?_⟩, ?_, ?_⟩
  · rw [requestLeaf_memberNames]
    decide
  · simp [requestLeaf, idConstant, MemberOf.constructor?]
  · simp [requestLeaf, idConstant]
  · exact (requestClass_plain first leaf).wellDeclared true distinct
  · exact (responseClass_plain second).wellDeclared false distinct'

end Request

/-! The way to a method's innermost class -/

/-- The way inwards spells a method's name after its category, through parts of classes that hold
the next one alone, and ends at a class that knows the whole name. -/
structure MethodChain (category : Category) (isStatic : Bool) (method : String) (t : TypeNode)
    (outer : List ClassNode) (leaf : ClassNode) : Prop where
  chain : Chain t outer leaf
  names : (outer ++ [leaf]).map (·.name) = category.name :: segments method
  joined : ".".intercalate ((outer ++ [leaf]).map (·.name)).tail = method
  marks : ∀ c ∈ outer ++ [leaf], c.isPartial = true ∧ c.isStatic = isStatic
  single : ∀ c ∈ outer, ∃ inner, c.members = [.nested (.ofClass inner)]
  id : ∃ k : Constant, .constant k ∈ leaf.members ∧ k.name = "Id" ∧ k.value = "\"" ++ method ++ "\""

theorem nest_methodChain (c : Context) (category : Category) {isStatic : Bool} {method : String}
    {outer : List String} (leaf : ClassNode) (parts : segments method = outer ++ [leaf.name])
    (ends : ∀ t, leaf.nestedTypes ≠ [t]) (isPartial : leaf.isPartial = true)
    (static : leaf.isStatic = isStatic) (id : idConstant method ∈ leaf.members) :
    ∃ containers,
      MethodChain category isStatic method (nest c category isStatic outer leaf) containers leaf := by
  obtain ⟨containers, chain, names, single⟩ := chain_enclose isStatic ends outer
  have path : (outermost c category isStatic outer leaf :: containers ++ [leaf]).map (·.name) =
      category.name :: segments method := by
    rw [List.map_append, List.map_cons, names, parts]
    rfl
  refine ⟨outermost c category isStatic outer leaf :: containers, .inner rfl chain, path, ?_, ?_,
    ?_, _, id, rfl, rfl⟩
  · rw [path, List.tail_cons, intercalate_segments]
  · intro k known
    rcases List.mem_append.mp known with around | innermost
    · rcases List.mem_cons.mp around with rfl | later
      · exact ⟨rfl, rfl⟩
      · obtain ⟨name, inner, rfl⟩ := single k later
        exact ⟨rfl, rfl⟩
    · rw [List.mem_singleton.mp innermost]
      exact ⟨isPartial, static⟩
  · intro k known
    rcases List.mem_cons.mp known with rfl | later
    · exact ⟨_, rfl⟩
    · obtain ⟨name, inner, rfl⟩ := single k later
      exact ⟨inner, rfl⟩

theorem requestLeaf_methodChain (c : Context) {r : Request} {leaf : String} {outer : List String}
    (params result : List Member) (parts : segments r.method = outer ++ [leaf]) :
    ∃ containers, MethodChain .requests true r.method
      (nest c .requests true outer (requestLeaf r leaf params result)) containers
      (requestLeaf r leaf params result) := by
  have ends : ∀ u, (requestLeaf r leaf params result).nestedTypes ≠ [u] := by
    simp [requestLeaf, ClassOf.nestedTypes, MemberOf.nested?, idConstant]
  exact nest_methodChain c .requests _ parts ends rfl rfl List.mem_cons_self

/-- The members of a request's innermost class: its name, what is sent and what comes back. -/
def HoldsRequest (r : Request) (leaf : ClassNode) : Prop :=
  ∃ id request response,
    leaf.members = [.constant id, .nested (.ofClass request), .nested (.ofClass response)] ∧
    id.name = "Id" ∧ request.name = "Request" ∧ response.name = "Response" ∧
    request.constructor?.isSome = true ∧ (response.constructor?.isSome = true ↔ r.result ≠ [])

section Built

variable {c : Context} {t : TypeNode}

theorem buildRequest_shape {r : Request} (built : buildRequest c r = .ok t) :
    WellFormed t ∧
      ∃ outer leaf, MethodChain .requests true r.method t outer leaf ∧ HoldsRequest r leaf := by
  obtain ⟨leaf, outer, params, result, parts, first, second, distinct, distinct', rfl⟩ :=
    buildRequest_eq_ok built
  have declared := requestLeaf_wellDeclared first second r leaf distinct distinct'
  have bare := (requestLeaf_everyClass_iff first second r leaf (·.namespace = none)).mpr
    ⟨rfl, ClassOf.withJsonConstructor_namespace _ _, ClassOf.withJsonConstructor_namespace _ _⟩
  obtain ⟨containers, chain⟩ := requestLeaf_methodChain c params result parts
  refine ⟨nest_wellFormed true c .requests outer declared bare, containers, _, chain, _, _, _, rfl, rfl,
    by simp [requestClass], by simp [responseClass], ?_, ?_⟩
  · exact ((requestClass_plain first leaf).constructor?_isSome_iff true).mpr (.inl rfl)
  · rw [(responseClass_plain second).constructor?_isSome_iff false]
    have fields := properties_eq_nil_iff second
    simp [ClassOf.properties, responseClass, fields]

theorem buildNotification_shape {n : Notification} (built : buildNotification c n = .ok t) :
    WellFormed t ∧ ∃ outer leaf, MethodChain .notifications false n.method t outer leaf := by
  obtain ⟨leaf, outer, params, parts, first, distinct, rfl⟩ := buildNotification_eq_ok built
  have plain := notificationClass_plain first n leaf
  have declared := (everyClass_of_flat (plain.flat false) _).mpr (plain.wellDeclared false distinct)
  have bare := (everyClass_of_flat (plain.flat false) (·.namespace = none)).mpr
    (ClassOf.withJsonConstructor_namespace _ _)
  have ends : ∀ u, ((notificationClass n leaf params).withJsonConstructor false).nestedTypes ≠ [u] := by
    simp [plain.nestedTypes_eq_nil]
  have id : idConstant n.method ∈ ((notificationClass n leaf params).withJsonConstructor false).members :=
    (ClassOf.mem_withJsonConstructor (by simp [idConstant])).mpr List.mem_cons_self
  obtain ⟨containers, chain⟩ := nest_methodChain c .notifications
    ((notificationClass n leaf params).withJsonConstructor false)
    (by simpa [notificationClass] using parts) ends (ClassOf.withJsonConstructor_isPartial _ _)
    (ClassOf.withJsonConstructor_isStatic _ _) id
  exact ⟨nest_wellFormed false c .notifications outer declared bare, containers, _, chain⟩

theorem buildStruct_shape {x : StructType} (built : buildStruct c x = .ok t) : WellFormed t := by
  obtain ⟨members, first, distinct, rfl⟩ := buildStruct_eq_ok built
  have plain := structClass_plain first c x
  have declared := (everyClass_of_flat (plain.flat false) _).mpr (plain.wellDeclared false distinct)
  refine wellFormed_of_root declared ?_ fun t nested => absurd nested (plain.flat false t)
  rw [ClassOf.withJsonConstructor_namespace]
  rfl

end Built

/-! Different methods -/

/-- The names on the way inwards. -/
def LeafPath (t : TypeNode) (path : List String) : Prop :=
  ∃ outer leaf, Chain t outer leaf ∧ path = (outer ++ [leaf]).map (·.name)

def Entry.IsMethod : Entry → Prop
  | .request _ | .notification _ => True
  | .structType _ | .enumType _ => False

theorem category_name_injective {a b : Category} (same : a.name = b.name) : a = b := by
  cases a <;> cases b <;> simp_all [Category.name]

theorem leafPath_eq {c : Context} {e : Entry} {t : TypeNode} {path : List String}
    (method : e.IsMethod) (built : e.build c = .ok t) (way : LeafPath t path) :
    path = e.id.category.name :: segments e.id.name := by
  obtain ⟨outer, leaf, chain, rfl⟩ := way
  cases e with
  | request r =>
    obtain ⟨_, outer', leaf', spelled, _⟩ := buildRequest_shape built
    obtain ⟨rfl, rfl⟩ := chain.unique spelled.chain
    exact spelled.names
  | notification n =>
    obtain ⟨_, outer', leaf', spelled⟩ := buildNotification_shape built
    obtain ⟨rfl, rfl⟩ := chain.unique spelled.chain
    exact spelled.names
  | structType x => cases method
  | enumType x => cases method

theorem id_eq_of_leafPath {c : Context} {e e' : Entry} {t t' : TypeNode} {path : List String}
    (method : e.IsMethod) (method' : e'.IsMethod) (built : e.build c = .ok t)
    (built' : e'.build c = .ok t') (way : LeafPath t path) (way' : LeafPath t' path) :
    e.id = e'.id := by
  have same := (leafPath_eq method built way).symm.trans (leafPath_eq method' built' way')
  obtain ⟨categories, parts⟩ := List.cons.inj same
  exact unitId_eq (category_name_injective categories) (segments_injective parts)

/-- Every tree that is built is well-formed, and a method's tree spells the method on the way
inwards, so that different methods never end up in the same class. -/
theorem build_wellFormed (d : Document) (s : Settings) :
    (∀ r t, buildRequest (context d s) r = .ok t → WellFormed t ∧
      ∃ outer leaf, MethodChain .requests true r.method t outer leaf ∧ HoldsRequest r leaf) ∧
    (∀ n t, buildNotification (context d s) n = .ok t → WellFormed t ∧
      ∃ outer leaf, MethodChain .notifications false n.method t outer leaf) ∧
    (∀ x t, buildStruct (context d s) x = .ok t → WellFormed t) ∧
    (∀ e e' t t' path, Entry.IsMethod e → Entry.IsMethod e' → e.build (context d s) = .ok t →
      e'.build (context d s) = .ok t' → LeafPath t path → LeafPath t' path → e.id = e'.id) := by
  refine ⟨?_, ?_, ?_, ?_⟩
  · intro r t built
    exact buildRequest_shape built
  · intro n t built
    exact buildNotification_shape built
  · intro x t built
    exact buildStruct_shape built
  · intro e e' t t' path method method' built built' way way'
    exact id_eq_of_leafPath method method' built built' way way'

def fetchRequest : Request where
  method := "Fetch.Caves.ByID"
  params := [{ name := "cave-id", type := "string" }, { name := "request", type := "boolean" }]
  result := [{ name := "cave", type := "Cave", optional := true }]

def logNotification : Notification where
  method := "Log.Message"
  params := [{ name := "message", type := "string" }]

def caveType : StructType where
  name := "Cave"
  fields := [{ name := "cave", type := "number" }]

def caveDocument : Document where
  requests := [fetchRequest]
  notifications := [logNotification]
  structTypes := [caveType]

theorem caveDocument_wellFormed :
    (∃ t outer leaf, buildRequest (context caveDocument {}) fetchRequest = .ok t ∧ WellFormed t ∧
      MethodChain .requests true "Fetch.Caves.ByID" t outer leaf ∧ HoldsRequest fetchRequest leaf) ∧
    (∃ t outer leaf, buildNotification (context caveDocument {}) logNotification = .ok t ∧
      WellFormed t ∧ MethodChain .notifications false "Log.Message" t outer leaf) ∧
    (∃ t, buildStruct (context caveDocument {}) caveType = .ok t ∧ WellFormed t) := by
  have valid : caveDocument.validate = .ok caveDocument := by decide
  have good : ∀ e ∈ entries caveDocument, e.Compilable := by decide
  have shapes := build_wellFormed caveDocument {}
  refine ⟨?_, ?_, ?_⟩
  · obtain ⟨t, built⟩ := exists_buildRequest valid good {} (r := fetchRequest) (by decide)
    obtain ⟨formed, outer, leaf, chain, content⟩ := shapes.1 _ t built
    exact ⟨t, outer, leaf, built, formed, chain, content⟩
  · obtain ⟨t, built⟩ := exists_buildNotification valid good {} (n := logNotification) (by decide)
    obtain ⟨formed, outer, leaf, chain⟩ := shapes.2.1 _ t built
    exact ⟨t, outer, leaf, built, formed, chain⟩
  · obtain ⟨t, built⟩ := exists_buildStruct valid good {} (x := caveType) (by decide)
    exact ⟨t, built, shapes.2.2.1 _ t built⟩

end RpcSharp.Binding
