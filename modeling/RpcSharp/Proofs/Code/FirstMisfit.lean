import RpcSharp.Proofs.Code.Emission

/-! Which fault stops the writing of declarations: the first type inside an enumeration, in the order in
which the declarations are written. -/

namespace RpcSharp.Code

/-- A type stands in a tree: it is the root, or stands in a type that is a member of a class. -/
inductive Reached : TypeNode → TypeNode → Prop
  | root (t : TypeNode) : Reached t t
  | inner {c : ClassNode} {t inside : TypeNode} :
      .nested t ∈ c.members → Reached t inside → Reached (.ofClass c) inside

mutual

/-- The types of a tree from the outside in and in the order of members. An enumeration is not entered. -/
def TypeNode.visited : TypeNode → List TypeNode
  | .ofClass ⟨name, space, doc, isStatic, isPartial, members⟩ =>
    .ofClass ⟨name, space, doc, isStatic, isPartial, members⟩ :: visitedMembers members
  | .ofEnum e => [.ofEnum e]

def visitedMembers : List (MemberOf TypeNode) → List TypeNode
  | [] => []
  | member :: rest => visitedMember member ++ visitedMembers rest

def visitedMember : MemberOf TypeNode → List TypeNode
  | .nested t => t.visited
  | .constant _ => []
  | .property _ => []
  | .method _ => []

end

/-! What is visited is what stands in the tree -/

theorem visitedMember_subset {members : List Member} {m : Member} (known : m ∈ members) :
    visitedMember m ⊆ visitedMembers members := by
  induction members with
  | nil => contradiction
  | cons first rest ih =>
    intro inside seen
    rcases List.mem_cons.mp known with rfl | later
    · exact List.mem_append_left _ seen
    · exact List.mem_append_right _ (ih later seen)

mutual

theorem TypeNode.reached_of_visited (t : TypeNode) {inside : TypeNode} (seen : inside ∈ t.visited) :
    Reached t inside := by
  cases t with
  | ofClass c =>
    obtain ⟨name, space, doc, isStatic, isPartial, members⟩ := c
    rcases List.mem_cons.mp seen with rfl | within
    · exact .root _
    · obtain ⟨t, known, reached⟩ := reached_of_visitedMembers members within
      exact .inner known reached
  | ofEnum e =>
    cases List.mem_singleton.mp seen
    exact .root _

theorem reached_of_visitedMembers (members : List (MemberOf TypeNode)) {inside : TypeNode}
    (seen : inside ∈ visitedMembers members) : ∃ t, .nested t ∈ members ∧ Reached t inside := by
  cases members with
  | nil => contradiction
  | cons member rest =>
    rcases List.mem_append.mp seen with here | later
    · obtain ⟨t, rfl, reached⟩ := reached_of_visitedMember member here
      exact ⟨t, List.mem_cons_self, reached⟩
    · obtain ⟨t, known, reached⟩ := reached_of_visitedMembers rest later
      exact ⟨t, List.mem_cons_of_mem _ known, reached⟩

theorem reached_of_visitedMember (member : MemberOf TypeNode) {inside : TypeNode}
    (seen : inside ∈ visitedMember member) : ∃ t, member = .nested t ∧ Reached t inside := by
  cases member with
  | nested t => exact ⟨t, rfl, t.reached_of_visited seen⟩
  | constant | property | method => contradiction

end

theorem TypeNode.mem_visited_self (t : TypeNode) : t ∈ t.visited := by
  cases t with
  | ofClass c => exact List.mem_cons_self
  | ofEnum e => exact List.mem_cons_self

theorem Reached.visited {t inside : TypeNode} (reached : Reached t inside) : inside ∈ t.visited := by
  induction reached with
  | root t => exact t.mem_visited_self
  | inner known _ ih => exact List.mem_cons_of_mem _ (visitedMember_subset known ih)

theorem mem_visited_iff {t inside : TypeNode} : inside ∈ t.visited ↔ Reached t inside :=
  ⟨t.reached_of_visited, Reached.visited⟩

/-! The first misfit is that of the first type with one -/

/-- What is wrong with a type by itself. -/
def TypeNode.ownMisfit? : TypeNode → Option UnitFault
  | .ofClass _ => none
  | .ofEnum e => e.misfit?

mutual

theorem TypeNode.misfit?_eq (t : TypeNode) : t.misfit? = t.visited.findSome? (·.ownMisfit?) := by
  cases t with
  | ofClass c =>
    obtain ⟨name, space, doc, isStatic, isPartial, members⟩ := c
    exact firstMisfit?_eq members
  | ofEnum e => simp [TypeNode.misfit?, TypeNode.visited, TypeNode.ownMisfit?]

theorem firstMisfit?_eq (members : List (MemberOf TypeNode)) :
    firstMisfit? members = (visitedMembers members).findSome? (·.ownMisfit?) := by
  cases members with
  | nil => rfl
  | cons member rest =>
    rw [firstMisfit?, visitedMembers, List.findSome?_append, memberMisfit?_eq member,
      firstMisfit?_eq rest]

theorem memberMisfit?_eq (member : MemberOf TypeNode) :
    memberMisfit? member = (visitedMember member).findSome? (·.ownMisfit?) := by
  cases member with
  | nested t => exact t.misfit?_eq
  | constant | property | method => rfl

end

/-- The first of the types that an enumeration holds. -/
def FirstInside (e : EnumNode) (inner : TypeNode) : Prop :=
  ∃ before after, e.members = before ++ .nested inner :: after ∧ ∀ other, .nested other ∉ before

/-- The fault of the first enumeration that holds a type. It says which kind of type is the first. -/
def FirstMisfit (t : TypeNode) (fault : UnitFault) : Prop :=
  ∃ before e after inner, t.visited = before ++ .ofEnum e :: after ∧
    (∀ earlier, .ofEnum earlier ∈ before → ∀ other, .nested other ∉ earlier.members) ∧
    FirstInside e inner ∧
    fault = .invalidMember ("enum " ++ e.name)
      (match inner with
        | .ofClass _ => "nested class"
        | .ofEnum _ => "nested enum")

theorem EnumMemberOf.misfit?_eq_none_iff (container : String) (m : EnumMemberOf TypeNode) :
    m.misfit? container = none ↔ ∀ inner, m ≠ .nested inner := by
  cases m with
  | value v => simp [misfit?]
  | nested t => simp [misfit?]

theorem EnumOf.misfit?_eq_none_iff (e : EnumNode) :
    e.misfit? = none ↔ ∀ inner, .nested inner ∉ e.members := by
  simp only [misfit?, List.findSome?_eq_none_iff, EnumMemberOf.misfit?_eq_none_iff]
  exact ⟨fun none inner known => none _ known inner rfl, fun none m known inner same =>
    none inner (same ▸ known)⟩

theorem EnumOf.misfit?_eq_some_iff (e : EnumNode) (fault : UnitFault) :
    e.misfit? = some fault ↔
      ∃ inner, FirstInside e inner ∧ fault = .invalidMember ("enum " ++ e.name) inner.nestedKind := by
  simp only [misfit?, List.findSome?_eq_some_iff, EnumMemberOf.misfit?_eq_none_iff]
  constructor
  · rintro ⟨before, m, after, split, found, none⟩
    cases m with
    | value v => contradiction
    | nested inner =>
      cases Option.some.inj found
      exact ⟨inner, ⟨before, after, split, fun other known => none _ known other rfl⟩, rfl⟩
  · rintro ⟨inner, ⟨before, after, split, none⟩, rfl⟩
    exact ⟨before, .nested inner, after, split, rfl,
      fun m known other same => none other (same ▸ known)⟩

theorem TypeNode.ownMisfit?_eq_none_iff (t : TypeNode) :
    t.ownMisfit? = none ↔ ∀ e, t = .ofEnum e → ∀ inner, .nested inner ∉ e.members := by
  cases t with
  | ofClass c => simp [ownMisfit?]
  | ofEnum e => simp [ownMisfit?, EnumOf.misfit?_eq_none_iff]

theorem TypeNode.misfit?_eq_none_iff (t : TypeNode) :
    t.misfit? = none ↔ ∀ e, Reached t (.ofEnum e) → ∀ inner, .nested inner ∉ e.members := by
  simp only [misfit?_eq, List.findSome?_eq_none_iff, ownMisfit?_eq_none_iff, mem_visited_iff]
  constructor
  · exact fun sound e reached => sound _ reached e rfl
  · rintro sound _ reached e rfl
    exact sound e reached

theorem TypeNode.misfit?_eq_some_iff (t : TypeNode) (fault : UnitFault) :
    t.misfit? = some fault ↔ FirstMisfit t fault := by
  simp only [misfit?_eq, List.findSome?_eq_some_iff, ownMisfit?_eq_none_iff]
  constructor
  · rintro ⟨before, node, after, split, found, sound⟩
    cases node with
    | ofClass c => contradiction
    | ofEnum e =>
      obtain ⟨inner, first, rfl⟩ := (e.misfit?_eq_some_iff fault).mp found
      exact ⟨before, e, after, inner, split, fun earlier known => sound _ known earlier rfl, first,
        by cases inner <;> rfl⟩
  · rintro ⟨before, e, after, inner, split, sound, first, rfl⟩
    refine ⟨before, .ofEnum e, after, split, (e.misfit?_eq_some_iff _).mpr ⟨inner, first, ?_⟩, ?_⟩
    · cases inner <;> rfl
    · rintro _ known earlier rfl
      exact sound earlier known

theorem unitSource_eq_error_iff (indent : String) (usings : List String) (root : TypeNode)
    (fault : UnitFault) :
    unitSource indent usings root = .error fault ↔
      (root.namespace = none ∧ fault = .missingNamespace root.name) ∨
      (root.namespace ≠ none ∧ root.misfit? = some fault) := by
  cases named : root.namespace with
  | none => simp [unitSource, named, eq_comm]
  | some space =>
    obtain ⟨sound, broken⟩ := unitSource_of_namespace indent usings named
    cases misfit : root.misfit? with
    | none =>
      obtain ⟨source, written⟩ := sound misfit
      simp [written]
    | some found => simp [broken found misfit]

/-- Writing a type fails exactly if an enumeration that stands in it holds a type, and the first such
enumeration and the first type in it make the fault. A unit fails for the same reason, and before that
for a root without a namespace. -/
theorem emission_fault_exact (t : TypeNode) :
    (∀ w : Writer, (writeAll w t.layout).2 ≠ none ↔
      ∃ e inner, Reached t (.ofEnum e) ∧ .nested inner ∈ e.members) ∧
    (∀ (w : Writer) fault, (writeAll w t.layout).2 = some fault ↔ FirstMisfit t fault) ∧
    ∀ indent usings,
      (unitSource indent usings t = .error (.missingNamespace t.name) ↔ t.namespace = none) ∧
      ∀ fault, unitSource indent usings t = .error fault ↔
        (t.namespace = none ∧ fault = .missingNamespace t.name) ∨
        (t.namespace ≠ none ∧ FirstMisfit t fault) := by
  refine ⟨fun w => ?_, fun w fault => ?_, fun indent usings => ⟨?_, fun fault => ?_⟩⟩
  · rw [writeAll_fault, t.layout_fault, ne_eq, t.misfit?_eq_none_iff]
    simp
  · rw [writeAll_fault, t.layout_fault, t.misfit?_eq_some_iff]
  · rw [unitSource_eq_error_iff, t.misfit?_eq_some_iff]
    constructor
    · rintro (⟨unnamed, _⟩ | ⟨_, before, e, after, inner, _, _, _, other⟩)
      · exact unnamed
      · contradiction
    · exact fun unnamed => .inl ⟨unnamed, rfl⟩
  · rw [unitSource_eq_error_iff, t.misfit?_eq_some_iff]

end RpcSharp.Code
