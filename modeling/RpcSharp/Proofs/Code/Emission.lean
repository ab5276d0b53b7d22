import RpcSharp.Code.Source

/-! When writing declarations fails: only at a type that stands inside an enumeration. -/

namespace RpcSharp.Code

mutual

/-- The first fault that writing a piece runs into. -/
def Layout.fault? : Layout → Option UnitFault
  | .line _ => none
  | .block _ body => firstFault? body
  | .fail fault => some fault

def firstFault? : List Layout → Option UnitFault
  | [] => none
  | piece :: rest => piece.fault?.or (firstFault? rest)

end

mutual

theorem Layout.write_fault (w : Writer) (piece : Layout) : (piece.write w).2 = piece.fault? := by
  cases piece with
  | line text => rfl
  | block header body => exact writeAll_fault _ body
  | fail fault => rfl

theorem writeAll_fault (w : Writer) (pieces : List Layout) :
    (writeAll w pieces).2 = firstFault? pieces := by
  cases pieces with
  | nil => rfl
  | cons piece rest =>
    have head := Layout.write_fault w piece
    simp only [writeAll, firstFault?]
    split
    · rename_i next written
      rw [written] at head
      rw [← head, writeAll_fault next rest]
      rfl
    · rename_i next fault written
      rw [written] at head
      rw [← head]
      rfl

end

@[simp] theorem firstFault?_append (before after : List Layout) :
    firstFault? (before ++ after) = (firstFault? before).or (firstFault? after) := by
  induction before with
  | nil => rfl
  | cons piece rest ih => simp [firstFault?, ih, Option.or_assoc]

@[simp] theorem firstFault?_lines (texts : List String) :
    firstFault? (texts.map .line) = none := by
  induction texts with
  | nil => rfl
  | cons text rest ih => simp [firstFault?, Layout.fault?, ih]

@[simp] theorem firstFault?_doc (doc : String) : firstFault? (docLayout doc) = none :=
  firstFault?_lines _

@[simp] theorem firstFault?_single (piece : Layout) : firstFault? [piece] = piece.fault? := by
  simp [firstFault?]

theorem firstFault?_separated (group : List Layout) (rest : List (List Layout)) :
    firstFault? (separated (group :: rest)) =
      (firstFault? group).or (firstFault? (separated rest)) := by
  cases rest with
  | nil => simp [separated, firstFault?]
  | cons next rest => simp [separated, firstFault?, Layout.fault?]

theorem Constant.layout_fault (c : Constant) : firstFault? c.layout = none := by
  simp [layout, Layout.fault?]

theorem Property.layout_fault (p : Property) (enclosing : String) :
    firstFault? (p.layout enclosing) = none := by
  simp only [layout]
  split <;> simp [firstFault?, Layout.fault?]

theorem Method.layout_fault (m : Method) (enclosing : String) :
    firstFault? (m.layout enclosing) = none := by
  simp [layout, Layout.fault?]

theorem EnumMember.layout_fault (v : EnumMember) : firstFault? v.layout = none := by
  simp only [layout]
  split <;> simp [firstFault?, Layout.fault?]

def EnumMemberOf.misfit? (container : String) : EnumMemberOf TypeNode → Option UnitFault
  | .value _ => none
  | .nested t => some (.invalidMember ("enum " ++ container) t.nestedKind)

def EnumOf.misfit? (e : EnumNode) : Option UnitFault := e.members.findSome? (·.misfit? e.name)

mutual

/-- The first enumeration with a type inside it, from the outside in and in the order of members. -/
def TypeNode.misfit? : TypeNode → Option UnitFault
  | .ofClass ⟨_, _, _, _, _, members⟩ => firstMisfit? members
  | .ofEnum e => EnumOf.misfit? e

def firstMisfit? : List (MemberOf TypeNode) → Option UnitFault
  | [] => none
  | member :: rest => (memberMisfit? member).or (firstMisfit? rest)

def memberMisfit? : MemberOf TypeNode → Option UnitFault
  | .nested t => t.misfit?
  | .constant _ => none
  | .property _ => none
  | .method _ => none

end

@[simp] theorem TypeNode.misfit?_ofClass (c : ClassNode) :
    (TypeNode.ofClass c).misfit? = firstMisfit? c.members := rfl

theorem EnumOf.layout_fault (e : EnumNode) : firstFault? e.layout = e.misfit? := by
  have body (members : List (EnumMemberOf TypeNode)) :
      firstFault? (separated (members.map (enumMemberLayout e.name))) =
        members.findSome? (·.misfit? e.name) := by
    induction members with
    | nil => rfl
    | cons member rest ih =>
      rw [List.map_cons, firstFault?_separated, ih, List.findSome?_cons]
      cases member with
      | value v => simp [enumMemberLayout, EnumMemberOf.misfit?, v.layout_fault]
      | nested t => simp [enumMemberLayout, EnumMemberOf.misfit?, Layout.fault?]
  simp only [layout, firstFault?_append, firstFault?_doc, firstFault?_single, Layout.fault?, body]
  split <;> simp [misfit?, Layout.fault?, firstFault?]

mutual

theorem TypeNode.layout_fault (t : TypeNode) : firstFault? t.layout = t.misfit? := by
  cases t with
  | ofClass c =>
    obtain ⟨name, space, doc, isStatic, isPartial, members⟩ := c
    simp [TypeNode.layout, TypeNode.misfit?, Layout.fault?, memberLayouts_fault name members]
  | ofEnum e =>
    simpa [TypeNode.layout, TypeNode.misfit?] using EnumOf.layout_fault e

theorem memberLayouts_fault (enclosing : String) (members : List (MemberOf TypeNode)) :
    firstFault? (separated (memberLayouts enclosing members)) = firstMisfit? members := by
  cases members with
  | nil => rfl
  | cons member rest =>
    rw [memberLayouts, firstFault?_separated, firstMisfit?, memberLayout_fault enclosing member,
      memberLayouts_fault enclosing rest]

theorem memberLayout_fault (enclosing : String) (member : MemberOf TypeNode) :
    firstFault? (memberLayout enclosing member) = memberMisfit? member := by
  cases member with
  | nested t => simpa [memberLayout, memberMisfit?] using TypeNode.layout_fault t
  | constant c => simpa [memberLayout, memberMisfit?] using c.layout_fault
  | property p => simpa [memberLayout, memberMisfit?] using p.layout_fault enclosing
  | method m => simpa [memberLayout, memberMisfit?] using m.layout_fault enclosing

end

theorem unitLayout_fault (usings : List String) (space : String) (root : TypeNode) :
    firstFault? (unitLayout usings space root) = root.misfit? := by
  have imports : usings.map (Layout.line ∘ usingLine) = (usings.map usingLine).map .line := by simp
  rw [unitLayout, imports]
  simp only [firstFault?_append, firstFault?_lines, firstFault?, Layout.fault?, root.layout_fault]
  simp

/-- A root with a namespace is written, unless an enumeration below it holds a type. -/
theorem unitSource_of_namespace (indent : String) (usings : List String) {root : TypeNode}
    {space : String} (named : root.namespace = some space) :
    (root.misfit? = none → ∃ source, unitSource indent usings root = .ok source) ∧
    ∀ fault, root.misfit? = some fault → unitSource indent usings root = .error fault := by
  have written := writeAll_fault ⟨indent, 0, ""⟩ (unitLayout usings space root)
  rw [unitLayout_fault] at written
  simp only [unitSource, named]
  split
  · rename_i w result
    rw [result] at written
    simp [← written]
  · rename_i w fault result
    rw [result] at written
    simp [← written]

end RpcSharp.Code
