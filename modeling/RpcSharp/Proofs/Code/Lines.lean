import RpcSharp.Proofs.Code.Members

/-! A source text line by line. Whatever is written, with or without a fault, is the lines of its
pieces, each at the depth of the blocks around it. The lines of every member of every class stand
together in the source of a unit. -/

namespace RpcSharp.Code

/-- A line of source, and how many blocks it stands in. -/
structure Line where
  depth : Nat
  text : String
deriving DecidableEq, Repr

def Line.render (indent : String) (l : Line) : String :=
  (if l.text = "" then "" else String.join (List.replicate l.depth indent) ++ l.text) ++ "\n"

def render (indent : String) (lines : List Line) : String :=
  String.join (lines.map (·.render indent))

@[simp] theorem render_nil (indent : String) : render indent [] = "" := rfl

theorem render_append (indent : String) (before after : List Line) :
    render indent (before ++ after) = render indent before ++ render indent after := by
  simp [render, String.join_append]

mutual

/-- The lines of a piece. Those of a block that breaks off at a fault are closed. -/
def Layout.lines (depth : Nat) : Layout → List Line
  | .line text => [⟨depth, text⟩]
  | .block header body =>
    ⟨depth, header⟩ :: ⟨depth, "\x7b"⟩ :: linesOf (depth + 1) body ++ [⟨depth, "\x7d"⟩]
  | .fail _ => []

/-- The lines of pieces up to the first fault. -/
def linesOf (depth : Nat) : List Layout → List Line
  | [] => []
  | piece :: rest =>
    piece.lines depth ++ if piece.fault?.isSome then [] else linesOf depth rest

end

/-! Writing -/

/-- A writer after some lines. -/
def Writer.append (w : Writer) (lines : List Line) : Writer :=
  { w with buffer := w.buffer ++ render w.indent lines }

theorem Writer.append_append (w : Writer) (before after : List Line) :
    (w.append before).append after = w.append (before ++ after) := by
  simp [append, render_append, String.append_assoc]

theorem Writer.line_eq (w : Writer) (text : String) : w.line text = w.append [⟨w.depth, text⟩] := by
  simp [line, append, render, Line.render, indentation, String.append_assoc]

/-- The writer at the start of the body of a block. -/
def Writer.opened (w : Writer) (header : String) : Writer :=
  { w.append [⟨w.depth, header⟩, ⟨w.depth, "\x7b"⟩] with depth := w.depth + 1 }

/-- The lines of a block around those of its body. -/
def blockLines (depth : Nat) (header : String) (lines : List Line) : List Line :=
  ⟨depth, header⟩ :: ⟨depth, "\x7b"⟩ :: lines ++ [⟨depth, "\x7d"⟩]

theorem Writer.block_eq {α : Type} {w : Writer} {header : String} (body : Writer → Writer × α)
    {lines : List Line} (written : (body (w.opened header)).1 = (w.opened header).append lines) :
    w.block header body =
      (w.append (blockLines w.depth header lines), (body (w.opened header)).2) := by
  have start : { (w.line header).line "\x7b" with depth := w.depth + 1 } = w.opened header := by
    rw [Writer.line_eq w, Writer.line_eq, Writer.append_append]
    rfl
  have depth : ((w.line header).line "\x7b").depth = w.depth := rfl
  simp only [Writer.block, depth, start]
  rw [written, Writer.line_eq]
  simp [Writer.append, Writer.opened, blockLines, render, String.append_assoc]

mutual

theorem Layout.write_eq (w : Writer) (piece : Layout) :
    (piece.write w).1 = w.append (piece.lines w.depth) := by
  cases piece with
  | line text => exact w.line_eq text
  | block header body =>
    have inside := writeAll_eq (w.opened header) body
    exact congrArg Prod.fst (Writer.block_eq (writeAll · body) inside)
  | fail fault => simp [Layout.write, Layout.lines, Writer.append]

theorem writeAll_eq (w : Writer) (pieces : List Layout) :
    (writeAll w pieces).1 = w.append (linesOf w.depth pieces) := by
  cases pieces with
  | nil => simp [writeAll, linesOf, Writer.append]
  | cons piece rest =>
    have head := Layout.write_eq w piece
    have fault := Layout.write_fault w piece
    simp only [writeAll, linesOf]
    split
    · rename_i next written
      rw [written] at head fault
      have later := writeAll_eq next rest
      have same : next = w.append (piece.lines w.depth) := head
      have sound : piece.fault? = none := fault.symm
      rw [later, same, sound]
      exact Writer.append_append w _ _
    · rename_i next found written
      rw [written] at head fault
      have broken : piece.fault? = some found := fault.symm
      simpa [broken] using head

end

/-! The lines of groups of pieces -/

theorem linesOf_append {before : List Layout} (sound : firstFault? before = none)
    (depth : Nat) (after : List Layout) :
    linesOf depth (before ++ after) = linesOf depth before ++ linesOf depth after := by
  induction before with
  | nil => rfl
  | cons piece rest ih =>
    obtain ⟨here, later⟩ := Option.or_eq_none_iff.mp sound
    simp [linesOf, here, ih later]

@[simp] theorem linesOf_lines (depth : Nat) (texts : List String) :
    linesOf depth (texts.map .line) = texts.map (⟨depth, ·⟩) := by
  induction texts with
  | nil => rfl
  | cons text rest ih => simp [linesOf, Layout.lines, Layout.fault?, ih]

theorem linesOf_single (depth : Nat) (piece : Layout) : linesOf depth [piece] = piece.lines depth := by
  simp [linesOf]

/- Groups with a blank line between every two. -/
theorem linesOf_separated {groups : List (List Layout)} (sound : firstFault? (separated groups) = none)
    (depth : Nat) :
    linesOf depth (separated groups) = [⟨depth, ""⟩].intercalate (groups.map (linesOf depth)) := by
  induction groups with
  | nil => rfl
  | cons group rest ih =>
    rw [firstFault?_separated, Option.or_eq_none_iff] at sound
    cases rest with
    | nil => simp [separated, List.intercalate]
    | cons next rest =>
      have split : separated (group :: next :: rest) =
          group ++ .line "" :: separated (next :: rest) := rfl
      have blank : linesOf depth (.line "" :: separated (next :: rest)) =
          ⟨depth, ""⟩ :: linesOf depth (separated (next :: rest)) := rfl
      rw [split, linesOf_append sound.1, blank, ih sound.2]
      simp [List.intercalate_cons_cons]

theorem infix_intercalate {α : Type} {group : List α} {groups : List (List α)} (separator : List α)
    (known : group ∈ groups) : group <:+: separator.intercalate groups := by
  induction groups with
  | nil => contradiction
  | cons first rest ih =>
    cases rest with
    | nil =>
      rw [List.mem_singleton.mp known]
      exact ⟨[], [], by simp [List.intercalate]⟩
    | cons next rest =>
      rw [List.intercalate_cons_cons]
      rcases List.mem_cons.mp known with rfl | later
      · exact ⟨[], separator ++ separator.intercalate (next :: rest), by simp⟩
      · exact (ih later).trans (List.suffix_append _ _).isInfix

/-! The lines of documentation -/

theorem docLine_remark (line : List Char) : ∃ more, docLine line = "///" ++ more := by
  unfold docLine
  split
  · exact ⟨"", rfl⟩
  · exact ⟨String.ofList (' ' :: (Text.trimEnd line).flatMap escapeXmlChar),
      String.toList_inj.mp (by simp)⟩

theorem docLines_remark (doc : String) : ∀ text ∈ docLines doc, ∃ more, text = "///" ++ more := by
  unfold docLines
  split
  · simp
  · simp only [List.forall_mem_append, List.forall_mem_cons, List.forall_mem_map]
    exact ⟨⟨⟨" <summary>", rfl⟩, fun line _ => docLine_remark line⟩, ⟨" </summary>", rfl⟩, by simp⟩

/-! The lines of a unit -/

theorem linesOf_ofClass {c : ClassNode} (sound : firstMisfit? c.members = none) (depth : Nat) :
    linesOf depth (TypeNode.ofClass c).layout =
      (docLines c.doc).map (⟨depth, ·⟩) ++ ⟨depth, c.header⟩ :: ⟨depth, "\x7b"⟩ ::
        [⟨depth + 1, ""⟩].intercalate ((memberLayouts c.name c.members).map (linesOf (depth + 1))) ++
        [⟨depth, "\x7d"⟩] := by
  obtain ⟨name, space, doc, isStatic, isPartial, members⟩ := c
  have inside := (memberLayouts_fault name members).trans sound
  rw [TypeNode.layout, linesOf_append (firstFault?_doc doc), linesOf_single, docLayout, linesOf_lines,
    Layout.lines, linesOf_separated inside]
  simp

theorem mem_memberLayouts (enclosing : String) {members : List Member} {m : Member}
    (known : m ∈ members) : memberLayout enclosing m ∈ memberLayouts enclosing members := by
  induction members with
  | nil => contradiction
  | cons first rest ih =>
    rw [memberLayouts]
    rcases List.mem_cons.mp known with rfl | later
    · exact List.mem_cons_self
    · exact List.mem_cons_of_mem _ (ih later)

theorem memberMisfit?_eq_none {members : List Member} (sound : firstMisfit? members = none)
    {m : Member} (known : m ∈ members) : memberMisfit? m = none := by
  induction members with
  | nil => contradiction
  | cons first rest ih =>
    obtain ⟨here, others⟩ := Option.or_eq_none_iff.mp sound
    rcases List.mem_cons.mp known with rfl | later
    · exact here
    · exact ih others later

theorem linesOf_member_within {c : ClassNode} (sound : firstMisfit? c.members = none) (depth : Nat)
    {m : Member} (known : m ∈ c.members) :
    linesOf (depth + 1) (memberLayout c.name m) <:+: linesOf depth (TypeNode.ofClass c).layout := by
  have inside := infix_intercalate [⟨depth + 1, ""⟩]
    (List.mem_map_of_mem (f := linesOf (depth + 1)) (mem_memberLayouts c.name known))
  rw [linesOf_ofClass sound]
  exact inside.trans ⟨(docLines c.doc).map (⟨depth, ·⟩) ++ [⟨depth, c.header⟩, ⟨depth, "\x7b"⟩],
    [⟨depth, "\x7d"⟩], by simp⟩

/-- The lines of a member stand together, as deep as its class. -/
theorem ClassAt.lines_within {t : TypeNode} {path : List String} {c : ClassNode}
    (stands : ClassAt t path c) (sound : t.misfit? = none) (depth : Nat) {m : Member}
    (known : m ∈ c.members) :
    linesOf (depth + path.length) (memberLayout c.name m) <:+: linesOf depth t.layout := by
  induction stands generalizing depth with
  | root c => exact linesOf_member_within sound depth known
  | @inner c inside t path nested stands ih =>
    have within : t.misfit? = none := memberMisfit?_eq_none sound nested
    have deeper := ih within (depth + 1) known
    have length : depth + (c.name :: path).length = depth + 1 + path.length := by
      simp only [List.length_cons]
      omega
    rw [length]
    exact deeper.trans (linesOf_member_within sound depth nested)

theorem unitSource_eq_ok {indent : String} {usings : List String} {root : TypeNode} {source : String}
    (written : unitSource indent usings root = .ok source) :
    ∃ space, root.namespace = some space ∧ root.misfit? = none ∧
      source = render indent (linesOf 0 (unitLayout usings space root)) := by
  unfold unitSource at written
  cases named : root.namespace with
  | none =>
    rw [named] at written
    contradiction
  | some space =>
    have fault := writeAll_fault ⟨indent, 0, ""⟩ (unitLayout usings space root)
    have lines := writeAll_eq ⟨indent, 0, ""⟩ (unitLayout usings space root)
    rw [unitLayout_fault] at fault
    simp only [named] at written
    split at written
    · rename_i w result
      rw [result] at fault lines
      cases Except.ok.inj written
      refine ⟨space, rfl, fault.symm, ?_⟩
      simpa [Writer.append] using congrArg Writer.buffer lines
    · contradiction

theorem linesOf_unitLayout (usings : List String) (space : String) (root : TypeNode) :
    linesOf 0 (unitLayout usings space root) =
      usings.map (fun name => ⟨0, usingLine name⟩) ++ ⟨0, ""⟩ :: ⟨0, "namespace " ++ space⟩ ::
        ⟨0, "\x7b"⟩ :: linesOf 1 root.layout ++ [⟨0, "\x7d"⟩] := by
  have block (piece : Layout) : linesOf 0 [.line "", piece] = ⟨0, ""⟩ :: piece.lines 0 := by
    rw [← linesOf_single 0 piece]
    rfl
  rw [unitLayout, ← List.map_map, linesOf_append (firstFault?_lines _), linesOf_lines, block]
  simp [Layout.lines]

end RpcSharp.Code
