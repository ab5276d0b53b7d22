import RpcSharp.Proofs.Code.PascalCase
import RpcSharp.Proofs.Code.Remarks

/-! Declarations at any depth are the declarations at the margin, with the indentation before every line
that is not empty. This needs that only documentation has ends of lines inside, of which each line
becomes one of its own. -/

namespace RpcSharp.Code

open RpcSharp.Text

/-! Texts with an indentation before their lines -/

/-- A text with something before every line that is not empty. -/
def indentText (front s : List Char) : List Char :=
  ['\n'].intercalate ((splitWhere (· == '\n') s).map fun line => if line = [] then [] else front ++ line)

theorem indentText_line {line : List Char} (whole : '\n' ∉ line) (front rest : List Char) :
    indentText front (line ++ '\n' :: rest) =
      (if line = [] then [] else front ++ line) ++ '\n' :: indentText front rest := by
  obtain ⟨piece, pieces, split⟩ := List.exists_cons_of_ne_nil (splitWhere_ne_nil (· == '\n') rest)
  rw [indentText, indentText, splitWhere_append rfl, splitWhere_of_not_mem whole, split]
  simp [List.intercalate_cons_cons]

/-- A text of one line. -/
def Unbroken (s : String) : Prop := '\n' ∉ s.toList

instance (s : String) : Decidable (Unbroken s) := inferInstanceAs (Decidable (¬ _))

@[simp] theorem unbroken_append (s t : String) : Unbroken (s ++ t) ↔ Unbroken s ∧ Unbroken t := by
  simp [Unbroken]

theorem unbroken_join {texts : List String} (unbroken : ∀ t ∈ texts, Unbroken t) :
    Unbroken (String.join texts) := by
  intro feed
  rw [String.toList_join, List.mem_flatMap] at feed
  obtain ⟨t, known, inside⟩ := feed
  exact unbroken t known inside

theorem unbroken_intercalate {separator : String} (single : Unbroken separator) {texts : List String}
    (unbroken : ∀ t ∈ texts, Unbroken t) : Unbroken (separator.intercalate texts) := by
  induction texts with
  | nil => simp [Unbroken]
  | cons first rest ih =>
    obtain ⟨here, others⟩ := List.forall_mem_cons.mp unbroken
    cases rest with
    | nil => simpa using here
    | cons next rest =>
      rw [String.intercalate_cons_cons]
      simp [here, single, ih others]

/-! Lines further inside -/

def Line.deeper (more : Nat) (l : Line) : Line := { l with depth := more + l.depth }

mutual

theorem Layout.lines_deeper (more depth : Nat) (piece : Layout) :
    piece.lines (more + depth) = (piece.lines depth).map (·.deeper more) := by
  cases piece with
  | line text => rfl
  | block header body =>
    simp [Layout.lines, Line.deeper, Nat.add_assoc, linesOf_deeper more (depth + 1) body]
  | fail fault => rfl

theorem linesOf_deeper (more depth : Nat) (pieces : List Layout) :
    linesOf (more + depth) pieces = (linesOf depth pieces).map (·.deeper more) := by
  cases pieces with
  | nil => rfl
  | cons piece rest =>
    rw [linesOf, linesOf, piece.lines_deeper more depth, linesOf_deeper more depth rest, List.map_append]
    split <;> rfl

end

section Rendered

variable {indent : String} (single : Unbroken indent) (more : Nat)

theorem indentation_add (depth : Nat) : String.join (List.replicate (more + depth) indent) =
    String.join (List.replicate more indent) ++ String.join (List.replicate depth indent) := by
  rw [← List.replicate_append_replicate, String.join_append]

include single

theorem unbroken_indentation (depth : Nat) : Unbroken (String.join (List.replicate depth indent)) := by
  refine unbroken_join fun t known => ?_
  rwa [List.eq_of_mem_replicate known]

theorem Line.render_deeper {l : Line} (unbroken : Unbroken l.text) (rest : List Char) :
    indentText (String.join (List.replicate more indent)).toList ((l.render indent).toList ++ rest) =
      ((l.deeper more).render indent).toList ++
        indentText (String.join (List.replicate more indent)).toList rest := by
  by_cases empty : l.text = ""
  · have blank := indentText_line (List.not_mem_nil (a := '\n'))
    simpa [Line.render, Line.deeper, empty] using blank _ rest
  · have whole : Unbroken (String.join (List.replicate l.depth indent) ++ l.text) :=
      (unbroken_append _ _).mpr ⟨unbroken_indentation single l.depth, unbroken⟩
    have split := indentText_line whole (String.join (List.replicate more indent)).toList rest
    have text : String.join (List.replicate l.depth indent) ++ l.text ≠ "" := by simp [empty]
    rw [if_neg (mt String.toList_eq_nil_iff.mp text)] at split
    rw [Line.render, Line.render, Line.deeper, if_neg empty, if_neg empty, indentation_add]
    have feed : "\n".toList = ['\n'] := rfl
    simpa only [String.toList_append, List.append_assoc, feed, List.singleton_append] using split

theorem render_deeper {lines : List Line} (unbroken : ∀ l ∈ lines, Unbroken l.text) :
    (render indent (lines.map (·.deeper more))).toList =
      indentText (String.join (List.replicate more indent)).toList (render indent lines).toList := by
  have head (l : Line) (lines : List Line) :
      (render indent (l :: lines)).toList = (l.render indent).toList ++ (render indent lines).toList := by
    simp [render]
  induction lines with
  | nil => rfl
  | cons l lines ih =>
    obtain ⟨here, others⟩ := List.forall_mem_cons.mp unbroken
    rw [List.map_cons, head, head, ih others, Line.render_deeper single more here]

end Rendered

/-! Pieces whose lines have no end of a line inside -/

/-- Pieces of which every line is one, whatever their faults. -/
def AllUnbroken (pieces : List Layout) : Prop :=
  ∀ depth, ∀ l ∈ linesOf depth pieces, Unbroken l.text

/- What comes after a fault is not written, and need not be looked at. -/
theorem mem_linesOf_append {depth : Nat} {before after : List Layout} {l : Line}
    (known : l ∈ linesOf depth (before ++ after)) :
    l ∈ linesOf depth before ∨ l ∈ linesOf depth after := by
  induction before with
  | nil => exact .inr known
  | cons piece rest ih =>
    rw [List.cons_append, linesOf, List.mem_append] at known
    rw [linesOf, List.mem_append]
    rcases known with here | later
    · exact .inl (.inl here)
    · split at later
      · contradiction
      · rename_i sound
        rw [if_neg sound]
        exact (ih later).imp_left .inr

namespace AllUnbroken

theorem append {before after : List Layout} (first : AllUnbroken before) (second : AllUnbroken after) :
    AllUnbroken (before ++ after) := by
  intro depth l known
  rcases mem_linesOf_append known with here | later
  · exact first depth l here
  · exact second depth l later

theorem lines {texts : List String} (unbroken : ∀ t ∈ texts, Unbroken t) :
    AllUnbroken (texts.map .line) := by
  intro depth l known
  rw [linesOf_lines, List.mem_map] at known
  obtain ⟨t, known, rfl⟩ := known
  exact unbroken t known

theorem line {text : String} (unbroken : Unbroken text) : AllUnbroken [.line text] := by
  have single : ∀ t ∈ [text], Unbroken t := List.forall_mem_singleton.mpr unbroken
  exact lines single

theorem nil : AllUnbroken [] := by
  intro depth l known
  contradiction

theorem fail (fault : UnitFault) : AllUnbroken [.fail fault] := by
  intro depth l known
  contradiction

theorem block {header : String} {body : List Layout} (unbroken : Unbroken header)
    (inner : AllUnbroken body) : AllUnbroken [.block header body] := by
  intro depth l known
  rw [linesOf_single, Layout.lines] at known
  simp only [List.mem_append, List.mem_cons, List.not_mem_nil, or_false] at known
  have opening : Unbroken "\x7b" := by decide
  have closing : Unbroken "\x7d" := by decide
  rcases known with (rfl | rfl | inside) | rfl
  · exact unbroken
  · exact opening
  · exact inner (depth + 1) l inside
  · exact closing

theorem separated {groups : List (List Layout)} (unbroken : ∀ group ∈ groups, AllUnbroken group) :
    AllUnbroken (separated groups) := by
  fun_induction Code.separated groups with
  | case1 => exact nil
  | case2 group => exact unbroken group List.mem_cons_self
  | case3 group rest _ ih =>
    obtain ⟨here, others⟩ := List.forall_mem_cons.mp unbroken
    exact here.append ((line (by decide)).append (ih others))

end AllUnbroken

/-! Documentation and names -/

theorem feed_of_mem_escapeXmlChar {c : Char} (inside : '\n' ∈ escapeXmlChar c) : c = '\n' := by
  rcases escapeXmlChar_cases c with same | ⟨_, name, same, whole⟩
  · rw [same, List.mem_singleton] at inside
    exact inside.symm
  · rw [same, List.mem_cons] at inside
    rcases inside with other | later
    · contradiction
    · exact absurd (whole _ later) (by decide)

theorem unbroken_docLine {doc line : List Char} (known : line ∈ Text.lines doc) :
    Unbroken (docLine line) := by
  have whole : '\n' ∉ (trimEnd line).flatMap escapeXmlChar := by
    intro feed
    obtain ⟨c, inside, made⟩ := List.mem_flatMap.mp feed
    exact (mem_of_mem_lines known (mem_of_mem_trimEnd inside)).2 (feed_of_mem_escapeXmlChar made)
  unfold docLine
  split
  · decide
  · simp [Unbroken, whole]

theorem unbroken_docLines (doc : String) : ∀ text ∈ docLines doc, Unbroken text := by
  unfold docLines
  split
  · simp
  · rw [List.forall_mem_append, List.forall_mem_cons, List.forall_mem_map, List.forall_mem_singleton]
    exact ⟨⟨by decide, fun line known => unbroken_docLine known⟩, by decide⟩

theorem AllUnbroken.doc (doc : String) : AllUnbroken (docLayout doc) :=
  AllUnbroken.lines (unbroken_docLines doc)

theorem feed_of_mem_upper {c : Char} (inside : '\n' ∈ upper c) : c = '\n' := by
  obtain ⟨first, rest, given, _, made⟩ := upper_eq c
  rcases made '\n' (given ▸ inside) with same | capital | beyond
  · exact same.symm
  · contradiction
  · contradiction

theorem feed_of_mem_joinWords {begins : Bool} {s : List Char} (inside : '\n' ∈ joinWords begins s) :
    '\n' ∈ s := by
  induction s generalizing begins with
  | nil => contradiction
  | cons c s ih =>
    rw [joinWords] at inside
    split at inside
    · exact List.mem_cons_of_mem c (ih inside)
    · rcases List.mem_append.mp inside with here | later
      · have same : c = '\n' := by
          cases begins with
          | true => exact feed_of_mem_upper here
          | false => exact (List.mem_singleton.mp here).symm
        exact same ▸ List.mem_cons_self
      · exact List.mem_cons_of_mem c (ih later)

theorem unbroken_pascalCase {name : String} (unbroken : Unbroken name) : Unbroken (pascalCase name) := by
  have whole : '\n' ∉ joinWords true name.toList := mt feed_of_mem_joinWords unbroken
  rw [Unbroken, pascalCase, String.toList_ofList, pascalChars_eq]
  rcases guardDigit_cases (joinWords true name.toList) with ⟨_, same⟩ | ⟨_, guarded⟩
  · rwa [same]
  · simp [guarded, whole]

theorem unbroken_propertyName {field : String} (unbroken : Unbroken field) (enclosing : String) :
    Unbroken (propertyName field enclosing) := by
  have named := unbroken_pascalCase unbroken
  simp only [propertyName]
  split
  · exact (unbroken_append _ _).mpr ⟨named, by decide⟩
  · exact named

/-! Declarations -/

def Constant.texts (c : Constant) : List String := [c.type, c.name, c.value]

def Property.texts (p : Property) : List String := [p.name, p.type]

def Parameter.texts (p : Parameter) : List String := [p.type, p.name]

def MethodKind.texts : MethodKind → List String
  | .constructor => []
  | .named name returnType => [name, returnType]

def Method.texts (m : Method) : List String :=
  m.kind.texts ++ m.parameters.flatMap (·.texts) ++ m.attributes ++ m.body

def EnumMember.texts (v : EnumMember) : List String := [v.name, v.value]

def enumMemberTexts : EnumMemberOf TypeNode → List String
  | .value v => v.texts
  | .nested _ => []

def EnumOf.texts (e : EnumNode) : List String := e.name :: e.members.flatMap enumMemberTexts

mutual

/-- The texts that go into the source of a type, but for the documentation. -/
def TypeNode.texts : TypeNode → List String
  | .ofClass ⟨name, _, _, _, _, members⟩ => name :: textsOf members
  | .ofEnum e => EnumOf.texts e

def textsOf : List (MemberOf TypeNode) → List String
  | [] => []
  | member :: rest => memberTexts member ++ textsOf rest

def memberTexts : MemberOf TypeNode → List String
  | .nested t => t.texts
  | .constant c => c.texts
  | .property p => p.texts
  | .method m => m.texts

end

theorem Constant.layout_unbroken {c : Constant} (unbroken : ∀ t ∈ c.texts, Unbroken t) :
    AllUnbroken c.layout := by
  simp only [texts, List.forall_mem_cons] at unbroken
  obtain ⟨type, name, value, _⟩ := unbroken
  refine (AllUnbroken.doc c.doc).append (.line ?_)
  simp +decide [type, name, value]

theorem Property.layout_unbroken {p : Property} (unbroken : ∀ t ∈ p.texts, Unbroken t)
    (enclosing : String) : AllUnbroken (p.layout enclosing) := by
  simp only [texts, List.forall_mem_cons] at unbroken
  obtain ⟨name, type, _⟩ := unbroken
  have display : Unbroken (p.displayName enclosing) := unbroken_propertyName name enclosing
  refine ((AllUnbroken.doc p.doc).append ?_).append (.line ?_)
  · split
    · exact .nil
    · refine .line ?_
      simp +decide [name]
  · simp +decide [type, display]

theorem Parameter.text_unbroken {p : Parameter} (unbroken : ∀ t ∈ p.texts, Unbroken t) :
    Unbroken p.text := by
  simp only [texts, List.forall_mem_cons] at unbroken
  obtain ⟨type, name, _⟩ := unbroken
  rw [text]
  split <;> simp +decide [type, name]

section Within

variable {m : Method} (unbroken : ∀ t ∈ m.texts, Unbroken t) {enclosing : String}
  (around : Unbroken enclosing)

include unbroken around

theorem Method.header_unbroken : Unbroken (m.header enclosing) := by
  simp only [texts, List.forall_mem_append, List.forall_mem_flatMap] at unbroken
  obtain ⟨⟨⟨kind, parameters⟩, _⟩, _⟩ := unbroken
  have listed : Unbroken (", ".intercalate (m.parameters.map (·.text))) := by
    refine unbroken_intercalate (by decide) ?_
    rw [List.forall_mem_map]
    exact fun p known => Parameter.text_unbroken (parameters p known)
  simp only [header]
  split
  · simp +decide [around, listed]
  · rename_i name returnType same
    rw [same] at kind
    simp only [MethodKind.texts, List.forall_mem_cons] at kind
    simp +decide [kind, listed]

theorem Method.layout_unbroken : AllUnbroken (m.layout enclosing) := by
  have header := header_unbroken unbroken around
  simp only [texts, List.forall_mem_append] at unbroken
  obtain ⟨⟨_, attributes⟩, body⟩ := unbroken
  exact ((AllUnbroken.doc m.doc).append (.lines attributes)).append (.block header (.lines body))

end Within

theorem EnumMember.layout_unbroken {v : EnumMember} (unbroken : ∀ t ∈ v.texts, Unbroken t) :
    AllUnbroken v.layout := by
  simp only [texts, List.forall_mem_cons] at unbroken
  obtain ⟨name, value, _⟩ := unbroken
  have name := unbroken_pascalCase name
  refine (AllUnbroken.doc v.doc).append ?_
  split
  · refine AllUnbroken.append (.line ?_) (.line ?_)
    · simp +decide [value]
    · simp +decide [name]
  · refine .line ?_
    simp +decide [name, value]

theorem EnumOf.layout_unbroken {e : EnumNode} (unbroken : ∀ t ∈ e.texts, Unbroken t) :
    AllUnbroken e.layout := by
  simp only [texts, List.forall_mem_cons, List.forall_mem_flatMap] at unbroken
  obtain ⟨name, members⟩ := unbroken
  refine ((AllUnbroken.doc e.doc).append ?_).append (.block ?_ (.separated ?_))
  · split
    · exact .line (by decide)
    · exact .nil
  · simp +decide [name]
  · rw [List.forall_mem_map]
    intro member known
    cases member with
    | value v => exact EnumMember.layout_unbroken (members _ known)
    | nested t => exact .fail _

theorem ClassOf.header_unbroken {c : ClassNode} (name : Unbroken c.name) : Unbroken c.header := by
  rw [header]
  split <;> split <;> simp +decide [name]

mutual

theorem TypeNode.layout_unbroken (t : TypeNode) (unbroken : ∀ text ∈ t.texts, Unbroken text) :
    AllUnbroken t.layout := by
  cases t with
  | ofClass c =>
    obtain ⟨name, space, doc, isStatic, isPartial, members⟩ := c
    obtain ⟨named, inner⟩ := List.forall_mem_cons.mp unbroken
    refine (AllUnbroken.doc doc).append (.block (ClassOf.header_unbroken named) (.separated ?_))
    exact memberLayouts_unbroken named members inner
  | ofEnum e => exact EnumOf.layout_unbroken unbroken

theorem memberLayouts_unbroken {enclosing : String} (around : Unbroken enclosing)
    (members : List (MemberOf TypeNode)) (unbroken : ∀ text ∈ textsOf members, Unbroken text) :
    ∀ group ∈ memberLayouts enclosing members, AllUnbroken group := by
  cases members with
  | nil => simp [memberLayouts]
  | cons member rest =>
    obtain ⟨here, others⟩ := List.forall_mem_append.mp unbroken
    rw [memberLayouts, List.forall_mem_cons]
    exact ⟨memberLayout_unbroken around member here, memberLayouts_unbroken around rest others⟩

theorem memberLayout_unbroken {enclosing : String} (around : Unbroken enclosing)
    (member : MemberOf TypeNode) (unbroken : ∀ text ∈ memberTexts member, Unbroken text) :
    AllUnbroken (memberLayout enclosing member) := by
  cases member with
  | nested t => exact TypeNode.layout_unbroken t unbroken
  | constant c => exact Constant.layout_unbroken unbroken
  | property p => exact Property.layout_unbroken unbroken enclosing
  | method m => exact Method.layout_unbroken unbroken around

end

/-- A type of which only the documentation has ends of lines inside is written at every depth as it is at
the margin: with the same result, and with the indentation before every line that is not empty. -/
theorem emission_indented (w : Writer) (t : TypeNode) (single : Unbroken w.indent)
    (unbroken : ∀ text ∈ t.texts, Unbroken text) :
    let margin := writeAll ⟨w.indent, 0, ""⟩ t.layout
    let front := String.join (List.replicate w.depth w.indent)
    writeAll w t.layout =
      (⟨w.indent, w.depth, w.buffer ++ String.ofList (indentText front.toList margin.1.buffer.toList)⟩,
        margin.2) := by
  have deeper := linesOf_deeper w.depth 0 t.layout
  have text := render_deeper single w.depth (t.layout_unbroken unbroken 0)
  refine Prod.ext ?_ ?_
  · rw [writeAll_eq, writeAll_eq]
    simp only [Writer.append, String.empty_append]
    rw [← text, ← deeper, String.ofList_toList, Nat.add_zero]
  · rw [writeAll_fault, writeAll_fault]

/- Documentation with a line of blanks, an enumeration that may hold a type and then breaks off, and a
constructor with an empty line. -/
def rankType (inside : List (EnumMemberOf TypeNode)) : TypeNode :=
  .ofClass {
    name := "Party"
    doc := "<>\r\n\t\nWho  "
    members := [
      .nested (.ofEnum { name := "Rank", members := inside }),
      .method { kind := .constructor, body := ["", "A();"] }] }

theorem rankType_indented :
    let w : Writer := ⟨"\t", 2, "//"⟩
    let sound := rankType []
    let broken := rankType [.nested (.ofClass { name := "Mate" })]
    let start := "//\t\t/// <summary>\n\t\t/// &lt;&gt;\n\t\t///\n\t\t/// Who\n\t\t/// </summary>\n" ++
      "\t\tpublic class Party\n\t\t\x7b\n\t\t\tpublic enum Rank\n\t\t\t\x7b\n\t\t\t\x7d\n"
    Unbroken w.indent ∧ (∀ text ∈ sound.texts, Unbroken text) ∧
    (∀ text ∈ broken.texts, Unbroken text) ∧
    writeAll w sound.layout =
      (⟨"\t", 2, start ++ "\n\t\t\tpublic Party()\n\t\t\t\x7b\n\n\t\t\t\tA();\n\t\t\t\x7d\n\t\t\x7d\n"⟩, none) ∧
    writeAll w broken.layout =
      (⟨"\t", 2, start ++ "\t\t\x7d\n"⟩, some (.invalidMember "enum Rank" "nested class")) := by
  intro w sound broken start
  have single : Unbroken w.indent := by decide
  have whole : ∀ text ∈ sound.texts, Unbroken text := by decide +kernel
  have whole' : ∀ text ∈ broken.texts, Unbroken text := by decide +kernel
  refine ⟨single, whole, whole', ?_, ?_⟩
  · exact (emission_indented w sound single whole).trans (by decide +kernel)
  · exact (emission_indented w broken single whole').trans (by decide +kernel)

end RpcSharp.Code
