import Mathlib.Data.List.TakeWhile
import RpcSharp.Proofs.Code.Lines
import RpcSharp.Proofs.Code.Literal
import RpcSharp.Proofs.Text.Replace

/-! Documentation as C# reads it, where more characters end a line than in the documentation itself. It
stays in its comment exactly if what follows such a character, inside one of its lines, is empty or a
comment of its own. -/

namespace RpcSharp.Code

open RpcSharp.Text

/-- The lines that C# sees. A carriage return and the line feed behind it are one end. -/
def sourceLines (s : List Char) : List (List Char) :=
  splitWhere isLineEnd (replaceAll ['\r', '\n'] ['\n'] s)

def isIndentation (c : Char) : Bool := c == ' ' || c == '\t'

/-- A line with nothing on it, or with a comment behind its indentation. -/
def IsRemark (line : List Char) : Prop :=
  line = [] ∨ "///".toList <+: line.dropWhile isIndentation

instance (line : List Char) : Decidable (IsRemark line) := inferInstanceAs (Decidable (_ ∨ _))

/- A pair that ends one line and not two only makes a difference for empty lines. -/
theorem forall_sourceLines_iff {P : List Char → Prop} (empty : P []) (s : List Char) :
    (∀ line ∈ sourceLines s, P line) ↔ ∀ line ∈ splitWhere isLineEnd s, P line := by
  have replaced : Replaced ['\r', '\n'] ['\n'] s _ := replaced_replaceAll ['\n'] (by simp) s
  unfold sourceLines
  generalize replaceAll ['\r', '\n'] ['\n'] s = t at replaced
  induction replaced with
  | absent => exact Iff.rfl
  | @leftmost before after rest _ _ ih =>
    have feed (s : List Char) : splitWhere isLineEnd ('\n' :: s) = [] :: splitWhere isLineEnd s := rfl
    simp only [List.cons_append, List.nil_append]
    rw [splitWhere_append (by decide), splitWhere_append (by decide), feed, List.forall_mem_append,
      List.forall_mem_append, List.forall_mem_cons]
    exact and_congr_right fun _ => ih.trans (and_iff_right empty).symm

theorem sourceLines_of_no_feed {s : List Char} (absent : '\n' ∉ s) :
    sourceLines s = splitWhere isLineEnd s := by
  rw [sourceLines, replaceAll_of_absent]
  exact fun pair => absent (pair.subset (by simp))

theorem sourceLines_of_whole {s : List Char} (whole : ∀ c ∈ s, isLineEnd c = false) :
    sourceLines s = [s] := by
  have feed : '\n' ∉ s := fun inside => absurd (whole _ inside) (by decide)
  rw [sourceLines_of_no_feed feed, splitWhere_eq_singleton whole]

/-! Escapes do not touch ends of lines, indentation or slashes -/

theorem escapeXmlChar_cases (c : Char) : escapeXmlChar c = [c] ∨
    c ∈ ['&', '<', '>'] ∧ ∃ name, escapeXmlChar c = '&' :: name ∧ ∀ d ∈ name, isLineEnd d = false := by
  unfold escapeXmlChar
  split
  · exact .inr ⟨by simp, _, rfl, eq_false_of_any (by decide)⟩
  · exact .inr ⟨by simp, _, rfl, eq_false_of_any (by decide)⟩
  · exact .inr ⟨by simp, _, rfl, eq_false_of_any (by decide)⟩
  · exact .inl rfl

theorem escapeXmlChar_of_lineEnd {c : Char} (ends : isLineEnd c = true) : escapeXmlChar c = [c] := by
  rcases escapeXmlChar_cases c with same | ⟨special, _⟩
  · exact same
  · have none : ∀ c ∈ ['&', '<', '>'], isLineEnd c = false := eq_false_of_any (by decide)
    rw [none c special] at ends
    contradiction

theorem isLineEnd_of_mem_escapeXmlChar {c d : Char} (inside : d ∈ escapeXmlChar c)
    (within : isLineEnd c = false) : isLineEnd d = false := by
  rcases escapeXmlChar_cases c with same | ⟨_, name, same, whole⟩
  · rw [same, List.mem_singleton] at inside
    rwa [inside]
  · rw [same, List.mem_cons] at inside
    rcases inside with rfl | later
    · decide
    · exact whole d later

theorem splitWhere_escaped (s : List Char) : splitWhere isLineEnd (s.flatMap escapeXmlChar) =
    (splitWhere isLineEnd s).map (·.flatMap escapeXmlChar) := by
  induction s with
  | nil => rfl
  | cons c s ih =>
    rw [List.flatMap_cons]
    cases ends : isLineEnd c with
    | true => simp [escapeXmlChar_of_lineEnd ends, splitWhere, ends, ih]
    | false =>
      have whole : ∀ d ∈ escapeXmlChar c, isLineEnd d = false :=
        fun d inside => isLineEnd_of_mem_escapeXmlChar inside ends
      obtain ⟨piece, pieces, split⟩ := List.exists_cons_of_ne_nil (splitWhere_ne_nil isLineEnd s)
      rw [splitWhere_append_of_whole whole, ih, splitWhere, ends, split]
      simp

theorem dropWhile_escaped (s : List Char) :
    (s.flatMap escapeXmlChar).dropWhile isIndentation =
      (s.dropWhile isIndentation).flatMap escapeXmlChar := by
  induction s with
  | nil => rfl
  | cons c s ih =>
    rw [List.flatMap_cons]
    rcases escapeXmlChar_cases c with same | ⟨special, name, same, _⟩
    · cases leading : isIndentation c with
      | true => simp [same, leading, ih]
      | false => simp [same, leading]
    · have visible : ∀ c ∈ ['&', '<', '>'], isIndentation c = false := eq_false_of_any (by decide)
      rw [List.dropWhile_cons_of_neg (by simp [visible c special]), List.flatMap_cons, same]
      exact List.dropWhile_cons_of_neg (by decide)

theorem slashes_prefix_escaped_iff (n : Nat) (s : List Char) :
    List.replicate n '/' <+: s.flatMap escapeXmlChar ↔ List.replicate n '/' <+: s := by
  induction n generalizing s with
  | zero => simp
  | succ n ih =>
    cases s with
    | nil => rfl
    | cons c s =>
      rw [List.replicate_succ, List.flatMap_cons]
      rcases escapeXmlChar_cases c with same | ⟨special, name, same, _⟩
      · rw [same, List.singleton_append, List.cons_prefix_cons, List.cons_prefix_cons, ih]
      · have other : '/' ≠ c := by
          rintro rfl
          simp at special
        rw [same, List.cons_append, List.cons_prefix_cons, List.cons_prefix_cons]
        simp [other]

theorem escaped_eq_nil_iff {s : List Char} : s.flatMap escapeXmlChar = [] ↔ s = [] := by
  cases s with
  | nil => simp
  | cons c s => rcases escapeXmlChar_cases c with same | ⟨_, name, same, _⟩ <;> simp [same]

theorem isRemark_escaped_iff (s : List Char) : IsRemark (s.flatMap escapeXmlChar) ↔ IsRemark s := by
  rw [IsRemark, IsRemark, escaped_eq_nil_iff, dropWhile_escaped]
  exact or_congr_right (slashes_prefix_escaped_iff 3 _)

/-! The lines of documentation and what C# sees of them -/

theorem trimEnd_of_blank {s : List Char} (blank : ∀ c ∈ s, isBlank c = true) : trimEnd s = [] := by
  rw [trimEnd, List.reverse_eq_nil_iff, List.dropWhile_eq_nil_iff]
  simpa using blank

theorem mem_of_mem_trimEnd {s : List Char} {c : Char} (inside : c ∈ trimEnd s) : c ∈ s := by
  rw [trimEnd, List.mem_reverse] at inside
  exact List.mem_reverse.mp ((List.dropWhile_suffix _).subset inside)

theorem docLine_parts (line : List Char) : (splitWhere isLineEnd (docLine line).toList).tail =
    (splitWhere isLineEnd (trimEnd line)).tail.map (·.flatMap escapeXmlChar) := by
  unfold docLine
  split
  · rename_i nothing
    rw [escaped_eq_nil_iff.mp nothing]
    rfl
  · rw [String.toList_ofList, splitWhere_append_of_whole (eq_false_of_any (by decide)), splitWhere_escaped]
    simp

theorem docLine_contained_iff {doc line : List Char} (known : line ∈ Text.lines doc) :
    (∀ part ∈ (splitWhere isLineEnd (docLine line).toList).tail, IsRemark part) ↔
      ∀ part ∈ (sourceLines (trimEnd line)).tail, IsRemark part := by
  have feed : '\n' ∉ trimEnd line :=
    fun inside => (mem_of_mem_lines known (mem_of_mem_trimEnd inside)).2 rfl
  rw [sourceLines_of_no_feed feed, docLine_parts, List.forall_mem_map]
  simp only [isRemark_escaped_iff]

theorem docLines_contained_iff (doc : String) :
    (∀ text ∈ docLines doc, ∀ part ∈ (splitWhere isLineEnd text.toList).tail, IsRemark part) ↔
      ∀ line ∈ Text.lines doc.toList, ∀ part ∈ (sourceLines (trimEnd line)).tail, IsRemark part := by
  unfold docLines
  split
  · rename_i blank
    refine iff_of_true (by simp) fun line known => ?_
    have nothing : trimEnd line = [] := by
      refine trimEnd_of_blank fun c inside => ?_
      exact List.all_eq_true.mp blank c (mem_of_mem_lines known inside).1
    rw [nothing]
    decide
  · rw [List.forall_mem_append, List.forall_mem_cons, List.forall_mem_map, List.forall_mem_singleton]
    constructor
    · rintro ⟨⟨_, inner⟩, _⟩ line known
      exact (docLine_contained_iff known).mp (inner line known)
    · intro inner
      refine ⟨⟨by decide, fun line known => ?_⟩, by decide⟩
      exact (docLine_contained_iff known).mpr (inner line known)

/-! What a writer adds -/

theorem Writer.lines_eq (w : Writer) (texts : List String) :
    w.lines texts = w.append (texts.map (⟨w.depth, ·⟩)) := by
  unfold lines
  induction texts generalizing w with
  | nil => simp [append]
  | cons text rest ih =>
    have same : (w.append [⟨w.depth, text⟩]).depth = w.depth := rfl
    rw [List.foldl_cons, ih, w.line_eq, same, append_append]
    rfl

theorem writeAll_docLayout (w : Writer) (doc : String) :
    writeAll w (docLayout doc) = (w.lines (docLines doc), none) := by
  refine Prod.ext ?_ ((writeAll_fault w _).trans (firstFault?_doc doc))
  rw [writeAll_eq, docLayout, linesOf_lines, w.lines_eq]

section Contained

variable {front : List Char}

theorem isRemark_of_indented (leading : ∀ c ∈ front, isIndentation c = true) (more : List Char) :
    IsRemark (front ++ "///".toList ++ more) := by
  refine .inr ?_
  rw [List.append_assoc, List.dropWhile_append_of_pos leading]
  exact ⟨more, rfl⟩

theorem isLineEnd_of_isIndentation {c : Char} (leading : isIndentation c = true) :
    isLineEnd c = false := by
  simp only [isIndentation, Bool.or_eq_true, beq_iff_eq] at leading
  rcases leading with rfl | rfl <;> decide

/- A comment only has to answer for what comes behind an end of a line inside it. -/
theorem remark_contained_iff (leading : ∀ c ∈ front, isIndentation c = true) (more : List Char) :
    (∀ line ∈ splitWhere isLineEnd (front ++ ("///".toList ++ more)), IsRemark line) ↔
      ∀ part ∈ (splitWhere isLineEnd ("///".toList ++ more)).tail, IsRemark part := by
  have slashes : ∀ c ∈ "///".toList, isLineEnd c = false := eq_false_of_any (by decide)
  have whole : ∀ c ∈ front ++ "///".toList, isLineEnd c = false := by
    rw [List.forall_mem_append]
    exact ⟨fun c inside => isLineEnd_of_isIndentation (leading c inside), slashes⟩
  obtain ⟨piece, pieces, split⟩ := List.exists_cons_of_ne_nil (splitWhere_ne_nil isLineEnd more)
  rw [← List.append_assoc, splitWhere_append_of_whole whole, splitWhere_append_of_whole slashes, split]
  simp only [List.modifyHead_cons, List.tail_cons, List.forall_mem_cons]
  exact and_iff_right (isRemark_of_indented leading piece)

end Contained

theorem indentation_leading {indent : String} (indented : ∀ c ∈ indent.toList, isIndentation c = true)
    (depth : Nat) :
    ∀ c ∈ (String.join (List.replicate depth indent)).toList, isIndentation c = true := by
  intro c inside
  rw [String.toList_join, List.mem_flatMap] at inside
  obtain ⟨part, known, inside⟩ := inside
  exact indented c (List.eq_of_mem_replicate known ▸ inside)

theorem render_remark (indent : String) (depth : Nat) (more : String) (rest : List Line) :
    (render indent (⟨depth, "///" ++ more⟩ :: rest)).toList =
      (String.join (List.replicate depth indent)).toList ++ ("///".toList ++ more.toList) ++
        '\n' :: (render indent rest).toList := by
  have nonempty : "///" ++ more ≠ "" := by simp
  simp [render, Line.render, nonempty]

theorem render_contained_iff {indent : String} (indented : ∀ c ∈ indent.toList, isIndentation c = true)
    (depth : Nat) {texts : List String} (remarks : ∀ text ∈ texts, ∃ more, text = "///" ++ more) :
    (∀ line ∈ splitWhere isLineEnd (render indent (texts.map (⟨depth, ·⟩))).toList, IsRemark line) ↔
      ∀ text ∈ texts, ∀ part ∈ (splitWhere isLineEnd text.toList).tail, IsRemark part := by
  induction texts with
  | nil => simp [splitWhere, IsRemark]
  | cons text rest ih =>
    obtain ⟨⟨more, rfl⟩, others⟩ := List.forall_mem_cons.mp remarks
    rw [List.map_cons, render_remark, splitWhere_append (by decide), List.forall_mem_append,
      List.forall_mem_cons, remark_contained_iff (indentation_leading indented depth), ih others,
      String.toList_append]

/-- Documentation is written without a fault, at any depth. What is added stays in its comment exactly
if, in every line of the text without its blanks at the end, all that C# takes for further lines is
empty or a comment itself. It does so where these lines have no other end of a line inside. -/
theorem documentation_contained_iff (w : Writer)
    (indented : ∀ c ∈ w.indent.toList, c = ' ' ∨ c = '\t') (doc : String) :
    ∃ text, w.lines (docLines doc) = { w with buffer := w.buffer ++ text } ∧
      writeAll w (docLayout doc) = (w.lines (docLines doc), none) ∧
      ((∀ line ∈ sourceLines text.toList, IsRemark line) ↔
        ∀ line ∈ Text.lines doc.toList, ∀ part ∈ (sourceLines (trimEnd line)).tail, IsRemark part) ∧
      ((∀ line ∈ Text.lines doc.toList, ∀ c ∈ trimEnd line, isLineEnd c = false) →
        ∀ line ∈ sourceLines text.toList, IsRemark line) := by
  have leading : ∀ c ∈ w.indent.toList, isIndentation c = true := by
    simpa [isIndentation] using indented
  have contained := (forall_sourceLines_iff (.inl rfl) _).trans
    ((render_contained_iff leading w.depth (docLines_remark doc)).trans (docLines_contained_iff doc))
  refine ⟨_, w.lines_eq _, writeAll_docLayout w doc, contained, fun whole => contained.mpr ?_⟩
  intro line known part inside
  rw [sourceLines_of_whole (whole line known)] at inside
  contradiction

/- Ends of lines that the text has as well, and others with nothing behind them. -/
def endingsText : String := "Closes <it>.\r\n\u2028\n & more\x85\r"

theorem endingsText_contained :
    (∀ c ∈ "\t ".toList, c = ' ' ∨ c = '\t') ∧
    docLines endingsText =
      ["/// <summary>", "/// Closes &lt;it&gt;.", "///", "///  &amp; more", "/// </summary>"] ∧
    ∃ text, Writer.lines ⟨"\t ", 2, "\n"⟩ (docLines endingsText) = ⟨"\t ", 2, "\n" ++ text⟩ ∧
      ∀ line ∈ sourceLines text.toList, IsRemark line := by
  have indented : ∀ c ∈ "\t ".toList, c = ' ' ∨ c = '\t' := by simp
  obtain ⟨text, written, _, contained, _⟩ :=
    documentation_contained_iff ⟨"\t ", 2, "\n"⟩ indented endingsText
  exact ⟨indented, by decide, text, written, contained.mpr (by decide)⟩

/- A carriage return on its own ends a line for C#, and sets free what is behind it. -/
def closingText : String := "Closes the game.\rExit();"

theorem closingText_leaks :
    (∀ c ∈ "\t".toList, c = ' ' ∨ c = '\t') ∧
    ∃ text, Writer.lines ⟨"\t", 1, ""⟩ (docLines closingText) = ⟨"\t", 1, "" ++ text⟩ ∧
      ∃ line ∈ sourceLines text.toList, ¬ IsRemark line := by
  refine ⟨by simp, "\t/// <summary>\n\t/// Closes the game.\rExit();\n\t/// </summary>\n", ?_,
    "Exit();".toList, ?_, by decide⟩
  · decide +kernel
  · decide +kernel

end RpcSharp.Code
