import RpcSharp.Proofs.Code.Indentation

/-! Documentation can be read back from its comment. Escaping leaves no tag and no entity but its own,
so one pass over the result finds the text again. The lines of a comment are found behind any
indentation, and say what the lines of the documentation say before the blanks at their ends. -/

namespace RpcSharp.Code

open RpcSharp.Text

def entities : List String := ["&amp;", "&lt;", "&gt;"]

/-- A text without tags, in which an ampersand only starts an entity. -/
structure Escaped (s : List Char) : Prop where
  no_open : '<' ∉ s
  no_close : '>' ∉ s
  entity : ∀ tail, '&' :: tail <:+ s → ∃ name ∈ entities, name.toList <+: '&' :: tail

/-- Puts characters for entities, in one pass from left to right. All else is kept. -/
def unescapeXml : List Char → List Char
  | '&' :: 'a' :: 'm' :: 'p' :: ';' :: rest => '&' :: unescapeXml rest
  | '&' :: 'l' :: 't' :: ';' :: rest => '<' :: unescapeXml rest
  | '&' :: 'g' :: 't' :: ';' :: rest => '>' :: unescapeXml rest
  | c :: rest => c :: unescapeXml rest
  | [] => []

/-- What a line of a comment says: nothing with bare slashes, else what is behind the space. -/
def remarkText? : List Char → Option (List Char)
  | ['/', '/', '/'] => some []
  | '/' :: '/' :: '/' :: ' ' :: text => some (unescapeXml text)
  | _ => none

/-- The lines of a text in which each stands behind one indentation and before a line feed. -/
structure IndentedLines (front : List Char) (lines : List (List Char)) (s : List Char) : Prop where
  text : s = lines.flatMap fun line => front ++ (line ++ ['\n'])
  unbroken : ∀ line ∈ lines, '\n' ∉ line

/-! Escapes -/

namespace Escaped

variable {s : List Char} (escaped : Escaped s)

include escaped

theorem plain {letters : List Char} (other : ∀ c ∈ letters, c ≠ '<' ∧ c ≠ '>' ∧ c ≠ '&') :
    Escaped (letters ++ s) := by
  induction letters with
  | nil => exact escaped
  | cons c letters ih =>
    obtain ⟨⟨no_open, no_close, no_entity⟩, others⟩ := List.forall_mem_cons.mp other
    have rest := ih others
    refine ⟨?_, ?_, ?_⟩
    · simpa [no_open.symm] using rest.no_open
    · simpa [no_close.symm] using rest.no_close
    · intro tail ends
      rcases List.suffix_cons_iff.mp ends with whole | later
      · exact absurd (List.cons.inj whole).1.symm no_entity
      · exact rest.entity tail later

theorem ampersand {name : String} (known : name ∈ entities) (starts : name.toList <+: '&' :: s) :
    Escaped ('&' :: s) := by
  refine ⟨?_, ?_, ?_⟩
  · simpa using escaped.no_open
  · simpa using escaped.no_close
  · intro tail ends
    rcases List.suffix_cons_iff.mp ends with whole | later
    · exact ⟨name, known, whole ▸ starts⟩
    · exact escaped.entity tail later

theorem character (c : Char) : Escaped (escapeXmlChar c ++ s) := by
  have amp : Escaped ("amp;".toList ++ s) := escaped.plain (by simp)
  have lt : Escaped ("lt;".toList ++ s) := escaped.plain (by simp)
  have gt : Escaped ("gt;".toList ++ s) := escaped.plain (by simp)
  have starts (name : String) : name.toList <+: name.toList ++ s := List.prefix_append _ _
  unfold escapeXmlChar
  split
  · exact amp.ampersand (by decide) (starts "&amp;")
  · exact lt.ampersand (by decide) (starts "&lt;")
  · exact gt.ampersand (by decide) (starts "&gt;")
  · rename_i no_entity no_open no_close
    exact escaped.plain (List.forall_mem_singleton.mpr ⟨no_open, no_close, no_entity⟩)

end Escaped

theorem escaped_escapeXml (t : String) : Escaped (escapeXml t).toList := by
  rw [escapeXml, String.toList_ofList]
  induction t.toList with
  | nil => exact ⟨by simp, by simp, by simp⟩
  | cons c s ih => exact ih.character c

theorem unescapeXml_cons {c : Char} (other : c ≠ '&') (rest : List Char) :
    unescapeXml (c :: rest) = c :: unescapeXml rest := by
  rw [unescapeXml]
  all_goals
    intro _ same
    exact absurd same other

theorem unescapeXml_character (c : Char) (rest : List Char) :
    unescapeXml (escapeXmlChar c ++ rest) = c :: unescapeXml rest := by
  unfold escapeXmlChar
  split
  · rfl
  · rfl
  · rfl
  · rename_i other _ _
    exact unescapeXml_cons other rest

theorem unescapeXml_escaped (s : List Char) : unescapeXml (s.flatMap escapeXmlChar) = s := by
  induction s with
  | nil => rfl
  | cons c s ih => rw [List.flatMap_cons, unescapeXml_character, ih]

theorem unescapeXml_escapeXml (t : String) : unescapeXml (escapeXml t).toList = t.toList := by
  rw [escapeXml, String.toList_ofList, unescapeXml_escaped]

theorem escapeXml_injective : Function.Injective escapeXml := by
  intro s t same
  apply String.toList_inj.mp
  rw [← unescapeXml_escapeXml s, same, unescapeXml_escapeXml t]

theorem remarkText?_docLine (line : List Char) :
    remarkText? (docLine line).toList = some (trimEnd line) := by
  unfold docLine
  split
  · rename_i nothing
    rw [escaped_eq_nil_iff.mp nothing]
    rfl
  · rw [String.toList_ofList]
    exact congrArg some (unescapeXml_escaped (trimEnd line))

/-! Lines behind an indentation -/

namespace IndentedLines

variable {front s : List Char} {lines : List (List Char)}

theorem unique (one : IndentedLines front lines s) {others : List (List Char)}
    (two : IndentedLines front others s) : others = lines := by
  obtain ⟨rfl, unbroken⟩ := one
  obtain ⟨same, unbroken'⟩ := two
  induction lines generalizing others with
  | nil =>
    cases others with
    | nil => rfl
    | cons other others => simp at same
  | cons line lines ih =>
    cases others with
    | nil => simp at same
    | cons other others =>
      obtain ⟨here, behind⟩ := List.forall_mem_cons.mp unbroken
      obtain ⟨here', behind'⟩ := List.forall_mem_cons.mp unbroken'
      simp only [List.flatMap_cons, List.append_assoc, List.append_cancel_left_eq,
        List.singleton_append] at same
      -- The first line feed ends both first lines, as neither has one inside.
      rcases append_cons_cases same with ⟨_, rfl⟩ | ⟨gap, rfl⟩ | ⟨gap, rfl⟩
      · have rest := (List.cons.inj (List.append_cancel_left same)).2
        rw [ih behind rest behind']
      · simp at here'
      · simp at here

/- Without line feeds in the indentation, the line feeds of the text are the ends of the lines. -/
theorem split (indented : IndentedLines front lines s) (whole : '\n' ∉ front) :
    splitWhere (· == '\n') s = lines.map (front ++ ·) ++ [[]] := by
  obtain ⟨rfl, unbroken⟩ := indented
  induction lines with
  | nil => rfl
  | cons line lines ih =>
    obtain ⟨here, behind⟩ := List.forall_mem_cons.mp unbroken
    have absent : '\n' ∉ front ++ line := by simp [whole, here]
    rw [List.flatMap_cons, ← List.append_assoc, List.append_assoc, List.singleton_append,
      splitWhere_append rfl, splitWhere_of_not_mem absent, ih behind]
    rfl

end IndentedLines

theorem indentedLines_render (indent : String) (depth : Nat) {texts : List String}
    (remarks : ∀ text ∈ texts, ∃ more, text = "///" ++ more) (unbroken : ∀ text ∈ texts, Unbroken text) :
    IndentedLines (String.join (List.replicate depth indent)).toList (texts.map String.toList)
      (render indent (texts.map (⟨depth, ·⟩))).toList := by
  refine ⟨?_, List.forall_mem_map.mpr unbroken⟩
  clear unbroken
  induction texts with
  | nil => rfl
  | cons text texts ih =>
    obtain ⟨⟨more, rfl⟩, others⟩ := List.forall_mem_cons.mp remarks
    rw [List.map_cons, render_remark, ih others]
    simp

/-! The whole comment -/

theorem indentedLines_doc (w : Writer) (doc : String) :
    IndentedLines w.indentation.toList ((docLines doc).map String.toList)
      (render w.indent ((docLines doc).map (⟨w.depth, ·⟩))).toList :=
  indentedLines_render w.indent w.depth (docLines_remark doc) (unbroken_docLines doc)

theorem docLines_of_blank {doc : String} (blank : ∀ c ∈ doc.toList, isBlank c = true) :
    docLines doc = [] :=
  if_pos (List.all_eq_true.mpr blank)

theorem docLines_of_not_blank {doc : String} (said : ¬ ∀ c ∈ doc.toList, isBlank c = true) :
    (docLines doc).map String.toList =
      "/// <summary>".toList :: (Text.lines doc.toList).map (String.toList ∘ docLine) ++
        ["/// </summary>".toList] := by
  have shown : ¬ allBlank doc.toList = true := mt List.all_eq_true.mp said
  rw [docLines, if_neg shown]
  simp

/-- Escaped text has no tags and no entities but the three, and one pass gives the text back.
Documentation is written as nothing exactly if it is blank. Otherwise the lines that are added, behind
whatever indentation, are those of a summary with one for each line of the documentation, and they say
what these say before the blanks at their ends. -/
theorem documentation_lossless :
    (∀ t : String, Escaped (escapeXml t).toList ∧ unescapeXml (escapeXml t).toList = t.toList) ∧
    Function.Injective escapeXml ∧
    ∀ (w : Writer) (doc : String), ∃ text,
      w.lines (docLines doc) = { w with buffer := w.buffer ++ text } ∧
      (text = "" ↔ ∀ c ∈ doc.toList, isBlank c = true) ∧
      (text = "" ∨ ∃ inner,
        let lines := "/// <summary>".toList :: inner ++ ["/// </summary>".toList]
        (∀ found, IndentedLines w.indentation.toList found text.toList ↔ found = lines) ∧
        ('\n' ∉ w.indentation.toList →
          splitWhere (· == '\n') text.toList = lines.map (w.indentation.toList ++ ·) ++ [[]]) ∧
        inner.map remarkText? = (Text.lines doc.toList).map fun line => some (trimEnd line)) := by
  refine ⟨fun t => ⟨escaped_escapeXml t, unescapeXml_escapeXml t⟩, escapeXml_injective, ?_⟩
  intro w doc
  have written := indentedLines_doc w doc
  refine ⟨_, w.lines_eq (docLines doc), ?_⟩
  by_cases blank : ∀ c ∈ doc.toList, isBlank c = true
  · have nothing : render w.indent ((docLines doc).map (⟨w.depth, ·⟩)) = "" := by
      rw [docLines_of_blank blank]
      rfl
    exact ⟨iff_of_true nothing blank, .inl nothing⟩
  · rw [docLines_of_not_blank blank] at written
    refine ⟨iff_of_false ?_ blank, .inr ⟨_, ?_, written.split, ?_⟩⟩
    · intro nothing
      have empty := written.text
      rw [nothing] at empty
      simp at empty
    · intro found
      constructor
      · exact written.unique
      · rintro rfl
        exact written
    · rw [List.map_map]
      exact List.map_congr_left fun line _ => remarkText?_docLine line

/- An entity in the text, a line of blanks, and blanks at the ends of lines. -/
def entityText : String := "a &lt; <b> \r\n\u2003\n\t&c\t\n"

theorem entityText_read :
    let front := " \t \t".toList
    ∃ text, Writer.lines ⟨" \t", 2, "//"⟩ (docLines entityText) = ⟨" \t", 2, "//" ++ text⟩ ∧
      '\n' ∉ front ∧ ∃ inner,
        splitWhere (· == '\n') text.toList =
          ("/// <summary>".toList :: inner ++ ["/// </summary>".toList]).map (front ++ ·) ++ [[]] ∧
        inner.map remarkText? = ["a &lt; <b>", "", "\t&c"].map (some ·.toList) := by
  intro front
  obtain ⟨_, _, read⟩ := documentation_lossless
  obtain ⟨text, written, empty_iff, found⟩ := read ⟨" \t", 2, "//"⟩ entityText
  have whole : '\n' ∉ front := by decide
  refine ⟨text, written, whole, ?_⟩
  have shown : ¬ ∀ c ∈ entityText.toList, isBlank c = true := mt List.all_eq_true.mpr (by decide)
  rcases found with nothing | ⟨inner, _, split, meant⟩
  · exact absurd (empty_iff.mp nothing) shown
  · exact ⟨inner, split whole, meant.trans (by decide)⟩

end RpcSharp.Code
