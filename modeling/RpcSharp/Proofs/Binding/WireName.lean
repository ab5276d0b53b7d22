import RpcSharp.Proofs.Binding.Capture
import RpcSharp.Proofs.Binding.IdReference
import RpcSharp.Proofs.Code.Lines
import RpcSharp.Proofs.Code.Literal

/-! The names that are sent: the method that a constant holds, and the keys of properties. Both stand
in the source as they are in the schema, in quotes where they stand in literals. So they are read back
exactly if they have no character that means something else in a literal. -/

namespace RpcSharp.Code

/-! Reading declarations -/

/-- What follows the start of the first line that starts so. -/
def textAfter? (start : String) (lines : List Line) : Option (List Char) :=
  lines.findSome? fun l => after? start.toList l.text.toList

/-- The value that the lines of a constant `Id` give it. -/
def idValue? (lines : List Line) : Option (List Nat) :=
  (textAfter? "public const string Id = " lines).bind literal?

/-- The key of a property with these lines: the literal that says which field it is for, and if there
is none the property's own name. -/
def wireKey? (display : String) (lines : List Line) : Option (List Nat) :=
  match textAfter? "[JsonProperty(" lines with
  | some text => literal? text
  | none => some (units display.toList)

/-- Lines that end with the declaration of a property under this name. -/
def DeclaresProperty (display : String) (lines : List Line) : Prop :=
  ∃ front depth type,
    lines = front ++ [⟨depth, "public " ++ type ++ " " ++ display ++ " \x7b get; set; \x7d"⟩]

/-- No remark is taken for such a line. -/
def SkipsRemarks (start : String) : Prop := ∀ more, after? start.toList ("///" ++ more).toList = none

theorem textAfter?_doc {start : String} (skips : SkipsRemarks start) (depth : Nat) (doc : String)
    (rest : List Line) :
    textAfter? start ((docLines doc).map (⟨depth, ·⟩) ++ rest) = textAfter? start rest := by
  have none : ((docLines doc).map (Line.mk depth)).findSome?
      (fun l => after? start.toList l.text.toList) = none := by
    rw [List.findSome?_eq_none_iff, List.forall_mem_map]
    intro text known
    obtain ⟨more, rfl⟩ := docLines_remark doc text known
    exact skips more
  rw [textAfter?, List.findSome?_append, none, Option.none_or, textAfter?]

theorem Constant.lines_eq (k : Constant) (depth : Nat) :
    linesOf depth k.layout = (docLines k.doc).map (⟨depth, ·⟩) ++
      [⟨depth, "public const " ++ k.type ++ " " ++ k.name ++ " = " ++ k.value ++ ";"⟩] := by
  rw [layout, linesOf_append (firstFault?_doc k.doc), docLayout, linesOf_lines, linesOf_single,
    Layout.lines]

theorem Property.lines_eq (p : Property) (enclosing : String) (depth : Nat) :
    linesOf depth (p.layout enclosing) = (docLines p.doc).map (⟨depth, ·⟩) ++
      ((if p.displayName enclosing = p.name then []
        else [⟨depth, "[JsonProperty(\"" ++ p.name ++ "\")]"⟩]) ++
      [⟨depth, "public " ++ p.type ++ " " ++ p.displayName enclosing ++ " \x7b get; set; \x7d"⟩]) := by
  simp only [layout, List.append_assoc]
  rw [linesOf_append (firstFault?_doc p.doc), docLayout, linesOf_lines]
  split <;> simp [linesOf, Layout.lines, Layout.fault?]

theorem Property.lines_declare (p : Property) (enclosing : String) (depth : Nat) :
    DeclaresProperty (p.displayName enclosing) (linesOf depth (p.layout enclosing)) := by
  rw [lines_eq, ← List.append_assoc]
  exact ⟨_, depth, p.type, rfl⟩

theorem idValue?_eq (method doc : String) (depth : Nat) :
    idValue? (linesOf depth (Constant.layout ⟨"Id", "string", "\"" ++ method ++ "\"", doc⟩)) =
      literal? ('"' :: method.toList ++ ['"', ';']) := by
  have skips : SkipsRemarks "public const string Id = " := by
    intro more
    simp [after?]
  have found : textAfter? "public const string Id = " [⟨depth,
      "public const " ++ "string" ++ " " ++ "Id" ++ " = " ++ ("\"" ++ method ++ "\"") ++ ";"⟩] =
        some ('"' :: method.toList ++ ['"', ';']) := by
    simp [textAfter?, after?]
  rw [idValue?, Constant.lines_eq, textAfter?_doc skips, found, Option.bind_some]

theorem wireKey?_eq (p : Property) (enclosing : String) (depth : Nat) :
    wireKey? (p.displayName enclosing) (linesOf depth (p.layout enclosing)) =
      if p.displayName enclosing = p.name then some (units p.name.toList)
      else literal? ('"' :: p.name.toList ++ ['"', ')', ']']) := by
  have skips : SkipsRemarks "[JsonProperty(" := by
    intro more
    simp [after?]
  have absent : textAfter? "[JsonProperty(" [⟨depth, "public " ++ p.type ++ " " ++
      p.displayName enclosing ++ " \x7b get; set; \x7d"⟩] = none := by
    simp [textAfter?, after?]
  have found (declaration : Line) : textAfter? "[JsonProperty("
      ([⟨depth, "[JsonProperty(\"" ++ p.name ++ "\")]"⟩] ++ [declaration]) =
        some ('"' :: p.name.toList ++ ['"', ')', ']']) := by
    simp [textAfter?, after?]
  rw [wireKey?, Property.lines_eq, textAfter?_doc skips]
  by_cases same : p.displayName enclosing = p.name
  · rw [if_pos same, if_pos same, List.nil_append, absent, same]
  · rw [if_neg same, if_neg same, found]

end RpcSharp.Code

namespace RpcSharp.Binding

open RpcSharp.Code RpcSharp.Config RpcSharp.Schema

/-! The declarations of an entry -/

section Build

variable {c : Context} {e : Entry} {t : TypeNode} (built : e.build c = .ok t)

include built

/- The only constant of a tree is the one for its method. -/
theorem build_constant_iff (k : Constant) :
    SomeClass t (.constant k ∈ ·.members) ↔ e.IsMethod ∧ .constant k = idConstant e.id.name := by
  cases e with
  | request r =>
    obtain ⟨leaf, outer, params, result, _, first, second, _, _, rfl⟩ := buildRequest_eq_ok built
    rw [someClass_nest_member_iff _ _ _ _ _ (by simp), requestLeaf_someClass_iff first second,
      ClassOf.mem_withJsonConstructor (by simp), ClassOf.mem_withJsonConstructor (by simp)]
    simp [requestLeaf, requestClass, responseClass, constant_not_mem_of_declares first,
      constant_not_mem_of_declares second, Entry.IsMethod, Entry.id]
  | notification n =>
    obtain ⟨leaf, outer, params, _, first, _, rfl⟩ := buildNotification_eq_ok built
    rw [someClass_nest_member_iff _ _ _ _ _ (by simp), notificationClass_someClass_iff first,
      ClassOf.mem_withJsonConstructor (by simp)]
    simp [notificationClass, constant_not_mem_of_declares first, Entry.IsMethod, Entry.id]
  | structType x =>
    obtain ⟨members, first, _, rfl⟩ := buildStruct_eq_ok built
    rw [someClass_of_flat ((structClass_plain first c x).flat false),
      ClassOf.mem_withJsonConstructor (by simp)]
    simp [structClass, constant_not_mem_of_declares first, Entry.IsMethod]
  | enumType x =>
    cases Except.ok.inj built
    simp [buildEnum, not_someClass_ofEnum, Entry.IsMethod]

theorem build_propertyName_iff (name : String) :
    (∃ p, p.name = name ∧ SomeClass t (.property p ∈ ·.members)) ↔ ∃ f ∈ e.fields, f.name = name := by
  simp only [build_property_iff built]
  constructor
  · rintro ⟨p, rfl, f, known, type, given, same⟩
    cases same
    exact ⟨f, known, rfl⟩
  · rintro ⟨f, known, rfl⟩
    obtain ⟨type, given⟩ := build_fieldType built f known
    exact ⟨⟨f.name, type, f.doc⟩, rfl, f, known, type, given, rfl⟩

end Build

/- The lines of every declaration stand together in the source. -/
theorem compileEntry_eq_ok {d : Document} {s : Settings} {e : Entry} {source : String}
    (compiled : compileEntry d s e = .ok source) :
    ∃ t lines, e.build (context d s) = .ok t ∧ source = render s.indent lines ∧
      ∀ path c m, ClassAt t path c → m ∈ c.members →
        linesOf (1 + path.length) (memberLayout c.name m) <:+: lines := by
  obtain ⟨t, built, written⟩ := bind_eq_ok_iff.mp compiled
  obtain ⟨space, _, sound, text⟩ := unitSource_eq_ok written
  refine ⟨t, _, built, text, fun path c m stands known => ?_⟩
  rw [linesOf_unitLayout]
  exact (stands.lines_within sound 1 known).trans
    ⟨s.usings.map (fun name => ⟨0, usingLine name⟩) ++
      [⟨0, ""⟩, ⟨0, "namespace " ++ space⟩, ⟨0, "\x7b"⟩], [⟨0, "\x7d"⟩], by simp⟩

theorem exists_source {d : Document} (valid : d.validate = .ok d) (s : Settings) {e : Entry}
    (good : e.Compilable) : ∃ source, compileEntry d s e = .ok source :=
  (compileEntry_makes (build_makes valid s e)).exists_ok_iff.mpr ((checks_pass_iff _ e).mpr good)

/-- The names that are sent, as they are read from the lines of an entry's source. -/
structure WireNames (e : Entry) (t : TypeNode) (lines : List Line) : Prop where
  id_declared : e.IsMethod ↔ ∃ k, SomeClass t (.constant k ∈ ·.members)
  id_read : ∀ path c k, ClassAt t path c → .constant k ∈ c.members → k.name = "Id" ∧
    linesOf (1 + path.length) k.layout <:+: lines ∧
    (Spells (idValue? (linesOf (1 + path.length) k.layout)) e.id.name ↔
      ∀ x ∈ e.id.name.toList, x ≠ '"' ∧ isLineEnd x = false)
  key_declared : ∀ name,
    (∃ p, p.name = name ∧ SomeClass t (.property p ∈ ·.members)) ↔ ∃ f ∈ e.fields, f.name = name
  key_read : ∀ path c p, ClassAt t path c → .property p ∈ c.members →
    linesOf (1 + path.length) (p.layout c.name) <:+: lines ∧
    DeclaresProperty (p.displayName c.name) (linesOf (1 + path.length) (p.layout c.name)) ∧
    (Spells (wireKey? (p.displayName c.name) (linesOf (1 + path.length) (p.layout c.name))) p.name ↔
      p.displayName c.name = p.name ∨ Verbatim p.name)

/-- In a document that is accepted, methods are read back unless they have a quote or the end of a
line. Keys are read back unless they are written as literals and have one of these or a backslash. -/
theorem wireNames_read {d : Document} (valid : d.validate = .ok d) (s : Settings) {e : Entry}
    (listed : e ∈ entries d) {source : String} (compiled : compileEntry d s e = .ok source) :
    ∃ t lines, e.build (context d s) = .ok t ∧ source = render s.indent lines ∧
      WireNames e t lines := by
  obtain ⟨t, lines, built, text, within⟩ := compileEntry_eq_ok compiled
  refine ⟨t, lines, built, text, ?_, ?_, build_propertyName_iff built, ?_⟩
  · simp only [build_constant_iff built]
    exact ⟨fun method => ⟨_, method, rfl⟩, fun ⟨_, method, _⟩ => method⟩
  · intro path c k stands known
    have lines := within path c _ stands known
    rw [memberLayout] at lines
    obtain ⟨_, same⟩ := (build_constant_iff built k).mp ⟨path, c, stands, known⟩
    cases same
    refine ⟨rfl, lines, ?_⟩
    have listed : e.id.name ∈ d.names e.id.category := Builds.name_listed ⟨listed, rfl, built⟩
    rw [idValue?_eq, spells_quoted_iff _ (by decide)]
    refine forall₂_congr fun x inside => ?_
    have bare : x ≠ '\\' := by
      rintro rfl
      exact absurd (Document.isPathChar_of_mem_name valid listed inside) (by decide)
    simp [IsVerbatim, bare]
  · intro path c p stands known
    have lines := within path c _ stands known
    rw [memberLayout] at lines
    refine ⟨lines, p.lines_declare c.name _, ?_⟩
    rw [wireKey?_eq]
    split
    · rename_i same
      exact iff_of_true rfl (.inl same)
    · rename_i differ
      rw [or_iff_right differ, spells_quoted_iff _ (by decide)]

/- Letters beyond ASCII, keys that are no identifiers, and one that is the name of its property. -/
def plainDocument : Document where
  requests := [
    { method := "Fetch.Spielgröße"
      params := [{ name := "game-id", type := "number" }, { name := "für alle", type := "string" }]
      result := [{ name := "Title", type := "string", doc := "[JsonProperty(\"title\")]" }] }]

theorem plainDocument_read :
    plainDocument.validate = .ok plainDocument ∧
    ∀ e ∈ entries plainDocument, ∃ source t lines,
      compileEntry plainDocument {} e = .ok source ∧ source = render ({} : Settings).indent lines ∧
      (∃ k, SomeClass t (.constant k ∈ ·.members)) ∧
      (∀ path c k, ClassAt t path c → .constant k ∈ c.members →
        Spells (idValue? (linesOf (1 + path.length) k.layout)) e.id.name) ∧
      (∀ f ∈ e.fields, ∃ p, p.name = f.name ∧ SomeClass t (.property p ∈ ·.members)) ∧
      ∀ path c p, ClassAt t path c → .property p ∈ c.members →
        Spells (wireKey? (p.displayName c.name) (linesOf (1 + path.length) (p.layout c.name)))
          p.name := by
  have valid : plainDocument.validate = .ok plainDocument := by decide +kernel
  have good : ∀ e ∈ entries plainDocument, e.Compilable := by decide +kernel
  have method : ∀ e ∈ entries plainDocument, Verbatim e.id.name := by decide
  have keys : ∀ e ∈ entries plainDocument, ∀ f ∈ e.fields, Verbatim f.name := by decide
  refine ⟨valid, fun e listed => ?_⟩
  obtain ⟨source, compiled⟩ := exists_source valid {} (good e listed)
  obtain ⟨t, lines, _, text, names⟩ := wireNames_read valid {} listed compiled
  refine ⟨source, t, lines, compiled, text, names.id_declared.mp ?_, ?_, ?_, ?_⟩
  · cases List.mem_singleton.mp listed
    trivial
  · intro path c k stands known
    refine (names.id_read path c k stands known).2.2.mpr fun x inside => ?_
    exact ⟨(method e listed x inside).1, (method e listed x inside).2.2⟩
  · intro f known
    exact (names.key_declared f.name).mpr ⟨f, known, rfl⟩
  · intro path c p stands known
    obtain ⟨f, field, same⟩ := (names.key_declared p.name).mp ⟨p, rfl, path, c, stands, known⟩
    exact (names.key_read path c p stands known).2.2.mpr (.inr (same ▸ keys e listed f field))

/- A method and a key that end early where they are read. -/
def quoteDocument : Document where
  notifications := [
    { method := "Said \"so\"", params := [{ name := "by \"whom\"", type := "string" }] }]

theorem quoteDocument_misread :
    quoteDocument.validate = .ok quoteDocument ∧
    ∀ e ∈ entries quoteDocument, ∃ source t,
      compileEntry quoteDocument {} e = .ok source ∧ e.build (context quoteDocument {}) = .ok t ∧
      (∃ path c k, ClassAt t path c ∧ .constant k ∈ c.members ∧
        Spells (idValue? (linesOf (1 + path.length) k.layout)) "Said " ∧
        ¬ Spells (idValue? (linesOf (1 + path.length) k.layout)) e.id.name) ∧
      ∃ path c p, ClassAt t path c ∧ .property p ∈ c.members ∧
        Spells (wireKey? (p.displayName c.name) (linesOf (1 + path.length) (p.layout c.name))) "by " ∧
        ¬ Spells (wireKey? (p.displayName c.name) (linesOf (1 + path.length) (p.layout c.name)))
          p.name := by
  have valid : quoteDocument.validate = .ok quoteDocument := by decide +kernel
  have good : ∀ e ∈ entries quoteDocument, e.Compilable := by decide +kernel
  refine ⟨valid, fun e listed => ?_⟩
  obtain ⟨source, compiled⟩ := exists_source valid {} (good e listed)
  obtain ⟨t, lines, built, _, _⟩ := compileEntry_eq_ok compiled
  cases List.mem_singleton.mp listed
  obtain ⟨path, c, stands, known⟩ := (build_constant_iff built _).mpr ⟨trivial, rfl⟩
  obtain ⟨p, named, path', c', stands', known'⟩ :=
    (build_propertyName_iff built "by \"whom\"").mpr ⟨_, List.mem_singleton_self _, rfl⟩
  have renamed : p.displayName c'.name ≠ p.name := by
    rw [Property.displayName, named, propertyName]
    split <;> decide
  have said : Spells (idValue? (linesOf (1 + path.length) (Constant.layout
      ⟨"Id", "string", "\"" ++ "Said \"so\"" ++ "\"", ""⟩))) "Said " := by
    rw [idValue?_eq]
    decide
  have key : Spells (wireKey? (p.displayName c'.name)
      (linesOf (1 + path'.length) (p.layout c'.name))) "by " := by
    rw [wireKey?_eq, if_neg renamed, named]
    decide
  exact ⟨source, t, compiled, built,
    ⟨path, c, _, stands, known, said, fun own => absurd (said.unique own) (by decide)⟩,
    path', c', p, stands', known', key, fun own => absurd (key.unique own) (by rw [named]; decide)⟩

end RpcSharp.Binding
