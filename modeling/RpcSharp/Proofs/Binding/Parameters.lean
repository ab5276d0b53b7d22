import RpcSharp.Proofs.Binding.FieldClass
import RpcSharp.Proofs.Binding.WireName
import RpcSharp.Proofs.Code.JsonConstructor
import RpcSharp.Proofs.Code.TypeName
import RpcSharp.Proofs.Text.Replace

/-! The parameters of constructors. Every constructor of a tree that is built belongs to a class for a
list of fields, and takes a parameter for each of them. Those that may be left out come last and have
a default, which their types alone decide; and the types say what the fields do. A type says so by its
last character and by nothing else, but no step from a type of the schema to its C# type takes such a
mark away or makes one up. -/

namespace RpcSharp.Code

open RpcSharp.Text

/-! The mark of types -/

theorem nullable_iff_getLast? (type : String) : Nullable type ↔ type.toList.getLast? = some '?' := by
  rw [← isNullable_iff, isNullable, beq_iff_eq]

theorem nullable_nullable_iff (type : String) (optional : Bool) :
    Nullable (nullable type optional) ↔ optional = true ∨ Nullable type := by
  cases optional with
  | false => simp [nullable]
  | true => exact iff_of_true ⟨type, rfl⟩ (.inl rfl)

theorem substitute_getLast?_iff (s : List Char) :
    (substitute s).getLast? = some '?' ↔ s.getLast? = some '?' := by
  have table : ∀ r ∈ substitutions,
      r.1.toList ≠ [] ∧ r.2.toList ≠ [] ∧ '?' ∉ r.1.toList ∧ '?' ∉ r.2.toList := by decide
  unfold substitute
  generalize substitutions = rules at table
  induction rules generalizing s with
  | nil => rfl
  | cons r rules ih =>
    obtain ⟨⟨word, written, absent, absent'⟩, others⟩ := List.forall_mem_cons.mp table
    rw [List.foldl_cons]
    exact (ih _ others).trans (replaceAll_getLast?_iff word written absent absent' s)

/- A map ends in its closing brace, or in the blanks behind it. -/
theorem MapLiteral.not_nullable {raw : String} {key value : List Char}
    (map : MapLiteral raw.toList key value) : ¬ Nullable raw := by
  obtain ⟨before, after, _, blank, spelled⟩ := map.spelled
  have closed : raw.toList = (before ++ ("\x7b [key: ".toList ++ (key ++ ("]: ".toList ++
      (value ++ [' ']))))) ++ '\x7d' :: after := by
    rw [spelled]
    simp
  rw [nullable_iff_getLast?, closed, getLast?_append_cons_iff]
  rintro (⟨_, brace⟩ | marked)
  · exact absurd brace (by decide)
  · exact absurd (blank '?' (List.mem_of_getLast? marked)) (by decide)

/-- The mark of a field's type stands for the field or was there before. -/
theorem Scope.nullable_fieldType_iff {s : Scope} {raw type : String} {optional : Bool}
    (given : s.fieldType raw optional = .ok type) :
    Nullable type ↔ optional = true ∨ Nullable raw := by
  rcases s.fieldType_eq_ok_cases given with
    ⟨key, value, map, _, rfl⟩ | ⟨_, _, rfl⟩ | ⟨_, _, rfl⟩
  · have dictionary : ¬ Nullable (String.ofList
        ("Dictionary<".toList ++ key ++ ", ".toList ++ value ++ ['>'])) := by
      rw [nullable_iff_getLast?, String.toList_ofList, List.getLast?_concat]
      decide
    rw [nullable_nullable_iff, or_iff_left dictionary, or_iff_left map.not_nullable]
  · have qualified : Nullable (String.ofList
        ((s.qualifier (elementType raw)).toList ++ '.' :: substitute raw.toList)) ↔ Nullable raw := by
      rw [nullable_iff_getLast?, String.toList_ofList, getLast?_append_cons_iff,
        substitute_getLast?_iff, nullable_iff_getLast?]
      simp
    rw [nullable_nullable_iff, qualified]
  · have bare : Nullable (String.ofList (substitute raw.toList)) ↔ Nullable raw := by
      rw [nullable_iff_getLast?, String.toList_ofList, substitute_getLast?_iff, nullable_iff_getLast?]
    rw [nullable_nullable_iff, bare]

/-! Constructors -/

theorem Method.header_mem_lines (m : Method) (enclosing : String) (depth : Nat) :
    ⟨depth, m.header enclosing⟩ ∈ linesOf depth (m.layout enclosing) := by
  have front : firstFault? (docLayout m.doc ++ m.attributes.map .line) = none := by
    simp
  rw [layout, linesOf_append front, linesOf_single, Layout.lines]
  simp

/- A class gets its constructor only where it has none, so there is no other. -/
theorem ClassOf.Plain.eq_jsonConstructor {c : ClassNode} (plain : c.Plain) {always : Bool} {m : Method}
    (known : .method m ∈ (c.withJsonConstructor always).members) (kind : m.kind = .constructor) :
    m = c.jsonConstructor := by
  have other : .method m ∉ c.members := by
    intro before
    have none := (plain _ before).1
    simp [MemberOf.constructor?, Method.isConstructor, kind] at none
  rcases c.withJsonConstructor_eq always with same | added
  · rw [same] at known
    exact absurd known other
  · rw [added] at known
    rcases List.mem_cons.mp known with here | before
    · exact MemberOf.method.inj here
    · exact absurd before other

end RpcSharp.Code

namespace RpcSharp.Binding

open RpcSharp.Code RpcSharp.Config RpcSharp.Schema

/-- The fields in the order of a constructor: those that a value must be given for, then the others. -/
def optionalLast (fs : List Field) : List Field := fs.filter (!·.optional) ++ fs.filter (·.optional)

/-- A parameter for a field. It has a default exactly if the field is optional. -/
structure ParameterFor (scope : Scope) (f : Field) (p : Parameter) : Prop where
  name : p.name = parameterName f.name
  type : scope.fieldType f.type f.optional = .ok p.type
  optional : p.isOptional = f.optional
  text : p.text = p.type ++ " " ++ p.name ++ (if f.optional then " = null" else "")

/- So the types of the fields determine how the parameters are written. -/
theorem texts_eq_of_parameterFor {scope : Scope} {fs : List Field} {parameters : List Parameter}
    (each : List.Forall₂ (ParameterFor scope) fs parameters) :
    (parameters.map (·.text)).map .ok = fs.map fun f =>
      (· ++ " " ++ parameterName f.name ++ if f.optional then " = null" else "") <$>
        scope.fieldType f.type f.optional := by
  induction each with
  | nil => rfl
  | cons first _ ih =>
    simp only [List.map_cons, ih, first.type, first.text, first.name]
    rfl

/- The type tells of a field whether it is optional, as it has no mark of its own. -/
theorem parameterFor_of_declares {scope : Scope} {f : Field} {p : Property} (bare : ¬ Nullable f.type)
    (declared : Declares scope f (.property p)) :
    ParameterFor scope f ⟨parameterName p.name, p.type⟩ := by
  obtain ⟨type, given, same⟩ := declared
  cases same
  have marked : isNullable type = f.optional := by
    rw [Bool.eq_iff_iff, isNullable_iff, Scope.nullable_fieldType_iff given, or_iff_left bare]
  exact ⟨rfl, given, marked, by rw [Parameter.text, Parameter.isOptional, marked]⟩

theorem parameters_of_declares {scope : Scope} {fs : List Field} {properties : List Property}
    (bare : ∀ f ∈ fs, ¬ Nullable f.type)
    (declared : List.Forall₂ (fun f p => Declares scope f (.property p)) fs properties) :
    List.Forall₂ (ParameterFor scope) (optionalLast fs)
      ((properties.filter (!·.isOptional) ++ properties.filter (·.isOptional)).map
        fun p => ⟨parameterName p.name, p.type⟩) := by
  have each : List.Forall₂ (fun f p => ParameterFor scope f ⟨parameterName p.name, p.type⟩)
      fs properties := by
    refine List.Forall₂.imp ?_ ((List.forall₂_and_left _ _).mpr ⟨bare, declared⟩)
    exact fun f p ⟨bare, declared⟩ => parameterFor_of_declares bare declared
  have part (own : Bool → Bool) :
      List.Forall₂ (fun f p => ParameterFor scope f ⟨parameterName p.name, p.type⟩)
        (fs.filter fun f => own f.optional) (properties.filter fun p => own p.isOptional) := by
    refine List.rel_filter ?_ each
    intro f p parameter
    have same : p.isOptional = f.optional := parameter.optional
    simp [same]
  exact List.forall₂_map_right_iff.mpr (List.rel_append (part not) (part id))

namespace HoldsFields

variable {scope : Scope} {fs : List Field} {c : ClassNode} (holds : HoldsFields scope fs c)

include holds

theorem parameters (bare : ∀ f ∈ fs, ¬ Nullable f.type) {m : Method}
    (known : .method m ∈ c.members) (kind : m.kind = .constructor) :
    List.Forall₂ (ParameterFor scope) (optionalLast fs) m.parameters := by
  cases holds with
  | mk always plain declared =>
    rw [plain.eq_jsonConstructor known kind, ClassOf.jsonConstructor_parameters]
    exact parameters_of_declares bare declared

theorem hasConstructor (some : fs ≠ []) : c.HasConstructor := by
  cases holds with
  | @mk c always plain declared =>
    rcases c.withJsonConstructor_cases always with ⟨given | ⟨none, _⟩, same⟩ | ⟨_, added⟩
    · rw [same]
      exact given
    · rw [none, List.forall₂_nil_right_iff] at declared
      exact absurd declared some
    · rw [added]
      exact ⟨_, List.mem_cons_self, rfl⟩

end HoldsFields

theorem exists_source_of_build {d : Document} {s : Settings} {e : Entry} {t : TypeNode}
    (built : e.build (context d s) = .ok t) : ∃ source, compileEntry d s e = .ok source := by
  obtain ⟨⟨space, named⟩, sound⟩ := build_writable built
  obtain ⟨source, written⟩ := (unitSource_of_namespace s.indent s.usings named).1 sound
  exact ⟨source, bind_eq_ok_iff.mpr ⟨t, built, written⟩⟩

/-- The constructors of a tree as they stand in the lines of its source. -/
structure Constructors (scope : Scope) (e : Entry) (t : TypeNode) (lines : List Line) : Prop where
  exist : ∀ path fs, (path, fs) ∈ e.fieldClasses → fs ≠ [] →
    ∃ c, ClassAt t path c ∧ c.HasConstructor
  take : ∀ path c m, ClassAt t path c → .method m ∈ c.members → m.kind = .constructor →
    ∃ fs, (path, fs) ∈ e.fieldClasses ∧
      List.Forall₂ (ParameterFor scope) (optionalLast fs) m.parameters ∧
      ⟨1 + path.length, "public " ++ c.name ++ "(" ++
        ", ".intercalate (m.parameters.map (·.text)) ++ ")"⟩ ∈ lines

/-- A type is marked exactly if its field is optional or the schema marks it. So where the schema
marks no type, the parameters for the optional fields are the last ones and those with a default. -/
theorem optional_parameters_last :
    (∀ (s : Scope) (raw type : String) (optional : Bool), s.fieldType raw optional = .ok type →
      ∀ name doc, ((⟨name, type, doc⟩ : Property).isOptional = true ↔ optional = true ∨ Nullable raw) ∧
        ((⟨name, type⟩ : Parameter).isOptional = true ↔ optional = true ∨ Nullable raw)) ∧
    ∀ (d : Document) (s : Settings) (e : Entry) (t : TypeNode), e.build (context d s) = .ok t →
      (∀ f ∈ e.fields, ¬ Nullable f.type) →
      ∃ source lines, compileEntry d s e = .ok source ∧ source = render s.indent lines ∧
        Constructors (e.scope (context d s)) e t lines := by
  constructor
  · intro s raw type optional given name doc
    have marked := (isNullable_iff type).trans (Scope.nullable_fieldType_iff given)
    exact ⟨marked, marked⟩
  · intro d s e t built bare
    obtain ⟨source, compiled⟩ := exists_source_of_build built
    obtain ⟨t', lines, built', text, within⟩ := compileEntry_eq_ok compiled
    cases Except.ok.inj (built.symm.trans built')
    refine ⟨source, lines, compiled, text, ?_, ?_⟩
    · intro path fs listed some
      obtain ⟨c, stands, holds⟩ := exists_holdsFields built listed
      exact ⟨c, stands, holds.hasConstructor some⟩
    · intro path c m stands known kind
      obtain ⟨fs, listed, holds⟩ := holdsFields_of_method built stands known
      have taken := holds.parameters (fun f field => bare f (Entry.mem_fields listed f field)) known kind
      have header := (within path c _ stands known).subset (m.header_mem_lines c.name _)
      rw [Method.header, kind] at header
      exact ⟨fs, listed, taken, header⟩

/- Every other field is optional, and the type of one needs a qualifier. -/
def upload : Request where
  method := "Profile.Upload"
  params := [
    { name := "tags", type := "\x7b [key: string]: number \x7d", optional := true },
    { name := "class", type := "Profile[]" },
    { name := "retries", type := "number", optional := true },
    { name := "path", type := "string" }]

def uploadDocument : Document where
  requests := [upload]
  structTypes := [{ name := "Profile" }]

theorem upload_parameters :
    ((context uploadDocument {}).requests.fieldType "Profile?" false = .ok "Profile?" ∧
      (⟨"owner", "Profile?", ""⟩ : Property).isOptional = true) ∧
    (∀ f ∈ (Entry.request upload).fields, ¬ Nullable f.type) ∧
    ∃ t path c m, (Entry.request upload).build (context uploadDocument {}) = .ok t ∧
      ClassAt t path c ∧ .method m ∈ c.members ∧ m.kind = .constructor ∧
      m.parameters.map (·.text) = ["Structs.Profile[] @class", "string path",
        "Dictionary<string, number>? tags = null", "int? retries = null"] := by
  have valid : uploadDocument.validate = .ok uploadDocument := by decide +kernel
  have good : (Entry.request upload).Compilable := by decide +kernel
  have marked : (context uploadDocument {}).requests.fieldType "Profile?" false = .ok "Profile?" := by
    decide +kernel
  have owner := (optional_parameters_last.1 _ _ _ _ marked "owner" "").1.mpr (.inr ⟨"Profile", rfl⟩)
  have bare : ∀ f ∈ (Entry.request upload).fields, ¬ Nullable f.type := by
    simp only [← isNullable_iff]
    decide
  obtain ⟨t, builds⟩ := exists_builds valid {} (.request upload) (by decide) good
  obtain ⟨source, lines, _, _, constructors⟩ :=
    optional_parameters_last.2 uploadDocument {} _ t builds.built bare
  obtain ⟨c, stands, m, known, kind⟩ := constructors.exist _ _ List.mem_cons_self (by decide)
  obtain ⟨fs, listed, taken, _⟩ := constructors.take _ c m stands known kind
  refine ⟨⟨marked, owner⟩, bare, t, _, c, m, builds.built, stands, known, kind, ?_⟩
  have own : fs = upload.params := by
    simpa [Entry.fieldClasses] using listed
  have texts := texts_eq_of_parameterFor (own ▸ taken)
  refine List.map_injective_iff.mpr (fun _ _ => Except.ok.inj) (texts.trans ?_)
  decide +kernel

end RpcSharp.Binding
