import RpcSharp.Proofs.Basic
import RpcSharp.Proofs.Code.HeadName
import RpcSharp.Proofs.Text.Replace

/-! Types of a schema and their C# types. A text is a map in at most one way, and then a dictionary; with
other punctuation it is refused; any other text is rewritten word by word. Only texts without such words
are left alone, and an array is always the array of what its elements are. -/

namespace RpcSharp.Code

open RpcSharp.Text

/-- A map as it is written: the words of its key and its value, and the blanks around it. -/
structure MapText where
  before : String
  key : String
  value : String
  after : String
  blank_before : ∀ c ∈ before.toList, isBlank c = true
  key_word : key ≠ "" ∧ ∀ c ∈ key.toList, isWord c = true
  value_word : value ≠ "" ∧ ∀ c ∈ value.toList, isWord c = true
  blank_after : ∀ c ∈ after.toList, isBlank c = true

namespace MapText

def text (m : MapText) : String :=
  m.before ++ "\x7b [key: " ++ m.key ++ "]: " ++ m.value ++ " \x7d" ++ m.after

theorem text_toList (m : MapText) : m.text.toList = m.before.toList ++ ("\x7b [key: ".toList ++
    (m.key.toList ++ ("]: ".toList ++ (m.value.toList ++ (" \x7d".toList ++ m.after.toList))))) := by
  simp [text]

theorem mapLiteral (m : MapText) : MapLiteral m.text.toList m.key.toList m.value.toList where
  keyWord := ⟨by simpa using m.key_word.1, m.key_word.2⟩
  valueWord := ⟨by simpa using m.value_word.1, m.value_word.2⟩
  spelled := ⟨_, _, m.blank_before, m.blank_after, m.text_toList⟩

theorem exists_iff (raw : String) :
    (∃ m : MapText, m.text = raw) ↔ ∃ key value, MapLiteral raw.toList key value := by
  constructor
  · rintro ⟨m, rfl⟩
    exact ⟨_, _, m.mapLiteral⟩
  · rintro ⟨key, value, keyWord, valueWord, before, after, front, back, spelled⟩
    refine ⟨⟨String.ofList before, String.ofList key, String.ofList value, String.ofList after,
      by simpa using front, ⟨by simpa using keyWord.1, by simpa using keyWord.2⟩,
      ⟨by simpa using valueWord.1, by simpa using valueWord.2⟩, by simpa using back⟩, ?_⟩
    rw [← String.toList_inj, text_toList, spelled]
    simp

/- The blanks in front end where the brace is, which fixes all the rest. -/
theorem text_injective {m m' : MapText} (same : m.text = m'.text) : m = m' := by
  have front (n : MapText) : n.text.toList.takeWhile isBlank = n.before.toList := by
    rw [text_toList, List.takeWhile_append_of_pos n.blank_before]
    simp [show isBlank '\x7b' = false by decide]
  obtain ⟨key, value⟩ := m.mapLiteral.unique (same ▸ m'.mapLiteral)
  have before : m.before.toList = m'.before.toList := by rw [← front, ← front, same]
  have whole := congrArg String.toList same
  rw [text_toList, text_toList, before, key, value] at whole
  have after : m.after.toList = m'.after.toList := by simpa using whole
  rw [String.toList_inj] at before key value after
  cases m
  cases m'
  congr

theorem mapType_eq (m : MapText) :
    mapType m.text = .ok ("Dictionary<" ++ m.key ++ ", " ++ m.value ++ ">") := by
  rw [mapType_of_mapLiteral m.mapLiteral, Except.ok.injEq, ← String.toList_inj]
  simp

end MapText

/-- The punctuation of maps and generics. -/
def typePunctuation : List Char := ['\x7b', '\x7d', '<', '>']

theorem isTypePunctuation_iff (c : Char) : isTypePunctuation c = true ↔ c ∈ typePunctuation := by
  simp [isTypePunctuation, typePunctuation, or_assoc]

theorem not_mem_typePunctuation_iff {s : List Char} :
    (∀ c ∈ s, c ∉ typePunctuation) ↔ ∀ c ∈ s, isTypePunctuation c = false := by
  simp only [← isTypePunctuation_iff, Bool.not_eq_true]

theorem replacedInOrder_substitutions_iff {s t : List Char} :
    ReplacedInOrder substitutions s t ↔ t = substitute s :=
  replacedInOrder_iff (by decide)

/-- The three cases of a type: a map, which is written in one way only, punctuation in any other place,
and a text in which words are replaced. -/
theorem mapType_grammar (raw : String) :
    (∀ m : MapText, m.text = raw → (∀ other : MapText, other.text = raw → other = m) ∧
      mapType raw = .ok ("Dictionary<" ++ m.key ++ ", " ++ m.value ++ ">")) ∧
    ((¬ ∃ m : MapText, m.text = raw) → (∃ c ∈ raw.toList, c ∈ typePunctuation) →
      mapType raw = .error (.unsupportedType raw)) ∧
    ((¬ ∃ m : MapText, m.text = raw) → (∀ c ∈ raw.toList, c ∉ typePunctuation) →
      ∃ type, mapType raw = .ok type ∧ (∀ c ∈ type.toList, c ∉ typePunctuation) ∧
        ∀ t, ReplacedInOrder [("number", "int"), ("boolean", "bool"), ("Actions", "Action[]"),
          ("Cursor", "bool"), ("RFCDate", "string")] raw.toList t ↔ t = type.toList) := by
  refine ⟨?_, fun other marked => ?_, fun _ plain => ?_⟩
  · rintro m rfl
    exact ⟨fun other same => MapText.text_injective same, m.mapType_eq⟩
  · rw [MapText.exists_iff] at other
    refine mapType_of_unsupported ?_
    rintro (map | plain)
    · exact other map
    · obtain ⟨c, inside, mark⟩ := marked
      exact not_mem_typePunctuation_iff.mpr plain c inside mark
  · rw [not_mem_typePunctuation_iff] at plain
    refine ⟨_, mapType_of_plain plain, ?_, fun t => ?_⟩
    · rw [String.toList_ofList, not_mem_typePunctuation_iff]
      exact substitute_plain plain
    · rw [String.toList_ofList]
      exact replacedInOrder_substitutions_iff

/- A map with other blanks than spaces around it, a map of arrays, and words without a gap. -/
theorem mapType_grammar_samples :
    mapType "\n\x7b [key: größe]: number \x7d\u3000" = .ok "Dictionary<größe, number>" ∧
    mapType "\x7b [key: string]: Game[] \x7d" =
      .error (.unsupportedType "\x7b [key: string]: Game[] \x7d") ∧
    mapType "ActionsCursor[]" = .ok "Action[]bool[]" ∧
    ReplacedInOrder [("number", "int"), ("boolean", "bool"), ("Actions", "Action[]"),
      ("Cursor", "bool"), ("RFCDate", "string")] "ActionsCursor[]".toList "Action[]bool[]".toList := by
  have refused (raw : String) (none : mapParts? raw.toList = none) :
      ¬ ∃ m : MapText, m.text = raw := by
    rw [MapText.exists_iff]
    rintro ⟨key, value, map⟩
    rw [mapParts?_eq_some_iff.mpr map] at none
    contradiction
  let m : MapText := ⟨"\n", "größe", "number", "\u3000", List.all_eq_true.mp (by decide),
    ⟨by decide, List.all_eq_true.mp (by decide +kernel)⟩,
    ⟨by decide, List.all_eq_true.mp (by decide +kernel)⟩, List.all_eq_true.mp (by decide)⟩
  have map := (mapType_grammar "\n\x7b [key: größe]: number \x7d\u3000").1 m rfl
  have generic := (mapType_grammar "\x7b [key: string]: Game[] \x7d").2.1
    (refused _ (by decide +kernel)) ⟨'\x7b', by decide, by decide⟩
  obtain ⟨type, mapped, _, rewritten⟩ := (mapType_grammar "ActionsCursor[]").2.2
    (refused _ (by decide +kernel)) (not_mem_typePunctuation_iff.mpr (plain_of_any (by decide)))
  have written : mapType "ActionsCursor[]" = .ok "Action[]bool[]" := by decide +kernel
  rw [written, Except.ok.injEq] at mapped
  subst mapped
  exact ⟨map.2, generic, written, (rewritten _).mpr rfl⟩

/-! Names that stay as they are -/

/-- A text without the punctuation of types and without a word that is replaced. -/
def Untouched (raw : String) : Prop :=
  (∀ c ∈ raw.toList, c ∉ typePunctuation) ∧
    ∀ word ∈ ["number", "boolean", "Actions", "Cursor", "RFCDate"], ¬ word.toList <:+: raw.toList

/- What counts is the characters that are no brackets: every replacement writes fewer of them. -/
theorem substitute_eq_self_iff (s : List Char) :
    substitute s = s ↔ ∀ r ∈ substitutions, ¬ r.1.toList <:+: s := by
  have less : ∀ r ∈ substitutions, r.2.toList.countP (fun c => c != '[' && c != ']') <
      r.1.toList.countP (fun c => c != '[' && c != ']') := by decide
  rw [← replacedInOrder_self_iff less, replacedInOrder_substitutions_iff, eq_comm]

theorem untouched_iff (raw : String) : Untouched raw ↔
    (∀ c ∈ raw.toList, isTypePunctuation c = false) ∧ substitute raw.toList = raw.toList := by
  rw [Untouched, not_mem_typePunctuation_iff, substitute_eq_self_iff]
  simp [substitutions]

/- A dictionary starts with a letter, and a map does not. -/
theorem not_mapLiteral_dictionary (key value : String) (k v : List Char) :
    ¬ MapLiteral ("Dictionary<" ++ key ++ ", " ++ value ++ ">").toList k v := by
  have starts : ("Dictionary<" ++ key ++ ", " ++ value ++ ">").toList =
      'D' :: ("ictionary<" ++ key ++ ", " ++ value ++ ">").toList := by simp
  rw [starts]
  exact not_mapLiteral_cons (by decide) (by decide)

theorem mapType_eq_self_iff (raw : String) : mapType raw = .ok raw ↔ Untouched raw := by
  rw [untouched_iff]
  constructor
  · intro kept
    have good : Supported raw := by
      refine Classical.byContradiction fun bad => ?_
      rw [mapType_of_unsupported bad] at kept
      contradiction
    rcases good with map | plain
    · obtain ⟨m, rfl⟩ := (MapText.exists_iff raw).mpr map
      have literal := m.mapLiteral
      rw [m.mapType_eq] at kept
      rw [← Except.ok.inj kept] at literal
      exact absurd literal (not_mapLiteral_dictionary _ _ _ _)
    · rw [mapType_of_plain plain] at kept
      have same := congrArg String.toList (Except.ok.inj kept)
      rw [String.toList_ofList] at same
      exact ⟨plain, same⟩
  · rintro ⟨plain, kept⟩
    rw [mapType_of_plain plain, kept, String.ofList_toList]

instance (raw : String) : Decidable (Untouched raw) := decidable_of_iff _ (mapType_eq_self_iff raw)

/- The namespace in front of a name has no word that is replaced, and a dot ends it. -/
theorem Scope.untouched_resolve_iff (s : Scope) (raw : String) :
    Untouched (s.resolve raw) ↔ Untouched raw := by
  by_cases taken : elementType raw ∈ s.taken
  · have kept : substitute (s.resolve raw).toList = (s.resolve raw).toList ↔
        substitute raw.toList = raw.toList := by
      rw [s.resolve_of_taken taken, substitute_append_separator (by decide), substitute_qualifier]
      simp
    rw [untouched_iff, untouched_iff, kept]
    refine and_congr_left fun _ => ⟨fun plain c inside => ?_, s.resolve_plain taken⟩
    exact plain c (by simp [s.resolve_of_taken taken, inside])
  · rw [s.resolve_of_free taken]

theorem nullable_injective {type other : String} {optional : Bool}
    (same : nullable type optional = nullable other optional) : type = other := by
  cases optional with
  | false => exact same
  | true => simpa [nullable] using same

/-- A type keeps its name exactly if nothing in it is replaced, also where a reference to it is
qualified and where it is optional. -/
theorem name_kept_iff (raw : String) :
    (mapType raw = .ok raw ↔ Untouched raw) ∧
    ∀ (s : Scope) (optional : Bool),
      s.fieldType raw optional = .ok (nullable (s.resolve raw) optional) ↔ Untouched raw := by
  refine ⟨mapType_eq_self_iff raw, fun s optional => ?_⟩
  rw [← s.untouched_resolve_iff, ← mapType_eq_self_iff]
  refine map_eq_ok_iff.trans ⟨?_, ?_⟩
  · rintro ⟨type, mapped, same⟩
    rw [mapped, nullable_injective same]
  · intro mapped
    exact ⟨_, mapped, rfl⟩

example : Untouched "Profile[]" ∧ ¬ Untouched "PageCursor" := by decide +kernel

/-! Arrays -/

/-- So many pairs of brackets. -/
def brackets (n : Nat) : String := String.join (List.replicate n "[]")

theorem append_brackets_succ (raw : String) (n : Nat) :
    raw ++ brackets (n + 1) = raw ++ brackets n ++ "[]" := by
  simp [brackets, List.replicate_succ', String.join_append, String.append_assoc]

theorem Scope.resolve_array (s : Scope) (raw : String) :
    s.resolve (raw ++ "[]") = s.resolve raw ++ "[]" := by
  simp only [resolve, elementType_array]
  split
  · rfl
  · split <;> rw [String.append_assoc]

theorem plain_array {raw : String} (plain : ∀ c ∈ raw.toList, isTypePunctuation c = false) :
    ∀ c ∈ (raw ++ "[]").toList, isTypePunctuation c = false := by
  rw [String.toList_append, List.forall_mem_append]
  exact ⟨plain, plain_of_any (by decide)⟩

/- No word that is replaced has a bracket, so none reaches into the brackets. -/
theorem mapType_array {raw type : String} (plain : ∀ c ∈ raw.toList, isTypePunctuation c = false)
    (mapped : mapType raw = .ok type) : mapType (raw ++ "[]") = .ok (type ++ "[]") := by
  have written : (raw ++ "[]").toList = raw.toList ++ '[' :: [']'] := by simp
  have end_kept : substitute [']'] = [']'] := by decide
  rw [mapType_of_plain plain, Except.ok.injEq] at mapped
  rw [mapType_of_plain (plain_array plain), written, substitute_append_separator (by decide), end_kept,
    Except.ok.injEq, ← mapped, ← String.toList_inj]
  simp

theorem Scope.plain_resolve (s : Scope) {raw : String}
    (plain : ∀ c ∈ raw.toList, isTypePunctuation c = false) :
    ∀ c ∈ (s.resolve raw).toList, isTypePunctuation c = false := by
  by_cases taken : elementType raw ∈ s.taken
  · exact s.resolve_plain taken plain
  · rwa [s.resolve_of_free taken]

theorem Scope.fieldType_required (s : Scope) (raw : String) :
    s.fieldType raw false = mapType (s.resolve raw) := by
  rw [fieldType]
  cases mapType (s.resolve raw) <;> rfl

theorem Scope.resolve_brackets (s : Scope) (raw : String) (n : Nat) :
    s.resolve (raw ++ brackets n) = s.resolve raw ++ brackets n := by
  induction n with
  | zero => simp [brackets]
  | succ n ih => rw [append_brackets_succ, s.resolve_array, ih, append_brackets_succ]

theorem mapType_brackets {raw type : String} (plain : ∀ c ∈ raw.toList, isTypePunctuation c = false)
    (mapped : mapType raw = .ok type) (n : Nat) :
    (∀ c ∈ (raw ++ brackets n).toList, isTypePunctuation c = false) ∧
      mapType (raw ++ brackets n) = .ok (type ++ brackets n) := by
  induction n with
  | zero => simpa [brackets] using ⟨plain, mapped⟩
  | succ n ih =>
    rw [append_brackets_succ, append_brackets_succ]
    exact ⟨plain_array ih.1, mapType_array ih.1 ih.2⟩

/-- An array, of arrays or not, is treated as the type of its elements, with its brackets behind. -/
theorem arrays_elementwise (s : Scope) {raw : String}
    (plain : ∀ c ∈ raw.toList, c ∉ typePunctuation) (n : Nat) :
    s.resolve (raw ++ brackets n) = s.resolve raw ++ brackets n ∧
    (∃ type, mapType raw = .ok type ∧ mapType (raw ++ brackets n) = .ok (type ++ brackets n)) ∧
    ∃ type, s.fieldType raw false = .ok type ∧
      s.fieldType (raw ++ brackets n) false = .ok (type ++ brackets n) := by
  rw [not_mem_typePunctuation_iff] at plain
  have resolved := s.plain_resolve plain
  obtain ⟨bare, mapped⟩ := mapType_of_supported (.inr plain)
  obtain ⟨type, written⟩ := mapType_of_supported (.inr resolved)
  refine ⟨s.resolve_brackets raw n, ⟨bare, mapped, (mapType_brackets plain mapped n).2⟩, type, ?_, ?_⟩
  · rw [s.fieldType_required, written]
  · rw [s.fieldType_required, s.resolve_brackets, (mapType_brackets resolved written n).2]

/- An array of arrays whose elements have the name of a method and of a word that is replaced. -/
theorem arrays_elementwise_cursor :
    (∀ c ∈ "Cursor".toList, c ∉ typePunctuation) ∧
    (Scope.ofMethods ["Cursor.Move"] ["Requests"] ["Cursor"]).resolve ("Cursor" ++ brackets 2) =
      "Enums.Cursor[][]" ∧
    mapType ("Cursor" ++ brackets 2) = .ok "bool[][]" ∧
    (Scope.ofMethods ["Cursor.Move"] ["Requests"] ["Cursor"]).fieldType ("Cursor" ++ brackets 2) false =
      .ok "Enums.bool[][]" := by
  have plain : ∀ c ∈ "Cursor".toList, c ∉ typePunctuation :=
    not_mem_typePunctuation_iff.mpr (plain_of_any (by decide))
  obtain ⟨resolved, ⟨bare, mapped, array⟩, type, written, field⟩ :=
    arrays_elementwise (Scope.ofMethods ["Cursor.Move"] ["Requests"] ["Cursor"]) plain 2
  have word : mapType "Cursor" = .ok "bool" := by decide +kernel
  have qualified : (Scope.ofMethods ["Cursor.Move"] ["Requests"] ["Cursor"]).fieldType "Cursor" false =
      .ok "Enums.bool" := by decide +kernel
  rw [word, Except.ok.injEq] at mapped
  rw [qualified, Except.ok.injEq] at written
  subst mapped written
  exact ⟨plain, resolved, array, field⟩

end RpcSharp.Code
