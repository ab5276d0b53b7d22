import RpcSharp.Code.TypeName
import RpcSharp.Proofs.Basic

/-! Which types of a schema have a C# type, and what a scope changes about them. -/

namespace RpcSharp.Code

open RpcSharp.Text

/-- A map whose key and value types are single words, with blanks around it. -/
structure MapLiteral (raw key value : List Char) : Prop where
  keyWord : key ≠ [] ∧ ∀ c ∈ key, isWord c = true
  valueWord : value ≠ [] ∧ ∀ c ∈ value, isWord c = true
  spelled : ∃ before after, (∀ c ∈ before, isBlank c = true) ∧ (∀ c ∈ after, isBlank c = true) ∧
    raw = before ++ ("\x7b [key: ".toList ++ (key ++ ("]: ".toList ++
      (value ++ (" \x7d".toList ++ after)))))

theorem after?_eq_some_iff {start s rest : List Char} :
    after? start s = some rest ↔ s = start ++ rest := by
  induction start generalizing s with
  | nil => simp [after?]
  | cons c start ih =>
    cases s with
    | nil => simp [after?]
    | cons d s =>
      simp only [after?, List.cons_append, List.cons.injEq]
      split
      · rename_i same
        rw [ih]
        simp [same]
      · rename_i other
        simp [Ne.symm other]

theorem word?_eq_some {s word rest : List Char} (found : word? s = some (word, rest)) :
    s = word ++ rest ∧ word ≠ [] ∧ ∀ c ∈ word, isWord c = true := by
  unfold word? at found
  split at found
  · contradiction
  · rename_i nonempty
    have parts := Option.some.inj found
    have first : s.takeWhile isWord = word := congrArg (·.1) parts
    have second : s.dropWhile isWord = rest := congrArg (·.2) parts
    refine ⟨?_, first ▸ nonempty, ?_⟩
    · rw [← first, ← second, List.takeWhile_append_dropWhile]
    · intro c inside
      exact List.all_eq_true.mp (first ▸ List.all_takeWhile) c inside

theorem word?_append {word : List Char} {stop : Char} (nonempty : word ≠ [])
    (inside : ∀ c ∈ word, isWord c = true) (outside : isWord stop = false) (rest : List Char) :
    word? (word ++ stop :: rest) = some (word, stop :: rest) := by
  have taken : (word ++ stop :: rest).takeWhile isWord = word := by
    rw [List.takeWhile_append_of_pos inside]
    simp [outside]
  have dropped : (word ++ stop :: rest).dropWhile isWord = stop :: rest := by
    rw [List.dropWhile_append_of_pos inside]
    simp [outside]
  unfold word?
  rw [taken, dropped]
  cases word with
  | nil => contradiction
  | cons c word => rfl

theorem trimStart_append {before : List Char} {first : Char}
    (blank : ∀ c ∈ before, isBlank c = true) (visible : isBlank first = false) (s : List Char) :
    trimStart (before ++ first :: s) = first :: s := by
  rw [trimStart, List.dropWhile_append_of_pos blank]
  simp [visible]

/- What stands behind the words of a map, in a schema and in C#. -/
theorem isWord_of_mark (c : Char) (mark : c ∈ [']', ' ', ',', '>']) : isWord c = false := by
  simp only [List.mem_cons, List.not_mem_nil, or_false] at mark
  rcases mark with rfl | rfl | rfl | rfl
  · decide +kernel
  · decide +kernel
  · decide +kernel
  · decide +kernel

theorem mapParts?_eq_some_iff {raw key value : List Char} :
    mapParts? raw = some (key, value) ↔ MapLiteral raw key value := by
  constructor
  · intro found
    simp only [mapParts?, Option.bind_eq_bind, Option.bind_eq_some_iff] at found
    obtain ⟨s₁, opened, ⟨k, s₂⟩, first, s₃, middle, ⟨v, s₄⟩, second, s₅, closed, last⟩ := found
    split at last
    · rename_i blank
      cases Option.some.inj last
      have keyParts := word?_eq_some first
      have valueParts := word?_eq_some second
      refine ⟨keyParts.2, valueParts.2, raw.takeWhile isBlank, s₅, ?_, ?_, ?_⟩
      · exact List.all_eq_true.mp List.all_takeWhile
      · exact List.all_eq_true.mp blank
      · rw [← after?_eq_some_iff.mp closed, ← valueParts.1, ← after?_eq_some_iff.mp middle,
          ← keyParts.1, ← after?_eq_some_iff.mp opened, trimStart,
          List.takeWhile_append_dropWhile]
    · contradiction
  · rintro ⟨⟨keyNonempty, keyWord⟩, ⟨valueNonempty, valueWord⟩, before, after, front, back, rfl⟩
    have opened := trimStart_append front (show isBlank '\x7b' = false by decide)
      (" [key: ".toList ++ (key ++ ("]: ".toList ++ (value ++ (" \x7d".toList ++ after)))))
    have first := word?_append keyNonempty keyWord (isWord_of_mark ']' (by simp))
      (": ".toList ++ (value ++ (" \x7d".toList ++ after)))
    have second := word?_append valueNonempty valueWord (isWord_of_mark ' ' (by simp))
      ("\x7d".toList ++ after)
    have blank : allBlank after = true := List.all_eq_true.mpr back
    simp only [mapParts?, Option.bind_eq_bind, Option.bind_eq_some_iff]
    refine ⟨_, after?_eq_some_iff.mpr opened, _, first, _, after?_eq_some_iff.mpr rfl, _, second,
      after, after?_eq_some_iff.mpr rfl, ?_⟩
    simp [blank]

theorem MapLiteral.mem_punctuation {raw key value : List Char} (map : MapLiteral raw key value) :
    '\x7b' ∈ raw ∧ ':' ∈ raw := by
  obtain ⟨before, after, _, _, rfl⟩ := map.spelled
  simp

/- What comes first in a map, blanks apart, is its opening brace. -/
theorem not_mapLiteral_cons {first : Char} {s key value : List Char} (visible : isBlank first = false)
    (other : first ≠ '\x7b') : ¬ MapLiteral (first :: s) key value := by
  intro map
  obtain ⟨before, after, front, _, spelled⟩ := map.spelled
  cases before with
  | nil => simp [other] at spelled
  | cons c before =>
    have same : first = c := (List.cons.inj spelled).1
    have blank := front c List.mem_cons_self
    rw [← same, visible] at blank
    contradiction

/-- The types that have a C# type: maps, and all without punctuation of maps and generics. -/
def Supported (raw : String) : Prop :=
  (∃ key value, MapLiteral raw.toList key value) ∨ ∀ c ∈ raw.toList, isTypePunctuation c = false

theorem plain_of_any {s : List Char} (none : s.any isTypePunctuation = false) :
    ∀ c ∈ s, isTypePunctuation c = false :=
  eq_false_of_any none

theorem mapType_of_mapLiteral {raw : String} {key value : List Char}
    (map : MapLiteral raw.toList key value) :
    mapType raw =
      .ok (String.ofList ("Dictionary<".toList ++ key ++ ", ".toList ++ value ++ ['>'])) := by
  rw [mapType, mapParts?_eq_some_iff.mpr map]

theorem mapParts?_eq_none {raw : List Char} (other : ¬ ∃ key value, MapLiteral raw key value) :
    mapParts? raw = none := by
  cases found : mapParts? raw with
  | none => rfl
  | some parts => exact absurd ⟨parts.1, parts.2, mapParts?_eq_some_iff.mp found⟩ other

theorem mapType_of_plain {raw : String} (plain : ∀ c ∈ raw.toList, isTypePunctuation c = false) :
    mapType raw = .ok (String.ofList (substitute raw.toList)) := by
  have other : ¬ ∃ key value, MapLiteral raw.toList key value := by
    rintro ⟨key, value, map⟩
    have brace := plain _ map.mem_punctuation.1
    contradiction
  have none : raw.toList.any isTypePunctuation = false := by simpa using plain
  rw [mapType, mapParts?_eq_none other]
  simp [none]

theorem mapType_of_unsupported {raw : String} (bad : ¬ Supported raw) :
    mapType raw = .error (.unsupportedType raw) := by
  have other : ¬ ∃ key value, MapLiteral raw.toList key value := fun map => bad (.inl map)
  have some : raw.toList.any isTypePunctuation = true := by
    rw [← Bool.not_eq_false]
    intro none
    exact bad (.inr (plain_of_any none))
  rw [mapType, mapParts?_eq_none other]
  simp [some]

theorem mapType_of_supported {raw : String} (good : Supported raw) :
    ∃ type, mapType raw = .ok type := by
  rcases good with ⟨key, value, map⟩ | plain
  · exact ⟨_, mapType_of_mapLiteral map⟩
  · exact ⟨_, mapType_of_plain plain⟩

theorem mapType_isOk_iff (raw : String) : (mapType raw).isOk = true ↔ Supported raw := by
  by_cases good : Supported raw
  · obtain ⟨type, mapped⟩ := mapType_of_supported good
    simp [mapped, Except.isOk, Except.toBool, good]
  · simp [mapType_of_unsupported good, Except.isOk, Except.toBool, good]

instance (raw : String) : Decidable (Supported raw) := decidable_of_iff _ (mapType_isOk_iff raw)

theorem mem_dropBrackets {s : List Char} {c : Char} (inside : c ∈ s) (left : c ≠ '[')
    (right : c ≠ ']') : c ∈ dropBrackets s := by
  fun_induction dropBrackets s with
  | case1 rest ih => exact ih (by simpa [left, right] using inside)
  | case2 s _ => exact inside

theorem mem_elementType {raw : String} {c : Char} (inside : c ∈ raw.toList) (left : c ≠ '[')
    (right : c ≠ ']') : c ∈ (elementType raw).toList := by
  have reversed : c ∈ raw.toList.reverse := List.mem_reverse.mpr inside
  simpa [elementType] using mem_dropBrackets reversed left right

/-- The namespace that tells a type from a class of the generated code. -/
def Scope.qualifier (s : Scope) (element : String) : String :=
  if s.enums.contains element then "Enums" else "Structs"

theorem Scope.resolve_of_free {s : Scope} {raw : String} (free : elementType raw ∉ s.taken) :
    s.resolve raw = raw := by
  simp [resolve, free]

theorem Scope.resolve_of_taken {s : Scope} {raw : String} (taken : elementType raw ∈ s.taken) :
    (s.resolve raw).toList = (s.qualifier (elementType raw)).toList ++ '.' :: raw.toList := by
  simp only [resolve, qualifier, List.contains_eq_mem, taken]
  by_cases enumerated : elementType raw ∈ s.enums <;> simp [enumerated]

/- A qualifier is a plain word, whichever it is. -/
theorem Scope.qualifier_eq (s : Scope) (element : String) :
    s.qualifier element = "Enums" ∨ s.qualifier element = "Structs" := by
  unfold qualifier
  split
  · exact .inl rfl
  · exact .inr rfl

theorem Scope.resolve_not_mapLiteral {s : Scope} {raw : String} (taken : elementType raw ∈ s.taken)
    (key value : List Char) : ¬ MapLiteral (s.resolve raw).toList key value := by
  rw [s.resolve_of_taken taken]
  rcases s.qualifier_eq (elementType raw) with h | h <;> rw [h]
  · exact not_mapLiteral_cons (by decide) (by decide)
  · exact not_mapLiteral_cons (by decide) (by decide)

theorem Scope.resolve_plain {s : Scope} {raw : String} (taken : elementType raw ∈ s.taken)
    (plain : ∀ c ∈ raw.toList, isTypePunctuation c = false) :
    ∀ c ∈ (s.resolve raw).toList, isTypePunctuation c = false := by
  intro c inside
  rw [s.resolve_of_taken taken, List.mem_append, List.mem_cons] at inside
  rcases inside with qualifier | rfl | name
  · rcases s.qualifier_eq (elementType raw) with h | h <;> rw [h] at qualifier
    · exact plain_of_any (by decide) c qualifier
    · exact plain_of_any (by decide) c qualifier
  · rfl
  · exact plain c name

theorem Scope.supported_resolve_of_taken {s : Scope} {raw : String}
    (taken : elementType raw ∈ s.taken) :
    Supported (s.resolve raw) ↔ ∀ c ∈ raw.toList, isTypePunctuation c = false := by
  constructor
  · rintro (⟨key, value, map⟩ | plain)
    · exact absurd map (s.resolve_not_mapLiteral taken key value)
    · intro c inside
      exact plain c (by simp [s.resolve_of_taken taken, inside])
  · exact fun plain => .inr (s.resolve_plain taken plain)

/-- A scope does not decide whether a type can be written: a map has a colon, so it is no name of
the scope, and any other type is as good with a namespace in front. -/
theorem Scope.supported_resolve_iff {s : Scope}
    (names : ∀ name ∈ s.taken, ':' ∉ name.toList) (raw : String) :
    Supported (s.resolve raw) ↔ Supported raw := by
  by_cases taken : elementType raw ∈ s.taken
  · rw [s.supported_resolve_of_taken taken, Supported]
    constructor
    · exact .inr
    · rintro (⟨key, value, map⟩ | plain)
      · have colon := mem_elementType map.mem_punctuation.2 (by decide) (by decide)
        exact absurd colon (names _ taken)
      · exact plain
  · rw [s.resolve_of_free taken]

/-! Substitution -/

theorem substitute_append_separator {separator : Char}
    (absent : ∀ r ∈ substitutions, separator ∉ r.1.toList) (a b : List Char) :
    substitute (a ++ separator :: b) = substitute a ++ separator :: substitute b := by
  have words : ∀ r ∈ substitutions, r.1.toList ≠ [] := by decide
  unfold substitute
  generalize substitutions = table at absent words
  induction table generalizing a b with
  | nil => rfl
  | cons r table ih =>
    simp only [List.foldl_cons]
    rw [replaceAll_append_separator (words r List.mem_cons_self) (absent r List.mem_cons_self)]
    exact ih _ _ (fun r known => absent r (List.mem_cons_of_mem _ known))
      fun r known => words r (List.mem_cons_of_mem _ known)

theorem mem_of_mem_substitute {s : List Char} {c : Char} (inside : c ∈ substitute s) :
    c ∈ s ∨ ∃ r ∈ substitutions, c ∈ r.2.toList := by
  unfold substitute at inside
  generalize substitutions = table at inside
  induction table generalizing s with
  | nil => exact .inl inside
  | cons r table ih =>
    rcases ih inside with earlier | ⟨other, known, written⟩
    · rcases mem_of_mem_replaceFrom earlier with original | written
      · exact .inl original
      · exact .inr ⟨r, List.mem_cons_self, written⟩
    · exact .inr ⟨other, List.mem_cons_of_mem _ known, written⟩

/- No substitution writes the punctuation of a map or a generic. -/
theorem substitute_plain {s : List Char} (plain : ∀ c ∈ s, isTypePunctuation c = false) :
    ∀ c ∈ substitute s, isTypePunctuation c = false := by
  intro c inside
  rcases mem_of_mem_substitute inside with original | ⟨r, known, written⟩
  · exact plain c original
  · have table : ∀ r ∈ substitutions, r.2.toList.any isTypePunctuation = false := by decide
    exact plain_of_any (table r known) c written

theorem substitute_qualifier (s : Scope) (element : String) :
    substitute (s.qualifier element).toList = (s.qualifier element).toList := by
  rcases s.qualifier_eq element with h | h
  · rw [h]; decide
  · rw [h]; decide

/-! The three ways to write a field's type -/

theorem Scope.fieldType_eq_ok_cases {s : Scope} {raw type : String} {optional : Bool}
    (given : s.fieldType raw optional = .ok type) :
    (∃ key value, MapLiteral raw.toList key value ∧ elementType raw ∉ s.taken ∧
      type = nullable
        (String.ofList ("Dictionary<".toList ++ key ++ ", ".toList ++ value ++ ['>'])) optional) ∨
    ((∀ c ∈ raw.toList, isTypePunctuation c = false) ∧ elementType raw ∈ s.taken ∧
      type = nullable (String.ofList
        ((s.qualifier (elementType raw)).toList ++ '.' :: substitute raw.toList)) optional) ∨
    ((∀ c ∈ raw.toList, isTypePunctuation c = false) ∧ elementType raw ∉ s.taken ∧
      type = nullable (String.ofList (substitute raw.toList)) optional) := by
  have supported : Supported (s.resolve raw) := by
    refine Classical.byContradiction fun bad => ?_
    simp [fieldType, mapType_of_unsupported bad, Except.map] at given
  by_cases taken : elementType raw ∈ s.taken
  · have plain := (s.supported_resolve_of_taken taken).mp supported
    refine .inr (.inl ⟨plain, taken, ?_⟩)
    rw [fieldType, mapType_of_plain (s.resolve_plain taken plain), s.resolve_of_taken taken,
      substitute_append_separator (by decide), substitute_qualifier] at given
    exact (Except.ok.inj given).symm
  · rw [fieldType, s.resolve_of_free taken] at given
    rw [s.resolve_of_free taken] at supported
    rcases supported with ⟨key, value, map⟩ | plain
    · rw [mapType_of_mapLiteral map] at given
      exact .inl ⟨key, value, map, taken, (Except.ok.inj given).symm⟩
    · rw [mapType_of_plain plain] at given
      exact .inr (.inr ⟨plain, taken, (Except.ok.inj given).symm⟩)

end RpcSharp.Code
