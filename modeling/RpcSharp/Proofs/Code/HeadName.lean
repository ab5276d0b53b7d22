import Mathlib.Data.List.TakeWhile
import RpcSharp.Proofs.Code.TypeName

/-! The names that C# looks up from the place where a type stands. What comes behind a dot is
looked up elsewhere, so these names alone can be mistaken for a class around the type. -/

namespace RpcSharp.Code

open RpcSharp.Text

def endsName (c : Char) : Bool := c == '.' || c == '[' || c == '?'

def firstName (s : List Char) : List Char := s.takeWhile (!endsName ·)

/-- Both arguments of a dictionary, or the name that any other type starts with. -/
def headNames (type : String) : List String :=
  match after? "Dictionary<".toList type.toList with
  | some arguments => [
      String.ofList (arguments.takeWhile (· != ',')),
      String.ofList (((arguments.dropWhile (· != ',')).drop 2).takeWhile (· != '>'))]
  | none => [String.ofList (firstName type.toList)]

theorem nullable_toList (type : String) (optional : Bool) :
    (nullable type optional).toList = type.toList ∨
      (nullable type optional).toList = type.toList ++ ['?'] := by
  cases optional with
  | false => exact .inl rfl
  | true => exact .inr (by simp [nullable])

theorem headNames_of_plain {type : String} (plain : ∀ c ∈ type.toList, isTypePunctuation c = false)
    (optional : Bool) :
    headNames (nullable type optional) = [String.ofList (firstName type.toList)] := by
  have other : after? "Dictionary<".toList (nullable type optional).toList = none := by
    cases found : after? "Dictionary<".toList (nullable type optional).toList with
    | none => rfl
    | some arguments =>
      have generic : '<' ∈ (nullable type optional).toList := by
        rw [after?_eq_some_iff.mp found]
        simp
      have inside : '<' ∈ type.toList := by
        rcases nullable_toList type optional with h | h <;> simpa [h] using generic
      exact absurd (plain '<' inside) (by decide)
  have first : firstName (nullable type optional).toList = firstName type.toList := by
    rcases nullable_toList type optional with h | h <;> rw [h]
    exact takeWhile_append_stop (by decide) type.toList []
  rw [headNames, other, first]

theorem headNames_of_dictionary {key value : List Char} (keyWord : ∀ c ∈ key, isWord c = true)
    (valueWord : ∀ c ∈ value, isWord c = true) (optional : Bool) :
    headNames (nullable
        (String.ofList ("Dictionary<".toList ++ key ++ ", ".toList ++ value ++ ['>'])) optional) =
      [String.ofList key, String.ofList value] := by
  -- A word has neither the comma nor the bracket that ends it here.
  have noComma : ∀ c ∈ key, (c != ',') = true := by
    intro c inside
    have different : c ≠ ',' := by
      rintro rfl
      exact Bool.false_ne_true ((isWord_of_mark ',' (by simp)).symm.trans (keyWord _ inside))
    simpa using different
  have noBracket : ∀ c ∈ value, (c != '>') = true := by
    intro c inside
    have different : c ≠ '>' := by
      rintro rfl
      exact Bool.false_ne_true ((isWord_of_mark '>' (by simp)).symm.trans (valueWord _ inside))
    simpa using different
  obtain ⟨mark, written⟩ : ∃ mark : List Char, (nullable
      (String.ofList ("Dictionary<".toList ++ key ++ ", ".toList ++ value ++ ['>'])) optional).toList =
        "Dictionary<".toList ++ (key ++ ',' :: ' ' :: (value ++ '>' :: mark)) := by
    rcases nullable_toList (String.ofList
      ("Dictionary<".toList ++ key ++ ", ".toList ++ value ++ ['>'])) optional with h | h
    · exact ⟨[], by rw [h, String.toList_ofList]; simp⟩
    · exact ⟨['?'], by rw [h, String.toList_ofList]; simp⟩
  have first : (key ++ ',' :: ' ' :: (value ++ '>' :: mark)).takeWhile (· != ',') = key := by
    rw [List.takeWhile_append_of_pos noComma]
    simp
  have rest : (key ++ ',' :: ' ' :: (value ++ '>' :: mark)).dropWhile (· != ',') =
      ',' :: ' ' :: (value ++ '>' :: mark) := by
    rw [List.dropWhile_append_of_pos noComma]
    simp
  have second : (value ++ '>' :: mark).takeWhile (· != '>') = value := by
    rw [List.takeWhile_append_of_pos noBracket]
    simp
  rw [headNames, after?_eq_some_iff.mpr written]
  simp only [first, rest, List.drop_succ_cons, List.drop_zero, second]

/-- The names that a field's type refers to in the end. The arguments of a map stay as they are,
a name that is taken gives way to its namespace, and of any other type the substituted text counts. -/
inductive Scope.Refers (s : Scope) (raw : String) : String → Prop
  | key {key value : List Char} :
      MapLiteral raw.toList key value → s.Refers raw (String.ofList key)
  | value {key value : List Char} :
      MapLiteral raw.toList key value → s.Refers raw (String.ofList value)
  | qualifier : elementType raw ∈ s.taken → s.Refers raw (s.qualifier (elementType raw))
  | bare : (∀ c ∈ raw.toList, isTypePunctuation c = false) → elementType raw ∉ s.taken →
      s.Refers raw (String.ofList (firstName (substitute raw.toList)))

theorem MapLiteral.unique {raw key value key' value' : List Char} (one : MapLiteral raw key value)
    (two : MapLiteral raw key' value') : key = key' ∧ value = value' := by
  have same := (mapParts?_eq_some_iff.mpr one).symm.trans (mapParts?_eq_some_iff.mpr two)
  exact Prod.mk.inj (Option.some.inj same)

theorem MapLiteral.not_plain {raw key value : List Char} (map : MapLiteral raw key value) :
    ¬ ∀ c ∈ raw, isTypePunctuation c = false :=
  fun plain => absurd (plain _ map.mem_punctuation.1) (by decide)

theorem Scope.firstName_qualifier (s : Scope) (element : String) (rest : List Char) :
    firstName ((s.qualifier element).toList ++ '.' :: rest) = (s.qualifier element).toList := by
  rw [firstName, takeWhile_append_stop (by decide)]
  rcases s.qualifier_eq element with h | h
  · rw [h]; decide
  · rw [h]; decide

section Refers

variable {s : Scope} {raw : String}

theorem Scope.refers_iff_of_map {key value : List Char} (map : MapLiteral raw.toList key value)
    (free : elementType raw ∉ s.taken) (name : String) :
    s.Refers raw name ↔ name = String.ofList key ∨ name = String.ofList value := by
  constructor
  · intro refers
    cases refers with
    | key again => exact .inl (congrArg String.ofList (again.unique map).1)
    | value again => exact .inr (congrArg String.ofList (again.unique map).2)
    | qualifier taken => exact absurd taken free
    | bare plain _ => exact absurd plain map.not_plain
  · rintro (rfl | rfl)
    · exact .key map
    · exact .value map

theorem Scope.refers_iff_of_plain (plain : ∀ c ∈ raw.toList, isTypePunctuation c = false)
    (name : String) :
    s.Refers raw name ↔
      (elementType raw ∈ s.taken ∧ name = s.qualifier (elementType raw)) ∨
      (elementType raw ∉ s.taken ∧ name = String.ofList (firstName (substitute raw.toList))) := by
  constructor
  · intro refers
    cases refers with
    | key map => exact absurd plain map.not_plain
    | value map => exact absurd plain map.not_plain
    | qualifier taken => exact .inl ⟨taken, rfl⟩
    | bare _ free => exact .inr ⟨free, rfl⟩
  · rintro (⟨taken, rfl⟩ | ⟨free, rfl⟩)
    · exact .qualifier taken
    · exact .bare plain free

/- The three ways to write a type, each with the names that it leaves at the front. -/
theorem Scope.mem_headNames_iff {type : String} {optional : Bool}
    (given : s.fieldType raw optional = .ok type) (name : String) :
    name ∈ headNames type ↔ s.Refers raw name := by
  rcases s.fieldType_eq_ok_cases given with
    ⟨key, value, map, free, rfl⟩ | ⟨plain, taken, rfl⟩ | ⟨plain, free, rfl⟩
  · rw [headNames_of_dictionary map.keyWord.2 map.valueWord.2, refers_iff_of_map map free]
    simp
  · have written : ∀ c ∈ (s.qualifier (elementType raw)).toList ++ '.' :: substitute raw.toList,
        isTypePunctuation c = false := by
      have resolved := substitute_plain (s.resolve_plain taken plain)
      rwa [s.resolve_of_taken taken, substitute_append_separator (by decide),
        substitute_qualifier] at resolved
    rw [headNames_of_plain (by simpa using written), String.toList_ofList, s.firstName_qualifier,
      refers_iff_of_plain plain]
    simp [taken]
  · have written := substitute_plain plain
    rw [headNames_of_plain (by simpa using written), String.toList_ofList, refers_iff_of_plain plain]
    simp [free]

end Refers

/-- A name that no substitution touches, or an array of such. -/
inductive Ordinary : String → Prop
  | name {raw : String} :
      (∀ c ∈ raw.toList, isTypePunctuation c = false) → firstName raw.toList = raw.toList →
      substitute raw.toList = raw.toList → Ordinary raw
  | array {raw : String} : Ordinary raw → Ordinary (raw ++ "[]")

theorem elementType_array (raw : String) : elementType (raw ++ "[]") = elementType raw := by
  simp [elementType, dropBrackets]

theorem elementType_of_no_bracket {raw : String} (absent : '[' ∉ raw.toList) :
    elementType raw = raw := by
  have kept : dropBrackets raw.toList.reverse = raw.toList.reverse := by
    have reversed : '[' ∉ raw.toList.reverse := by simpa using absent
    generalize raw.toList.reverse = s at reversed
    fun_cases dropBrackets s with
    | case1 rest => simp at reversed
    | case2 => rfl
  simp [elementType, kept]

/- What an ordinary type starts with is the type of its elements, which is what a scope compares. -/
theorem Ordinary.firstName_eq {raw : String} (ordinary : Ordinary raw) :
    firstName (substitute raw.toList) = (elementType raw).toList := by
  induction ordinary with
  | @name raw _ whole kept =>
    have absent : '[' ∉ raw.toList := by
      intro inside
      exact absurd (List.takeWhile_eq_self_iff.mp whole '[' inside) (by decide)
    rw [kept, elementType_of_no_bracket absent, whole]
  | @array raw _ ih =>
    have written : (raw ++ "[]").toList = raw.toList ++ '[' :: [']'] := by simp
    rw [elementType_array, ← ih, written, substitute_append_separator (by decide)]
    exact takeWhile_append_stop (by decide) _ _

theorem Ordinary.plain {raw : String} (ordinary : Ordinary raw) :
    ∀ c ∈ raw.toList, isTypePunctuation c = false := by
  induction ordinary with
  | name plain _ _ => exact plain
  | array _ ih =>
    intro c inside
    rw [String.toList_append, List.mem_append] at inside
    rcases inside with name | brackets
    · exact ih c name
    · exact plain_of_any (by decide) c brackets

theorem Ordinary.refers_cases {s : Scope} {raw name : String} (ordinary : Ordinary raw)
    (refers : s.Refers raw name) : name = "Enums" ∨ name = "Structs" ∨ name ∉ s.taken := by
  rcases (Scope.refers_iff_of_plain ordinary.plain name).mp refers with ⟨_, rfl⟩ | ⟨free, rfl⟩
  · exact (s.qualifier_eq (elementType raw)).imp_right .inl
  · rw [ordinary.firstName_eq, String.ofList_toList]
    exact .inr (.inr free)

end RpcSharp.Code
