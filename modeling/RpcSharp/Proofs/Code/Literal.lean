import RpcSharp.Json.Token
import RpcSharp.Proofs.Code.Members

/-! String literals as C# reads them. A text in quotes is read as itself exactly if it has no quote, no
backslash and no end of a line. An escape cannot help, as it always stands for less than it takes. -/

namespace RpcSharp.Code

open RpcSharp.Json

/-! Texts as C# holds them -/

/-- The units of UTF-16 for a code point. -/
def codePointUnits (n : Nat) : List Nat :=
  if n < 0x10000 then [n] else [0xD800 + (n - 0x10000) / 0x400, 0xDC00 + (n - 0x10000) % 0x400]

def units (s : List Char) : List Nat := s.flatMap fun c => codePointUnits c.toNat

@[simp] theorem units_nil : units [] = [] := rfl

@[simp] theorem units_cons (c : Char) (s : List Char) :
    units (c :: s) = codePointUnits c.toNat ++ units s := rfl

@[simp] theorem units_append (s t : List Char) : units (s ++ t) = units s ++ units t :=
  List.flatMap_append

theorem codePointUnits_length (n : Nat) :
    1 ≤ (codePointUnits n).length ∧ (codePointUnits n).length ≤ 2 := by
  unfold codePointUnits
  split <;> simp

theorem length_le_units (s : List Char) : s.length ≤ (units s).length := by
  induction s with
  | nil => simp
  | cons c s ih =>
    have first := (codePointUnits_length c.toNat).1
    simp only [List.length_cons, units_cons, List.length_append]
    omega

/- No character has the code of half a pair, so the first units tell the characters apart. -/
theorem codePointUnits_append_inj {c c' : Char} {rest rest' : List Nat}
    (same : codePointUnits c.toNat ++ rest = codePointUnits c'.toNat ++ rest') :
    c = c' ∧ rest = rest' := by
  have valid : c.toNat < 0xD800 ∨ 0xDFFF < c.toNat ∧ c.toNat < 0x110000 := c.valid
  have valid' : c'.toNat < 0xD800 ∨ 0xDFFF < c'.toNat ∧ c'.toNat < 0x110000 := c'.valid
  suffices c.toNat = c'.toNat ∧ rest = rest' from ⟨Char.toNat_inj.mp this.1, this.2⟩
  unfold codePointUnits at same
  split at same <;> split at same <;>
    simp only [List.cons_append, List.nil_append, List.cons.injEq] at same
  · exact same
  · omega
  · omega
  · refine ⟨?_, same.2.2⟩
    omega

theorem units_injective {s t : List Char} (same : units s = units t) : s = t := by
  induction s generalizing t with
  | nil =>
    have short := length_le_units t
    simp [← same] at short
    exact short.symm
  | cons c s ih =>
    cases t with
    | nil =>
      have short := length_le_units (c :: s)
      simp [same] at short
    | cons c' t =>
      obtain ⟨rfl, rest⟩ := codePointUnits_append_inj same
      rw [ih rest]

/-! Literals -/

def isLineEnd (c : Char) : Bool :=
  c == '\r' || c == '\n' || c == '\x85' || c == '\u2028' || c == '\u2029'

def simpleEscape? : Char → Option Nat
  | '\x27' => some 0x27
  | '"' => some 0x22
  | '\\' => some 0x5C
  | '0' => some 0
  | 'a' => some 7
  | 'b' => some 8
  | 't' => some 9
  | 'n' => some 10
  | 'v' => some 11
  | 'f' => some 12
  | 'r' => some 13
  | _ => none

/-- The number that hexadecimal digits spell. -/
def hexNumber? (digits : List Char) : Option Nat :=
  digits.foldlM (fun n c => (hexDigit? c).map (n * 16 + ·)) 0

/-- The number that so many digits spell. -/
def hexNumberOf? (count : Nat) (s : List Char) : Option Nat :=
  if count ≤ s.length then hexNumber? (s.take count) else none

/-- What stands for an escape, and how many characters it has after its backslash. -/
def escape? : List Char → Option (List Nat × Nat)
  | [] => none
  | 'x' :: rest =>
    let digits := (rest.take 4).takeWhile fun c => (hexDigit? c).isSome
    if digits = [] then none else (hexNumber? digits).map ([·], digits.length + 1)
  | 'u' :: rest => (hexNumberOf? 4 rest).map ([·], 5)
  | 'U' :: rest => do
    let n ← hexNumberOf? 8 rest
    if n < 0x110000 then some (codePointUnits n, 9) else none
  | c :: _ => (simpleEscape? c).map ([·], 1)

/-- The value of a literal up to its quote, and what follows. The first `skip` characters belong to
an escape that is already read. -/
def literalFrom (skip : Nat) : List Char → Option (List Nat × List Char)
  | [] => none
  | c :: rest =>
    match skip with
    | skip + 1 => literalFrom skip rest
    | 0 =>
      if c = '"' then some ([], rest)
      else if isLineEnd c then none
      else if c = '\\' then do
        let (value, length) ← escape? rest
        let (more, rest) ← literalFrom length rest
        return (value ++ more, rest)
      else do
        let (more, rest) ← literalFrom 0 rest
        return (codePointUnits c.toNat ++ more, rest)

/-- The value of the literal that a text starts with. -/
def literal? : List Char → Option (List Nat)
  | '"' :: rest => (literalFrom 0 rest).map (·.1)
  | _ => none

/-- A value that is read is the text `name`. -/
def Spells (value : Option (List Nat)) (name : String) : Prop := value = some (units name.toList)

instance (value : Option (List Nat)) (name : String) : Decidable (Spells value name) :=
  inferInstanceAs (Decidable (value = some (units name.toList)))

theorem Spells.unique {value : Option (List Nat)} {name other : String} (one : Spells value name)
    (two : Spells value other) : name = other :=
  String.toList_inj.mp (units_injective (Option.some.inj (one.symm.trans two)))

/-- A character that stands for itself in a literal. -/
def IsVerbatim (c : Char) : Prop := c ≠ '"' ∧ c ≠ '\\' ∧ isLineEnd c = false

instance (c : Char) : Decidable (IsVerbatim c) :=
  inferInstanceAs (Decidable (_ ∧ _ ∧ _))

def Verbatim (name : String) : Prop := ∀ c ∈ name.toList, IsVerbatim c

instance (name : String) : Decidable (Verbatim name) :=
  List.decidableBAll IsVerbatim name.toList

theorem escape?_length {s : List Char} {value : List Nat} {length : Nat}
    (escape : escape? s = some (value, length)) : value.length ≤ length := by
  unfold escape? at escape
  split at escape
  · contradiction
  · dsimp only at escape
    split at escape
    · contradiction
    · obtain ⟨n, _, same⟩ := Option.map_eq_some_iff.mp escape
      cases same
      simp
  · obtain ⟨n, _, same⟩ := Option.map_eq_some_iff.mp escape
    cases same
    simp
  · obtain ⟨n, _, found⟩ := Option.bind_eq_some_iff.mp escape
    split at found
    · cases Option.some.inj found
      have short := (codePointUnits_length n).2
      omega
    · contradiction
  · obtain ⟨n, _, same⟩ := Option.map_eq_some_iff.mp escape
    cases same
    simp

/- What is read is at most as long as what it is read from, and shorter after an escape. -/
theorem literalFrom_sound {skip : Nat} {s rest : List Char} {value : List Nat}
    (read : literalFrom skip s = some (value, rest)) :
    ∃ passed body, s = passed ++ body ++ '"' :: rest ∧ passed.length = skip ∧
      value.length ≤ (units body).length ∧
      (value.length = (units body).length → ∀ c ∈ body, IsVerbatim c) := by
  fun_induction literalFrom skip s generalizing value with
  | case1 => contradiction
  | case2 c s skip ih =>
    obtain ⟨passed, body, rfl, rfl, short, verbatim⟩ := ih read
    exact ⟨c :: passed, body, rfl, rfl, short, verbatim⟩
  | case3 =>
    cases Option.some.inj read
    exact ⟨[], [], rfl, rfl, by simp, by simp⟩
  | case4 => contradiction
  | case5 s _ _ ih =>
    simp only [Option.bind_eq_bind, Option.bind_eq_some_iff] at read
    obtain ⟨⟨given, length⟩, escape, ⟨more, rest'⟩, later, same⟩ := read
    cases Option.some.inj same
    obtain ⟨passed, body, rfl, rfl, short, _⟩ := ih length later
    -- The backslash itself makes the difference.
    have less : (given ++ more).length < (units ('\\' :: passed ++ body)).length := by
      have given_short := escape?_length escape
      have taken := length_le_units passed
      have backslash := (codePointUnits_length '\\'.toNat).1
      simp only [units_cons, units_append, List.cons_append, List.length_append]
      omega
    exact ⟨[], '\\' :: passed ++ body, by simp, rfl, Nat.le_of_lt less,
      fun same => absurd same (Nat.ne_of_lt less)⟩
  | case6 c s quote lineEnd backslash ih =>
    simp only [Option.bind_eq_bind, Option.bind_eq_some_iff] at read
    obtain ⟨⟨more, rest'⟩, later, same⟩ := read
    cases Option.some.inj same
    obtain ⟨passed, body, rfl, none, short, verbatim⟩ := ih later
    cases List.length_eq_zero_iff.mp none
    refine ⟨[], c :: body, rfl, rfl, by simpa using short, fun same => ?_⟩
    have itself : IsVerbatim c := ⟨quote, backslash, by simpa using lineEnd⟩
    exact List.forall_mem_cons.mpr ⟨itself, verbatim (by simpa using same)⟩

theorem literalFrom_verbatim {s : List Char} (verbatim : ∀ c ∈ s, IsVerbatim c) (rest : List Char) :
    literalFrom 0 (s ++ '"' :: rest) = some (units s, rest) := by
  induction s with
  | nil => simp [literalFrom]
  | cons c s ih =>
    obtain ⟨⟨quote, backslash, lineEnd⟩, others⟩ := List.forall_mem_cons.mp verbatim
    simp [literalFrom, quote, backslash, lineEnd, ih others]

theorem spells_quoted_iff (name : String) {tail : List Char} (clean : '"' ∉ tail) :
    Spells (literal? ('"' :: name.toList ++ '"' :: tail)) name ↔ Verbatim name := by
  rw [Spells, Verbatim]
  generalize name.toList = s
  constructor
  · intro read
    obtain ⟨⟨value, rest⟩, found, same⟩ := Option.map_eq_some_iff.mp read
    have value_eq : value = units s := same
    obtain ⟨passed, body, parts, none, short, verbatim⟩ := literalFrom_sound found
    cases List.length_eq_zero_iff.mp none
    rw [value_eq] at short verbatim
    rcases append_cons_cases parts with ⟨_, rfl⟩ | ⟨gap, rfl⟩ | ⟨gap, rfl⟩
    · exact verbatim rfl
    · have quoted : tail = gap ++ '"' :: rest := by simpa using parts
      exact absurd (quoted ▸ by simp) clean
    · have quote := (codePointUnits_length '"'.toNat).1
      simp only [List.nil_append, units_append, units_cons, List.length_append] at short
      omega
  · intro verbatim
    simp [literal?, literalFrom_verbatim verbatim]

end RpcSharp.Code
