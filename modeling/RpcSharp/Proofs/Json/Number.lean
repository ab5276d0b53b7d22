import RpcSharp.Json.Number
import RpcSharp.Proofs.Basic

/-! A number ends in front of a glyph that it does not reach, whatever is behind that glyph. -/

namespace RpcSharp.Json

open RpcSharp.Text

/-! The parts of a number, and that they depend on no more than their digits -/

theorem scanWhole_eq_ok {s : List Glyph} {whole : List Nat} (scanned : scanWhole s = .ok whole) :
    digits s = whole ∧ ∀ s', digits s' = whole → scanWhole s' = .ok whole := by
  unfold scanWhole at scanned ⊢
  split at scanned
  · contradiction
  · contradiction
  · cases scanned
    refine ⟨rfl, fun s' same => ?_⟩
    simp only [same]

theorem scanFraction_other {g : Glyph} (other : g ≠ some '.') (rest : List Glyph) :
    scanFraction (g :: rest) = .ok (none, 0) := by
  unfold scanFraction
  split
  · rename_i same
    exact absurd (List.cons.inj same).1 other
  · rfl

theorem scanFraction_point {rest : List Glyph} {fraction : Option (List Nat)} {size : Nat}
    (scanned : scanFraction (some '.' :: rest) = .ok (fraction, size)) :
    size = (digits rest).length + 1 ∧
      ∀ rest', digits rest' = digits rest → scanFraction (some '.' :: rest') = .ok (fraction, size) := by
  simp only [scanFraction] at scanned ⊢
  split at scanned
  · contradiction
  · cases scanned
    refine ⟨Nat.add_comm _ _, fun rest' same => ?_⟩
    rw [same]
    split
    · contradiction
    · rfl

theorem scanExponent_other {g : Glyph} (small : g ≠ some 'e') (large : g ≠ some 'E')
    (rest : List Glyph) : scanExponent (g :: rest) = .ok (none, 0) := by
  unfold scanExponent
  split
  · rename_i same
    exact absurd (List.cons.inj same).1 small
  · rename_i same
    exact absurd (List.cons.inj same).1 large
  · rfl

theorem exists_digit {s : List Glyph} (digit : digits s ≠ []) :
    ∃ c rest, s = some c :: rest ∧ c.isDigit = true := by
  match s with
  | [] => contradiction
  | none :: rest => contradiction
  | some c :: rest =>
    cases isDigit : c.isDigit with
    | true => exact ⟨c, rest, rfl, isDigit⟩
    | false => simp [digits, digitOf?, isDigit] at digit

/-- The exponent whose digits start a text, behind its mark and as many signs. -/
def exponentDigits (isNegative : Bool) (signs : Nat) (tail : List Glyph) :
    Except Faults (Option Int × Nat) :=
  match digits tail with
  | [] => .error (noDigit tail)
  | ds => .ok (some (if isNegative then -(value ds : Int) else value ds), 1 + signs + ds.length)

theorem exponentDigits_eq_ok {isNegative : Bool} {signs : Nat} {tail : List Glyph}
    {exponent : Option Int} {size : Nat}
    (scanned : exponentDigits isNegative signs tail = .ok (exponent, size)) :
    digits tail ≠ [] ∧ size = 1 + signs + (digits tail).length ∧
      ∀ tail', digits tail' = digits tail →
        exponentDigits isNegative signs tail' = .ok (exponent, size) := by
  unfold exponentDigits at scanned ⊢
  split at scanned
  · contradiction
  · rename_i digit
    cases scanned
    refine ⟨digit, rfl, fun tail' same => ?_⟩
    simp only [same]

theorem scanExponent_bare {tail : List Glyph} (minus : ∀ t, tail ≠ some '-' :: t)
    (plus : ∀ t, tail ≠ some '+' :: t) :
    scanExponent (some 'e' :: tail) = exponentDigits false 0 tail := by
  simp only [scanExponent]
  rfl

/- The digits of an exponent stand behind its mark and at most one sign. -/
theorem scanExponent_mark {mark : Glyph} (marks : mark = some 'e' ∨ mark = some 'E')
    {rest : List Glyph} {exponent : Option Int} {size : Nat}
    (scanned : scanExponent (mark :: rest) = .ok (exponent, size)) :
    ∃ sign tail, rest = sign ++ tail ∧ digits tail ≠ [] ∧
      size = 1 + sign.length + (digits tail).length ∧
      ∀ tail', digits tail' = digits tail →
        scanExponent (mark :: (sign ++ tail')) = .ok (exponent, size) := by
  have either (s : List Glyph) : scanExponent (mark :: s) = scanExponent (some 'e' :: s) := by
    rcases marks with rfl | rfl <;> rfl
  simp only [either] at scanned ⊢
  by_cases minus : ∃ tail, rest = some '-' :: tail
  · obtain ⟨tail, rfl⟩ := minus
    exact ⟨[some '-'], tail, rfl, exponentDigits_eq_ok scanned⟩
  · by_cases plus : ∃ tail, rest = some '+' :: tail
    · obtain ⟨tail, rfl⟩ := plus
      exact ⟨[some '+'], tail, rfl, exponentDigits_eq_ok scanned⟩
    · rw [scanExponent_bare (not_exists.mp minus) (not_exists.mp plus)] at scanned
      obtain ⟨digit, size, again⟩ := exponentDigits_eq_ok scanned
      refine ⟨[], rest, rfl, digit, size, fun tail' same => ?_⟩
      obtain ⟨c, others, rfl, isDigit⟩ := exists_digit (same ▸ digit)
      rw [List.nil_append, scanExponent_bare, again _ same]
      · rintro t start
        cases start
        contradiction
      · rintro t start
        cases start
        contradiction

/-! Scans that do not reach over `stop` -/

section Stop

variable {front rest rest' : List Glyph} {stop : Glyph}

theorem digits_stop (short : (digits (front ++ stop :: rest)).length ≤ front.length) :
    digits (front ++ stop :: rest') = digits (front ++ stop :: rest) := by
  induction front with
  | nil =>
    cases digit : digitOf? stop with
    | none => simp [digits, digit]
    | some d => simp [digits, digit] at short
  | cons g front ih =>
    cases digit : digitOf? g with
    | none => simp [digits, digit]
    | some d =>
      simp only [List.cons_append, digits, digit, List.length_cons] at short ⊢
      rw [ih (Nat.le_of_succ_le_succ short)]

theorem scanWhole_stop {whole : List Nat} (scanned : scanWhole (front ++ stop :: rest) = .ok whole)
    (short : whole.length ≤ front.length) : scanWhole (front ++ stop :: rest') = .ok whole := by
  obtain ⟨rfl, again⟩ := scanWhole_eq_ok scanned
  exact again _ (digits_stop short)

theorem scanFraction_stop {fraction : Option (List Nat)} {size : Nat}
    (scanned : scanFraction (front ++ stop :: rest) = .ok (fraction, size))
    (short : size ≤ front.length) : scanFraction (front ++ stop :: rest') = .ok (fraction, size) := by
  cases front with
  | nil =>
    by_cases point : stop = some '.'
    · subst point
      have long := (scanFraction_point scanned).1
      simp only [List.length_nil] at short
      omega
    · rw [List.nil_append, scanFraction_other point] at scanned ⊢
      exact scanned
  | cons g front =>
    by_cases point : g = some '.'
    · subst point
      obtain ⟨rfl, again⟩ := scanFraction_point scanned
      exact again _ (digits_stop (Nat.le_of_succ_le_succ short))
    · rw [List.cons_append, scanFraction_other point] at scanned ⊢
      exact scanned

theorem scanExponent_stop {exponent : Option Int} {size : Nat}
    (scanned : scanExponent (front ++ stop :: rest) = .ok (exponent, size))
    (short : size ≤ front.length) : scanExponent (front ++ stop :: rest') = .ok (exponent, size) := by
  cases front with
  | nil =>
    by_cases marks : stop = some 'e' ∨ stop = some 'E'
    · obtain ⟨sign, tail, _, _, long, _⟩ := scanExponent_mark marks scanned
      simp only [List.length_nil] at short
      omega
    · obtain ⟨small, large⟩ := not_or.mp marks
      rw [List.nil_append, scanExponent_other small large] at scanned ⊢
      exact scanned
  | cons g front =>
    by_cases marks : g = some 'e' ∨ g = some 'E'
    · obtain ⟨sign, tail, split, digit, rfl, again⟩ := scanExponent_mark marks scanned
      have positive := List.length_pos_iff.mpr digit
      simp only [List.length_cons] at short
      rcases List.append_eq_append_iff.mp split with ⟨gap, rfl, _⟩ | ⟨before, rfl, rfl⟩
      · simp only [List.length_append] at short
        omega
      · simp only [List.length_append] at short
        rw [List.cons_append, List.append_assoc]
        exact again _ (digits_stop (by omega))
    · obtain ⟨small, large⟩ := not_or.mp marks
      rw [List.cons_append, scanExponent_other small large] at scanned ⊢
      exact scanned

theorem scanNumber_stop {isNegative : Bool} {n : Numeral} {size : Nat}
    (scanned : scanNumber isNegative (front ++ stop :: rest) = .ok (n, size))
    (short : size ≤ front.length) :
    scanNumber isNegative (front ++ stop :: rest') = .ok (n, size) := by
  simp only [scanNumber, bind_eq_ok_iff] at scanned ⊢
  obtain ⟨whole, first, ⟨fraction, more⟩, second, ⟨exponent, most⟩, third, made⟩ := scanned
  cases made
  have enough : more ≤ (front.drop whole.length).length := by
    rw [List.length_drop]
    omega
  rw [List.drop_append_of_le_length (by omega)] at second third
  rw [List.drop_append_of_le_length enough] at third
  refine ⟨whole, scanWhole_stop first (by omega), ⟨fraction, more⟩, ?_, ⟨exponent, most⟩, ?_, rfl⟩
  · rw [List.drop_append_of_le_length (by omega)]
    exact scanFraction_stop second enough
  · rw [List.drop_append_of_le_length (by omega), List.drop_append_of_le_length enough]
    apply scanExponent_stop third
    simp only [List.length_drop]
    omega

end Stop

end RpcSharp.Json
