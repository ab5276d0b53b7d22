import RpcSharp.Text.Casing

/-! The capital of a character. It is never empty, it starts with a character that is its own capital,
and of ASCII it has only capital letters, unless it is the character itself. The tables say so: the code
points that they map to are none of those that they map. -/

namespace RpcSharp.Text

/-! Shifts -/

namespace Shift

/-- No code point that `s` maps to is one that `t` maps: they lie below or above, or are odd where
those of `t` are even or the other way round. -/
def apart (s t : Shift) : Bool :=
  Nat.blt (s.apply s.last) t.first || Nat.blt t.last (s.apply s.first) ||
    (t.step % 2 == 0 && (s.step % 2 == 0 || s.first == s.last) && Nat.blt 0 (s.apply s.first) &&
      (s.apply s.first + t.first) % 2 == 1)

variable {s t : Shift} {n : Nat}

theorem covers_iff : s.covers n = true ↔ (s.first ≤ n ∧ n ≤ s.last) ∧ s.step ∣ n - s.first := by
  simp [covers, Nat.dvd_iff_mod_eq_zero]

theorem apply_mono {m : Nat} (le : n ≤ m) : s.apply n ≤ s.apply m := by
  unfold apply
  omega

theorem not_covers_apply (apart : s.apart t = true) (covered : s.covers n = true) :
    t.covers (s.apply n) = false := by
  rw [Bool.eq_false_iff]
  intro again
  obtain ⟨⟨low, high⟩, steps⟩ := covers_iff.mp covered
  obtain ⟨⟨low', high'⟩, steps'⟩ := covers_iff.mp again
  have least := apply_mono (s := s) low
  have greatest := apply_mono (s := s) high
  simp only [Shift.apart, Bool.or_eq_true, Bool.and_eq_true, Nat.blt_eq, beq_iff_eq] at apart
  rcases apart with (below | above) | ⟨⟨⟨even', even⟩, positive⟩, odd⟩
  · omega
  · omega
  · have distance' : 2 ∣ s.apply n - t.first := Nat.dvd_trans (Nat.dvd_of_mod_eq_zero even') steps'
    have distance : 2 ∣ n - s.first := by
      rcases even with even | single
      · exact Nat.dvd_trans (Nat.dvd_of_mod_eq_zero even) steps
      · omega
    unfold apply at *
    omega

end Shift

/-! The tables -/

/-- A capital: a character that is its own, and behind it some that are no ASCII or capital letters. -/
def isCapital : List Char → Bool
  | [] => false
  | first :: rest => upper first == [first] &&
      (first :: rest).all fun c => c.isUpper || Nat.ble 0x80 c.toNat

/-- All code points beyond ASCII that have a capital, those with an expansion one by one. -/
def capitalized : List Shift := upperShifts ++ upperExpansions.map fun r => ⟨r.1, r.1, 1, 0⟩

/- Pairs of shifts and not code points are compared, which are too many to evaluate `upper` on each. -/
theorem upperShifts_apart : (upperShifts.all fun s => capitalized.all (s.apart ·)) = true := by
  decide +kernel

/- What is mapped beyond ASCII is mapped to characters. -/
theorem upperShifts_range : (upperShifts.all fun s =>
    (Nat.ble 0x80 (s.apply s.first) && Nat.blt (s.apply s.last) 0xD800) ||
    (Nat.blt 0xDFFF (s.apply s.first) && Nat.blt (s.apply s.last) 0x110000) ||
    (s.first == s.last && isCapital [Char.ofNat (s.apply s.first)])) = true := by
  decide +kernel

theorem upperExpansions_isCapital :
    (upperExpansions.all fun r => isCapital (r.2.map Char.ofNat)) = true := by
  decide +kernel

theorem upper_of_not_capitalized {c : Char} (beyond : 0x80 ≤ c.toNat)
    (other : ∀ t ∈ capitalized, t.covers c.toNat = false) : upper c = [c] := by
  have unlisted : upperExpansions.lookup c.toNat = none := by
    rw [List.lookup_eq_none_iff]
    intro r known
    have point := other ⟨r.1, r.1, 1, 0⟩ (List.mem_append_right _ (List.mem_map_of_mem known))
    rw [bne_iff_ne]
    rintro same
    simp [Shift.covers, same] at point
  have uncovered : upperShifts.find? (·.covers c.toNat) = none := by
    rw [List.find?_eq_none]
    intro t known
    simp [other t (List.mem_append_left _ known)]
  rw [upper, if_neg (Nat.not_lt.mpr beyond), mapCase, unlisted, uncovered]

theorem isCapital_of_fixed {c : Char} (beyond : 0x80 ≤ c.toNat) (fixed : upper c = [c]) :
    isCapital [c] = true := by
  simp [isCapital, fixed, beyond]

theorem toNat_ofNat {n : Nat} (valid : n.isValidChar) : (Char.ofNat n).toNat = n := by
  have written : Char.ofNat n = Char.ofNatAux n valid := dif_pos valid
  rw [written]
  rfl

theorem isCapital_shift {s : Shift} (known : s ∈ upperShifts) {n : Nat} (covered : s.covers n = true) :
    isCapital [Char.ofNat (s.apply n)] = true := by
  obtain ⟨⟨low, high⟩, _⟩ := Shift.covers_iff.mp covered
  have least := Shift.apply_mono (s := s) low
  have greatest := Shift.apply_mono (s := s) high
  have range := List.all_eq_true.mp upperShifts_range s known
  simp only [Bool.or_eq_true, Bool.and_eq_true, Nat.ble_eq, Nat.blt_eq, beq_iff_eq] at range
  rcases range with range | ⟨single, capital⟩
  · have valid : (s.apply n).isValidChar := by
      unfold Nat.isValidChar
      omega
    have code : (Char.ofNat (s.apply n)).toNat = s.apply n := toNat_ofNat valid
    have beyond : 0x80 ≤ (Char.ofNat (s.apply n)).toNat := by omega
    refine isCapital_of_fixed beyond (upper_of_not_capitalized beyond fun t listed => ?_)
    have apart := List.all_eq_true.mp (List.all_eq_true.mp upperShifts_apart s known) t listed
    rw [code]
    exact Shift.not_covers_apply apart covered
  · have same : n = s.first := by omega
    rwa [same]

theorem isCapital_upper {c : Char} (beyond : 0x80 ≤ c.toNat) : isCapital (upper c) = true := by
  have mapped : upper c = mapCase upperShifts upperExpansions c := if_neg (Nat.not_lt.mpr beyond)
  rw [mapped, mapCase]
  split
  · rename_i ns found
    obtain ⟨before, after, table, _⟩ := List.lookup_eq_some_iff.mp found
    have known : (c.toNat, ns) ∈ upperExpansions := by simp [table]
    exact List.all_eq_true.mp upperExpansions_isCapital _ known
  · rename_i unlisted
    split
    · rename_i s found
      have covered := List.find?_some found
      exact isCapital_shift (List.mem_of_find?_eq_some found) covered
    · rename_i uncovered
      refine isCapital_of_fixed beyond ?_
      rw [mapped, mapCase, unlisted, uncovered]

/-- The capital of a character starts with a character that is its own capital, and has no ASCII but
capital letters and the character itself. -/
theorem upper_eq (c : Char) : ∃ first rest, upper c = first :: rest ∧ upper first = [first] ∧
    ∀ x ∈ first :: rest, x = c ∨ x.isUpper = true ∨ 0x80 ≤ x.toNat := by
  by_cases beyond : 0x80 ≤ c.toNat
  · have capital := isCapital_upper beyond
    match upper c, capital with
    | first :: rest, capital =>
      simp only [isCapital, Bool.and_eq_true, beq_iff_eq, List.all_eq_true, Bool.or_eq_true,
        Nat.ble_eq] at capital
      exact ⟨first, rest, rfl, capital.1, fun x inside => .inr (capital.2 x inside)⟩
  · have table : ∀ n < 0x80, upper (Char.ofNat n).toUpper = [(Char.ofNat n).toUpper] ∧
        ((Char.ofNat n).toUpper = Char.ofNat n ∨ (Char.ofNat n).toUpper.isUpper = true) := by decide
    have ascii := Nat.lt_of_not_ge beyond
    have known := table c.toNat ascii
    rw [Char.ofNat_toNat] at known
    refine ⟨c.toUpper, [], if_pos ascii, known.1, fun x inside => ?_⟩
    rw [List.mem_singleton.mp inside]
    exact known.2.imp_right .inl

end RpcSharp.Text
