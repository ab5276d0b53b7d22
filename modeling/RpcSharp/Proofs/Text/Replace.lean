import RpcSharp.Proofs.Basic

/-! Replacing a word in a text, said without a scan: the leftmost occurrence is exchanged, and then
what stands behind it is treated alike. A replacement that writes fewer characters of some kind
leaves a text as it was only if the word does not occur. -/

namespace RpcSharp.Text

/-- `old` exchanged for `new`, leftmost first, and never across a place where it was exchanged. The
last character of the leftmost occurrence is the first to complete one. -/
inductive Replaced (old new : List Char) : List Char → List Char → Prop
  | absent {s : List Char} : ¬ old <:+: s → Replaced old new s s
  | leftmost {before after rest : List Char} :
      ¬ old <:+: before ++ old.dropLast → Replaced old new after rest →
      Replaced old new (before ++ (old ++ after)) (before ++ (new ++ rest))

section Scan

variable {old : List Char} (new : List Char)

theorem replaceAll_of_absent {s : List Char} (absent : ¬ old <:+: s) : replaceAll old new s = s := by
  unfold replaceAll
  induction s with
  | nil => rfl
  | cons c s ih =>
    rw [List.infix_cons_iff, not_or] at absent
    have other : old.isPrefixOf (c :: s) = false := by
      simpa [← List.isPrefixOf_iff_prefix] using absent.1
    rw [replaceFrom, other, ih absent.2]
    rfl

theorem replaceFrom_skipped (passed s : List Char) :
    replaceFrom old new passed.length (passed ++ s) = replaceAll old new s := by
  induction passed with
  | nil => rfl
  | cons c passed ih => exact ih

theorem not_prefix_of_leftmost {c : Char} {before : List Char}
    (first : ¬ old <:+: c :: before ++ old.dropLast) (after : List Char) :
    ¬ old <+: c :: before ++ (old ++ after) := by
  intro early
  have seen : c :: before ++ old.dropLast <+: c :: before ++ (old ++ after) :=
    (List.prefix_append_right_inj _).mpr (old.dropLast_prefix.trans (List.prefix_append _ _))
  have fits : old.length ≤ (c :: before ++ old.dropLast).length := by
    simp only [List.length_append, List.length_cons, List.length_dropLast]
    omega
  exact first (List.prefix_of_prefix_length_le early seen fits).isInfix

theorem replaceAll_leftmost (word : old ≠ []) {before : List Char}
    (first : ¬ old <:+: before ++ old.dropLast) (after : List Char) :
    replaceAll old new (before ++ (old ++ after)) = before ++ (new ++ replaceAll old new after) := by
  induction before with
  | nil =>
    obtain ⟨c, tail, rfl⟩ := List.exists_cons_of_ne_nil word
    have here : (c :: tail).isPrefixOf (c :: (tail ++ after)) = true :=
      List.isPrefixOf_iff_prefix.mpr (List.prefix_append (c :: tail) after)
    simp only [List.nil_append, List.cons_append, replaceAll, replaceFrom, here, if_true]
    exact congrArg (new ++ ·) (replaceFrom_skipped new tail after)
  | cons c before ih =>
    have other : old.isPrefixOf (c :: (before ++ (old ++ after))) = false := by
      simpa [← List.isPrefixOf_iff_prefix] using not_prefix_of_leftmost first after
    have later : ¬ old <:+: before ++ old.dropLast := fun inside => first (List.infix_cons inside)
    have scanned := ih later
    rw [replaceAll] at scanned
    rw [replaceAll, List.cons_append, replaceFrom, other, scanned]
    rfl

theorem exists_leftmost (word : old ≠ []) {s : List Char} (occurs : old <:+: s) :
    ∃ before after, s = before ++ (old ++ after) ∧ ¬ old <:+: before ++ old.dropLast := by
  induction s with
  | nil => exact absurd (List.infix_nil.mp occurs) word
  | cons c s ih =>
    by_cases here : old <+: c :: s
    · obtain ⟨after, whole⟩ := here
      refine ⟨[], after, whole.symm, fun inside => ?_⟩
      have short := inside.length_le
      have long := List.length_pos_iff.mpr word
      simp only [List.nil_append, List.length_dropLast] at short
      omega
    · obtain ⟨before, after, rfl, first⟩ := ih ((List.infix_cons_iff.mp occurs).resolve_left here)
      refine ⟨c :: before, after, rfl, fun inside => ?_⟩
      rcases List.infix_cons_iff.mp inside with early | later
      · refine here (early.trans ?_)
        exact (List.prefix_append_right_inj (c :: before)).mpr
          (old.dropLast_prefix.trans (List.prefix_append _ _))
      · exact first later

/- What stands behind an occurrence is shorter than the text, as the word is not empty. -/
theorem replaced_replaceAll (word : old ≠ []) (s : List Char) :
    Replaced old new s (replaceAll old new s) := by
  by_cases occurs : old <:+: s
  · obtain ⟨before, after, whole, first⟩ := exists_leftmost word occurs
    rw [whole, replaceAll_leftmost new word first]
    exact .leftmost first (replaced_replaceAll word after)
  · rw [replaceAll_of_absent new occurs]
    exact .absent occurs
termination_by s.length
decreasing_by
  have long := List.length_pos_iff.mpr word
  simp only [whole, List.length_append]
  omega

end Scan

/-- The scan finds the one text that the replacement can lead to. -/
theorem replaced_iff {old new s t : List Char} (word : old ≠ []) :
    Replaced old new s t ↔ t = replaceAll old new s := by
  constructor
  · intro replaced
    induction replaced with
    | absent occurs => exact (replaceAll_of_absent new occurs).symm
    | leftmost first _ ih => rw [replaceAll_leftmost new word first, ih]
  · rintro rfl
    exact replaced_replaceAll new word s

theorem Replaced.lighter {old new s t : List Char} {counts : Char → Bool}
    (less : new.countP counts < old.countP counts) (replaced : Replaced old new s t) :
    (t = s ∧ ¬ old <:+: s) ∨ t.countP counts < s.countP counts := by
  induction replaced with
  | absent occurs => exact .inl ⟨rfl, occurs⟩
  | @leftmost before after rest _ _ ih =>
    have behind : rest.countP counts ≤ after.countP counts := by
      rcases ih with ⟨rfl, _⟩ | lighter
      · exact Nat.le_refl _
      · exact Nat.le_of_lt lighter
    refine .inr ?_
    simp only [List.countP_append]
    omega

/-- One replacement after the other, each in what the one before it has left. -/
inductive ReplacedInOrder : List (String × String) → List Char → List Char → Prop
  | done {s : List Char} : ReplacedInOrder [] s s
  | next {r : String × String} {table : List (String × String)} {s between t : List Char} :
      Replaced r.1.toList r.2.toList s between → ReplacedInOrder table between t →
      ReplacedInOrder (r :: table) s t

theorem replacedInOrder_iff {table : List (String × String)}
    (words : ∀ r ∈ table, r.1.toList ≠ []) {s t : List Char} :
    ReplacedInOrder table s t ↔
      t = table.foldl (fun s r => replaceAll r.1.toList r.2.toList s) s := by
  induction table generalizing s with
  | nil =>
    constructor
    · rintro ⟨⟩
      rfl
    · rintro rfl
      exact .done
  | cons r table ih =>
    obtain ⟨word, words⟩ := List.forall_mem_cons.mp words
    constructor
    · rintro (_ | ⟨first, others⟩)
      rw [(replaced_iff word).mp first] at others
      exact (ih words).mp others
    · intro result
      exact .next ((replaced_iff word).mpr rfl) ((ih words).mpr result)

theorem ReplacedInOrder.lighter {table : List (String × String)} {counts : Char → Bool}
    (less : ∀ r ∈ table, r.2.toList.countP counts < r.1.toList.countP counts) {s t : List Char}
    (replaced : ReplacedInOrder table s t) :
    (t = s ∧ ∀ r ∈ table, ¬ r.1.toList <:+: s) ∨ t.countP counts < s.countP counts := by
  induction replaced with
  | done => exact .inl ⟨rfl, by simp⟩
  | next first _ ih =>
    obtain ⟨here, others⟩ := List.forall_mem_cons.mp less
    rcases first.lighter here with ⟨rfl, absent⟩ | lighter
    · refine (ih others).imp_left ?_
      rintro ⟨same, rest⟩
      exact ⟨same, List.forall_mem_cons.mpr ⟨absent, rest⟩⟩
    · refine .inr ?_
      rcases ih others with ⟨rfl, _⟩ | later
      · exact lighter
      · exact Nat.lt_trans later lighter

/-- Replacements that each write less cannot make up for one another. -/
theorem replacedInOrder_self_iff {table : List (String × String)} {counts : Char → Bool}
    (less : ∀ r ∈ table, r.2.toList.countP counts < r.1.toList.countP counts) {s : List Char} :
    ReplacedInOrder table s s ↔ ∀ r ∈ table, ¬ r.1.toList <:+: s := by
  constructor
  · intro replaced
    rcases replaced.lighter less with ⟨_, absent⟩ | lighter
    · exact absent
    · exact absurd lighter (Nat.lt_irrefl _)
  · intro absent
    clear less
    induction table with
    | nil => exact .done
    | cons r table ih =>
      obtain ⟨here, others⟩ := List.forall_mem_cons.mp absent
      exact .next (.absent here) (ih others)

/-! The end of a text -/

theorem getLast?_append_cons_iff {before after : List Char} {c mark : Char} :
    (before ++ c :: after).getLast? = some mark ↔
      (after = [] ∧ c = mark) ∨ after.getLast? = some mark := by
  cases after with
  | nil => simp
  | cons d after => simp [List.getLast?_append, List.getLast?_cons]

theorem getLast?_ne_of_not_mem {s : List Char} {mark : Char} (absent : mark ∉ s) :
    s.getLast? ≠ some mark := fun ends => absent (List.mem_of_getLast? ends)

theorem exists_last {s : List Char} {mark : Char} (inside : mark ∈ s) :
    ∃ before after, s = before ++ mark :: after ∧ mark ∉ after := by
  obtain ⟨after, before, reversed, absent⟩ :=
    List.eq_append_cons_of_mem (List.mem_reverse.mpr inside)
  refine ⟨before.reverse, after.reverse, ?_, by simpa using absent⟩
  rw [← List.reverse_reverse s, reversed]
  simp

theorem replaceAll_eq_nil_iff {old new : List Char} (written : new ≠ []) (s : List Char) :
    replaceAll old new s = [] ↔ s = [] := by
  cases s with
  | nil => exact iff_of_true rfl rfl
  | cons c rest =>
    rw [replaceAll, replaceFrom]
    split <;> simp [written]

/-- A mark that is neither replaced nor written stands at the end exactly if it did before. -/
theorem replaceAll_getLast?_iff {old new : List Char} {mark : Char} (word : old ≠ [])
    (written : new ≠ []) (absent : mark ∉ old) (absent' : mark ∉ new) (s : List Char) :
    (replaceAll old new s).getLast? = some mark ↔ s.getLast? = some mark := by
  have unwritten {s : List Char} (absent : mark ∉ s) : mark ∉ replaceAll old new s :=
    fun inside => (mem_of_mem_replaceFrom inside).elim absent absent'
  by_cases inside : mark ∈ s
  · -- What comes behind the last mark still does.
    obtain ⟨before, after, rfl, behind⟩ := exists_last inside
    rw [replaceAll_append_separator word absent, getLast?_append_cons_iff, getLast?_append_cons_iff,
      replaceAll_eq_nil_iff written]
    simp [getLast?_ne_of_not_mem behind, getLast?_ne_of_not_mem (unwritten behind)]
  · exact iff_of_false (getLast?_ne_of_not_mem (unwritten inside)) (getLast?_ne_of_not_mem inside)

end RpcSharp.Text
