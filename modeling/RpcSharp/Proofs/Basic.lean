import RpcSharp.Text.Basic

/-! What the theory builds on: computations that may fail at each of their steps, and texts that are cut
into pieces. The pieces of a text give the text back, its lines are made of its characters, and a
replacement does not reach over a character that the replaced word lacks. -/

namespace RpcSharp

/-! Success -/

section Success

variable {ε ε' α β : Type} {x : Except ε α}

theorem bind_eq_ok_iff {f : α → Except ε β} {b : β} :
    x >>= f = .ok b ↔ ∃ a, x = .ok a ∧ f a = .ok b := by
  cases x <;> simp [bind, Except.bind]

theorem map_eq_ok_iff {f : α → β} {b : β} : f <$> x = .ok b ↔ ∃ a, x = .ok a ∧ f a = b := by
  cases x <;> simp [Functor.map, Except.map]

theorem mapError_eq_ok_iff {f : ε → ε'} {a : α} : x.mapError f = .ok a ↔ x = .ok a := by
  cases x with
  | error fault => exact ⟨nofun, nofun⟩
  | ok found =>
    constructor
    all_goals
      intro same
      cases same
      rfl

end Success

end RpcSharp

namespace RpcSharp.Text

theorem eq_false_of_any {p : Char → Bool} {s : List Char} (none : s.any p = false) :
    ∀ c ∈ s, p c = false := by
  simpa using none

theorem splitWhere_eq_splitOnP (isSeparator : Char → Bool) (s : List Char) :
    splitWhere isSeparator s = s.splitOnP isSeparator := by
  induction s with
  | nil => rfl
  | cons c rest ih =>
    rw [List.splitOnP_cons_eq_if_modifyHead, splitWhere, ih]
    split
    · rfl
    · cases pieces : rest.splitOnP isSeparator with
      | nil => exact absurd pieces (List.splitOnP_ne_nil _ _)
      | cons piece others => rfl

theorem splitWhere_ne_nil (isSeparator : Char → Bool) (s : List Char) :
    splitWhere isSeparator s ≠ [] := by
  rw [splitWhere_eq_splitOnP]
  exact List.splitOnP_ne_nil _ _

theorem intercalate_splitWhere (separator : Char) (s : List Char) :
    [separator].intercalate (splitWhere (· == separator) s) = s := by
  rw [splitWhere_eq_splitOnP, ← List.splitOn_eq_splitOnP]
  exact List.intercalate_splitOn separator

theorem splitWhere_append {isSeparator : Char → Bool} {separator : Char}
    (separates : isSeparator separator = true) (a b : List Char) :
    splitWhere isSeparator (a ++ separator :: b) =
      splitWhere isSeparator a ++ splitWhere isSeparator b := by
  induction a with
  | nil => simp [splitWhere, separates]
  | cons c a ih =>
    simp only [List.cons_append, splitWhere, ih]
    split
    · rfl
    · cases pieces : splitWhere isSeparator a with
      | nil => exact absurd pieces (splitWhere_ne_nil _ _)
      | cons piece others => rfl

theorem splitWhere_append_of_whole {isSeparator : Char → Bool} {a : List Char}
    (whole : ∀ c ∈ a, isSeparator c = false) (b : List Char) :
    splitWhere isSeparator (a ++ b) = (splitWhere isSeparator b).modifyHead (a ++ ·) := by
  obtain ⟨piece, pieces, split⟩ := List.exists_cons_of_ne_nil (splitWhere_ne_nil isSeparator b)
  rw [split]
  induction a with
  | nil => exact split
  | cons c a ih =>
    obtain ⟨here, others⟩ := List.forall_mem_cons.mp whole
    rw [List.cons_append, splitWhere, here, ih others]
    rfl

theorem splitWhere_eq_singleton {isSeparator : Char → Bool} {s : List Char}
    (whole : ∀ c ∈ s, isSeparator c = false) : splitWhere isSeparator s = [s] := by
  have split := splitWhere_append_of_whole whole []
  simpa [splitWhere] using split

theorem splitWhere_of_not_mem {separator : Char} {s : List Char} (absent : separator ∉ s) :
    splitWhere (· == separator) s = [s] := by
  apply splitWhere_eq_singleton
  intro c inside
  rw [beq_eq_false_iff_ne]
  rintro rfl
  exact absent inside

theorem mem_of_mem_splitWhere {isSeparator : Char → Bool} {s piece : List Char} {c : Char}
    (found : piece ∈ splitWhere isSeparator s) (inside : c ∈ piece) : c ∈ s := by
  induction s generalizing piece with
  | nil =>
    have empty : piece = [] := by simpa [splitWhere] using found
    simp [empty] at inside
  | cons d rest ih =>
    simp only [splitWhere] at found
    split at found
    · rcases List.mem_cons.mp found with first | later
      · simp [first] at inside
      · exact List.mem_cons_of_mem d (ih later inside)
    · split at found
      · have single : piece = [d] := by simpa using found
        simp_all
      · rename_i first others pieces
        rcases List.mem_cons.mp found with head | later
        · rw [head] at inside
          rcases List.mem_cons.mp inside with same | more
          · exact same ▸ List.mem_cons_self
          · exact List.mem_cons_of_mem d (ih (pieces ▸ List.mem_cons_self) more)
        · exact List.mem_cons_of_mem d (ih (pieces ▸ List.mem_cons_of_mem _ later) inside)

/- A word without the separator that starts in front of it also ends there. -/
theorem prefix_append_separator_iff {old a b : List Char} {separator : Char}
    (absent : separator ∉ old) : old <+: a ++ separator :: b ↔ old <+: a := by
  constructor
  · intro long
    rcases List.prefix_or_prefix_of_prefix long (List.prefix_append a (separator :: b)) with h | h
    · exact h
    · obtain ⟨rest, rfl⟩ := h
      cases rest with
      | nil => simp
      | cons c rest =>
        have tail := (List.prefix_append_right_inj a).mp long
        rw [List.cons_prefix_cons] at tail
        simp [tail.1] at absent
  · exact fun short => short.trans (List.prefix_append _ _)

theorem replaceFrom_append_separator {old : List Char} {separator : Char} (word : old ≠ [])
    (absent : separator ∉ old) (new a b : List Char) (skip : Nat) (within : skip ≤ a.length) :
    replaceFrom old new skip (a ++ separator :: b) =
      replaceFrom old new skip a ++ separator :: replaceAll old new b := by
  induction a generalizing skip with
  | nil =>
    have start : skip = 0 := Nat.le_zero.mp within
    have other : old.isPrefixOf (separator :: b) = false := by
      rw [Bool.eq_false_iff]
      intro matched
      have inside := (prefix_append_separator_iff (a := []) absent).mp
        (List.isPrefixOf_iff_prefix.mp matched)
      exact word (List.prefix_nil.mp inside)
    subst start
    simp [replaceFrom, replaceAll, other]
  | cons c a ih =>
    cases skip with
    | succ skip => exact ih skip (Nat.le_of_succ_le_succ within)
    | zero =>
      have same : old.isPrefixOf (c :: a ++ separator :: b) = old.isPrefixOf (c :: a) := by
        rw [Bool.eq_iff_iff, List.isPrefixOf_iff_prefix, List.isPrefixOf_iff_prefix]
        exact prefix_append_separator_iff absent
      simp only [List.cons_append] at same ⊢
      simp only [replaceFrom, same]
      split
      · rename_i matched
        have short := (List.isPrefixOf_iff_prefix.mp matched).length_le
        rw [ih (old.length - 1) (by simp at short; omega), List.append_assoc]
      · rw [ih 0 (Nat.zero_le _), List.cons_append]

theorem replaceAll_append_separator {old : List Char} {separator : Char} (word : old ≠ [])
    (absent : separator ∉ old) (new a b : List Char) :
    replaceAll old new (a ++ separator :: b) =
      replaceAll old new a ++ separator :: replaceAll old new b :=
  replaceFrom_append_separator word absent new a b 0 (Nat.zero_le _)

theorem mem_of_mem_replaceFrom {old new s : List Char} {skip : Nat} {c : Char}
    (inside : c ∈ replaceFrom old new skip s) : c ∈ s ∨ c ∈ new := by
  induction s generalizing skip with
  | nil => simp [replaceFrom] at inside
  | cons d s ih =>
    cases skip with
    | succ skip => exact (ih inside).imp_left (List.mem_cons_of_mem d)
    | zero =>
      simp only [replaceFrom] at inside
      split at inside
      · rcases List.mem_append.mp inside with written | later
        · exact .inr written
        · exact (ih later).imp_left (List.mem_cons_of_mem d)
      · rcases List.mem_cons.mp inside with rfl | later
        · exact .inl List.mem_cons_self
        · exact (ih later).imp_left (List.mem_cons_of_mem d)

theorem takeWhile_append_stop {p : Char → Bool} {stop : Char} (stops : p stop = false)
    (a b : List Char) : (a ++ stop :: b).takeWhile p = a.takeWhile p := by
  induction a with
  | nil => simp [stops]
  | cons c a ih => simp [List.takeWhile_cons, ih]

theorem mem_of_mem_lines {s line : List Char} {c : Char} (found : line ∈ lines s) (inside : c ∈ line) :
    c ∈ s ∧ c ≠ '\n' := by
  fun_induction lines s generalizing line with
  | case1 => contradiction
  | case2 rest ih =>
    rcases List.mem_cons.mp found with rfl | later
    · contradiction
    · exact (ih later inside).imp_left (List.mem_cons_of_mem _)
  | case3 rest ih =>
    rcases List.mem_cons.mp found with rfl | later
    · contradiction
    · exact (ih later inside).imp_left fun known => List.mem_cons_of_mem _ (List.mem_cons_of_mem _ known)
  | case4 d rest feed _ last ih =>
    rw [List.mem_singleton.mp found, List.mem_singleton] at inside
    subst inside
    exact ⟨List.mem_cons_self, feed⟩
  | case5 d rest feed _ first others split ih =>
    rw [split] at ih
    have deeper {line : List Char} (known : line ∈ first :: others) (inside : c ∈ line) :
        c ∈ d :: rest ∧ c ≠ '\n' := (ih known inside).imp_left (List.mem_cons_of_mem d)
    rcases List.mem_cons.mp found with rfl | later
    · rcases List.mem_cons.mp inside with rfl | more
      · exact ⟨List.mem_cons_self, feed⟩
      · exact deeper List.mem_cons_self more
    · exact deeper (List.mem_cons_of_mem _ later) inside

end RpcSharp.Text
