import RpcSharp.Proofs.Basic
import RpcSharp.Proofs.Code.Identifier
import RpcSharp.Proofs.Text.Casing

/-! Names in pascal case are in a normal form, for all that they may be made of. They have no separators
but the one that guards a digit, making such a name again leaves it as it is, and only the words
between the separators matter. -/

namespace RpcSharp.Code

open RpcSharp.Text

/-- A name without separators that does not start with a digit. A digit may stand behind a guard. -/
structure PascalForm (name : String) : Prop where
  no_dash : '-' ∉ name.toList
  guard : ∀ i : Nat, name.toList[i]? = some '_' →
    i = 0 ∧ ∃ digit, name.toList[1]? = some digit ∧ digit.isDigit = true
  first : ∀ c, name.toList[0]? = some c → c.isDigit = false

/-- The words of a name: what stands between its separators, unless that is nothing. -/
def wordsOf (s : List Char) : List (List Char) := (s.splitOnP isSeparator).filter (!·.isEmpty)

/-- A text of separators only. -/
def Separators (s : String) : Prop := ∀ c ∈ s.toList, c = '-' ∨ c = '_'

/-! The words -/

/- A piece without characters has no capital. -/
theorem flatMap_words (pieces : List (List Char)) :
    (pieces.filter (!·.isEmpty)).flatMap capitalizeChars = pieces.flatMap capitalizeChars := by
  induction pieces with
  | nil => rfl
  | cons piece pieces ih =>
    cases piece with
    | nil => exact ih
    | cons c piece => simp [ih]

theorem pascalChars_eq_words (s : List Char) :
    pascalChars s = guardDigit ((wordsOf s).flatMap capitalizeChars) := by
  rw [pascalChars, splitWhere_eq_splitOnP, wordsOf, flatMap_words]

theorem pascalCase_of_words {name other : String}
    (same : wordsOf name.toList = wordsOf other.toList) : pascalCase name = pascalCase other := by
  rw [pascalCase, pascalCase, pascalChars_eq_words, same, pascalChars_eq_words]

theorem wordsOf_append_separator {c : Char} (separates : isSeparator c = true) (a b : List Char) :
    wordsOf (a ++ c :: b) = wordsOf a ++ wordsOf b := by
  have split := splitWhere_append separates a b
  simp only [splitWhere_eq_splitOnP] at split
  rw [wordsOf, split, List.filter_append, wordsOf, wordsOf]

section Separators

variable {separators : List Char} (all : ∀ c ∈ separators, isSeparator c = true)

include all

theorem wordsOf_separators_append (s : List Char) : wordsOf (separators ++ s) = wordsOf s := by
  induction separators with
  | nil => rfl
  | cons c separators ih =>
    obtain ⟨here, others⟩ := List.forall_mem_cons.mp all
    have split := wordsOf_append_separator here [] (separators ++ s)
    rw [List.nil_append] at split
    rw [List.cons_append, split, ih others]
    rfl

theorem wordsOf_append_separators (some : separators ≠ []) (a b : List Char) :
    wordsOf (a ++ (separators ++ b)) = wordsOf a ++ wordsOf b := by
  obtain ⟨c, others, rfl⟩ := List.exists_cons_of_ne_nil some
  obtain ⟨here, rest⟩ := List.forall_mem_cons.mp all
  rw [List.cons_append, wordsOf_append_separator here, wordsOf_separators_append rest]

theorem wordsOf_append_right (s : List Char) : wordsOf (s ++ separators) = wordsOf s := by
  by_cases none : separators = []
  · rw [none, List.append_nil]
  · have split := wordsOf_append_separators all none s []
    simpa [wordsOf] using split

end Separators

/-! What capitals leave as it is -/

/-- A text without separators whose first character is its own capital. -/
structure Settled (s : List Char) : Prop where
  whole : ∀ c ∈ s, isSeparator c = false
  capital : capitalizeChars s = s

theorem isSeparator_upper {c x : Char} (word : isSeparator c = false) (inside : x ∈ upper c) :
    isSeparator x = false := by
  obtain ⟨first, rest, given, _, made⟩ := upper_eq c
  rcases made x (given ▸ inside) with rfl | capital | beyond
  · exact word
  · exact isSeparator_eq_false (by simp [isAlphanum_iff, isAlpha_iff, capital])
  · rw [Bool.eq_false_iff, isSeparator, Ne, Bool.or_eq_true, beq_iff_eq, beq_iff_eq]
    rintro (rfl | rfl) <;> contradiction

theorem joinWords_whole (begins : Bool) (s : List Char) :
    ∀ c ∈ joinWords begins s, isSeparator c = false := by
  induction s generalizing begins with
  | nil => simp [joinWords]
  | cons c s ih =>
    rw [joinWords]
    split
    · exact ih true
    · rename_i word
      have word : isSeparator c = false := by simpa using word
      rw [List.forall_mem_append]
      refine ⟨?_, ih false⟩
      cases begins with
      | true => exact fun x inside => isSeparator_upper word inside
      | false => exact fun x inside => List.mem_singleton.mp inside ▸ word

theorem joinWords_settled (s : List Char) : Settled (joinWords true s) := by
  refine ⟨joinWords_whole true s, ?_⟩
  induction s with
  | nil => rfl
  | cons c s ih =>
    rw [joinWords]
    split
    · exact ih
    · obtain ⟨first, rest, given, own, _⟩ := upper_eq c
      simp [given, capitalizeChars, mapFirst, own]

theorem guardDigit_cases (s : List Char) :
    ((∀ c, s[0]? = some c → c.isDigit = false) ∧ guardDigit s = s) ∨
    ((∃ digit, s[0]? = some digit ∧ digit.isDigit = true) ∧ guardDigit s = '_' :: s) := by
  cases s with
  | nil => exact .inl ⟨by simp, rfl⟩
  | cons c rest =>
    rw [guardDigit]
    split
    · rename_i digit
      exact .inr ⟨⟨c, rfl, digit⟩, rfl⟩
    · rename_i other
      exact .inl ⟨by simpa using other, rfl⟩

namespace Settled

variable {s : List Char} (settled : Settled s)

include settled

/- The guard is a separator in front of the only word. -/
theorem pascalChars_guardDigit : pascalChars (guardDigit s) = guardDigit s := by
  have bare : pascalChars s = guardDigit s := by
    rw [pascalChars, splitWhere_eq_singleton settled.whole, List.flatMap_singleton, settled.capital]
  rcases guardDigit_cases s with ⟨_, same⟩ | ⟨_, guarded⟩
  · rwa [same] at bare ⊢
  · have guard : ∀ c ∈ ['_'], isSeparator c = true := by simp [isSeparator]
    have words : wordsOf ('_' :: s) = wordsOf s := wordsOf_separators_append guard s
    calc pascalChars (guardDigit s) = guardDigit ((wordsOf ('_' :: s)).flatMap capitalizeChars) := by
          rw [guarded, pascalChars_eq_words]
      _ = pascalChars s := by rw [words, pascalChars_eq_words]
      _ = guardDigit s := bare

theorem not_mem {c : Char} (separates : isSeparator c = true) : c ∉ s := by
  intro inside
  rw [settled.whole c inside] at separates
  contradiction

theorem pascalForm : PascalForm (String.ofList (guardDigit s)) := by
  have dash : '-' ∉ s := settled.not_mem rfl
  have guard : '_' ∉ s := settled.not_mem rfl
  rcases guardDigit_cases s with ⟨first, same⟩ | ⟨first, guarded⟩
  · rw [same]
    refine ⟨by simpa using dash, fun i found => ?_, by simpa using first⟩
    rw [String.toList_ofList] at found
    exact absurd (List.mem_of_getElem? found) guard
  · rw [guarded]
    refine ⟨by simpa using dash, fun i found => ?_, by simp⟩
    rw [String.toList_ofList] at found ⊢
    cases i with
    | zero => exact ⟨rfl, first⟩
    | succ i =>
      rw [List.getElem?_cons_succ] at found
      exact absurd (List.mem_of_getElem? found) guard

end Settled

theorem isSeparator_of_separators {s : String} (all : Separators s) :
    ∀ c ∈ s.toList, isSeparator c = true := by
  intro c inside
  simpa [isSeparator] using all c inside

/-- Pascal case is a normal form, and the words of a name are all that it depends on. -/
theorem pascalCase_normal_form :
    (∀ name, PascalForm (pascalCase name)) ∧
    (∀ name, pascalCase (pascalCase name) = pascalCase name) ∧
    (∀ name other, wordsOf name.toList = wordsOf other.toList → pascalCase name = pascalCase other) ∧
    (∀ a b separators separators', Separators separators → Separators separators' →
      separators ≠ "" → separators' ≠ "" →
      pascalCase (a ++ separators ++ b) = pascalCase (a ++ separators' ++ b)) ∧
    (∀ name before after, Separators before → Separators after →
      pascalCase (before ++ name ++ after) = pascalCase name) := by
  refine ⟨fun name => ?_, fun name => ?_, fun name other => pascalCase_of_words, ?_, ?_⟩
  · rw [pascalCase, pascalChars_eq]
    exact (joinWords_settled name.toList).pascalForm
  · rw [pascalCase, pascalCase, String.toList_ofList, pascalChars_eq name.toList,
      (joinWords_settled name.toList).pascalChars_guardDigit]
  · intro a b separators separators' all all' some some'
    apply pascalCase_of_words
    simp only [String.toList_append, List.append_assoc]
    rw [wordsOf_append_separators (isSeparator_of_separators all) (by simpa using some),
      wordsOf_append_separators (isSeparator_of_separators all') (by simpa using some')]
  · intro name before after all all'
    apply pascalCase_of_words
    simp only [String.toList_append]
    rw [wordsOf_append_right (isSeparator_of_separators all'),
      wordsOf_separators_append (isSeparator_of_separators all)]

/- A digit that needs its guard, and a letter whose capital is two. -/
theorem pascalCase_normal_form_guarded :
    pascalCase "3d_ßig" = "_3dSSig" ∧ pascalCase "_3dSSig" = "_3dSSig" ∧
    wordsOf "3d_ßig".toList = wordsOf "-3d--ßig".toList ∧ pascalCase "-3d--ßig" = "_3dSSig" ∧
    Separators "-_" ∧ Separators "_" ∧
    pascalCase ("3d" ++ "-_" ++ "ßig") = pascalCase ("3d" ++ "_" ++ "ßig") ∧
    pascalCase ("-_" ++ "3d_ßig" ++ "_") = "_3dSSig" := by
  have written : pascalCase "3d_ßig" = "_3dSSig" := by decide +kernel
  have same : wordsOf "3d_ßig".toList = wordsOf "-3d--ßig".toList := by decide +kernel
  have two : Separators "-_" := by simp [Separators]
  have one : Separators "_" := by simp [Separators]
  obtain ⟨_, again, depends, exchanged, around⟩ := pascalCase_normal_form
  refine ⟨written, ?_, same, ?_, two, one, ?_, ?_⟩
  · exact written ▸ again "3d_ßig"
  · exact (depends _ _ same).symm.trans written
  · exact exchanged _ _ _ _ two one (by decide) (by decide)
  · exact (around _ _ _ two one).trans written

end RpcSharp.Code
