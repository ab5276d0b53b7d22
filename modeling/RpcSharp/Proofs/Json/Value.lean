import Mathlib.Data.List.Forall2
import RpcSharp.Json.Value
import RpcSharp.Proofs.Json.Token

/-! What is printed is read as the value that it stands for, whatever it stands in and whatever
follows it. -/

namespace RpcSharp.Json

open RpcSharp.Text

/-! Steps of the reader, one for each way in which a printed text goes on -/

section Steps

variable {frames : List Frame} {items : List Value} {before : List (Key × Value)} {key next : Key}
  {v : Value} {ts more : List Token} {first : Token}

theorem resume_nil : resume [] v ts = v := by
  cases ts with
  | nil => rfl
  | cons => rfl

theorem valueIn_emptyList :
    valueIn frames (.openList :: .closeList :: ts) = resume frames (.list [] .closed) ts := rfl

theorem valueIn_openList (other : first ≠ .closeList) :
    valueIn frames (.openList :: first :: more) = valueIn (.list [] :: frames) (first :: more) := by
  cases first with
  | closeList => contradiction
  | _ => rfl

theorem resume_closeList :
    resume (.list items :: frames) v (.closeList :: ts) =
      resume frames (.list (v :: items).reverse .closed) ts := rfl

theorem resume_comma_list (other : first ≠ .closeList) :
    resume (.list items :: frames) v (.comma :: first :: more) =
      valueIn (.list (v :: items) :: frames) (first :: more) := by
  cases first with
  | closeList => contradiction
  | _ => rfl

theorem valueIn_emptyObject :
    valueIn frames (.openObject :: .closeObject :: ts) = resume frames (.object [] .closed) ts := rfl

theorem valueIn_openObject :
    valueIn frames (.openObject :: .string key :: .colon :: ts) =
      valueIn (.object [] key :: frames) ts := rfl

theorem resume_closeObject :
    resume (.object before key :: frames) v (.closeObject :: ts) =
      resume frames (.object ((key, v) :: before).reverse .closed) ts := rfl

theorem resume_comma_object :
    resume (.object before key :: frames) v (.comma :: .string next :: .colon :: ts) =
      valueIn (.object ((key, v) :: before) next :: frames) ts := rfl

end Steps

/-! Texts that stand for values -/

/-- A text stands for a value, in all frames and before all other texts. -/
structure Denotes (s : List Char) (v : Value) : Prop where
  opens : ∀ rest, ∃ first more, tokens (s.map some ++ rest) = first :: more ∧ first ≠ .closeList
  value : ∀ frames rest,
    valueIn frames (tokens (s.map some ++ rest)) = resume frames v (tokens rest)

theorem Denotes.ofText_eq {s : List Char} {v : Value} (denotes : Denotes s v) :
    Value.ofText (s.map some) = v := by
  have read := denotes.value [] []
  rw [List.append_nil] at read
  rw [Value.ofText, read, resume_nil]

theorem Denotes.of_token {s : List Char} {t : Token} {v : Value}
    (single : ∀ rest, tokens (s.map some ++ rest) = t :: tokens rest) (other : t ≠ .closeList)
    (read : ∀ frames ts, valueIn frames (t :: ts) = resume frames v ts) : Denotes s v := by
  constructor
  · intro rest
    exact ⟨t, tokens rest, single rest, other⟩
  · intro frames rest
    rw [single, read]

theorem denotes_printText (s : String) : Denotes (printText s) (.string (.ok s)) :=
  .of_token (tokens_printText s) (by simp) fun _ _ => rfl

theorem denotes_printFlag (b : Bool) : Denotes (printFlag b) (.bool b) :=
  .of_token (tokens_printFlag · b) (by simp) fun _ _ => rfl

theorem denotes_printNull : Denotes printNull .null :=
  .of_token tokens_printNull (by simp) fun _ _ => rfl

theorem joinComma_cons (s : List Char) (others : List (List Char)) :
    joinComma (s :: others) = s ++ others.flatMap (',' :: ·) := by
  induction others generalizing s with
  | nil => simp [joinComma]
  | cons t others ih => simp [joinComma, ih]

/-! Lists -/

section Lists

variable {frames : List Frame} {items : List Value} {v : Value}

/- What a list has so far, then the item just read, then those that are still to come. -/
theorem resume_items {texts : List (List Char)} {values : List Value}
    (denote : List.Forall₂ Denotes texts values) (rest : List Glyph) :
    resume (.list items :: frames) v
        (tokens ((texts.flatMap (',' :: ·)).map some ++ some ']' :: rest)) =
      resume frames (.list ((v :: items).reverse ++ values) .closed) (tokens rest) := by
  induction denote generalizing items v with
  | nil => simp [resume_closeList]
  | @cons s next texts values denotes _ ih =>
    have text : (((s :: texts).flatMap (',' :: ·)).map some ++ some ']' :: rest) =
        some ',' :: (s.map some ++ ((texts.flatMap (',' :: ·)).map some ++ some ']' :: rest)) := by
      simp
    rw [text, tokens_comma]
    obtain ⟨first, more, opened, other⟩ := denotes.opens
      ((texts.flatMap (',' :: ·)).map some ++ some ']' :: rest)
    rw [opened, resume_comma_list other, ← opened, denotes.value, ih]
    simp

theorem Denotes.list {texts : List (List Char)} {values : List Value}
    (denote : List.Forall₂ Denotes texts values) :
    Denotes ('[' :: joinComma texts ++ [']']) (.list values .closed) := by
  constructor
  · intro rest
    exact ⟨.openList, _, rfl, by simp⟩
  · intro frames rest
    cases denote with
    | nil => simp [joinComma, valueIn_emptyList]
    | @cons s v texts values denotes others =>
      have text : ('[' :: joinComma (s :: texts) ++ [']']).map some ++ rest =
          some '[' :: (s.map some ++ ((texts.flatMap (',' :: ·)).map some ++ some ']' :: rest)) := by
        simp [joinComma_cons]
      rw [text, tokens_openList]
      obtain ⟨first, more, opened, other⟩ := denotes.opens
        ((texts.flatMap (',' :: ·)).map some ++ some ']' :: rest)
      rw [opened, valueIn_openList other, ← opened, denotes.value, resume_items others]
      rfl

end Lists

/-! Objects -/

/-- The text of an entry stands for its value, under its key. -/
def DenotesEntry (entry : String × List Char) (value : Key × Value) : Prop :=
  value.1 = .ok entry.1 ∧ Denotes entry.2 value.2

def printEntry (entry : String × List Char) : List Char := printText entry.1 ++ ':' :: entry.2

theorem tokens_printEntry (entry : String × List Char) (rest : List Glyph) :
    tokens ((printEntry entry).map some ++ rest) =
      .string (.ok entry.1) :: .colon :: tokens (entry.2.map some ++ rest) := by
  simp only [printEntry, List.map_append, List.map_cons, List.append_assoc, List.cons_append,
    tokens_printText, tokens_colon]

theorem resume_entries {entries : List (String × List Char)} {values : List (Key × Value)}
    (denote : List.Forall₂ DenotesEntry entries values) {frames : List Frame}
    {before : List (Key × Value)} {key : Key} {v : Value} (rest : List Glyph) :
    resume (.object before key :: frames) v
        (tokens ((entries.flatMap (',' :: printEntry ·)).map some ++ some '\x7d' :: rest)) =
      resume frames (.object (((key, v) :: before).reverse ++ values) .closed) (tokens rest) := by
  induction denote generalizing before key v with
  | nil => simp [resume_closeObject]
  | @cons entry value entries values denotes _ ih =>
    obtain ⟨key', next⟩ := value
    obtain ⟨rfl, denotes⟩ := denotes
    have text : (((entry :: entries).flatMap (',' :: printEntry ·)).map some ++ some '\x7d' :: rest) =
        some ',' :: ((printEntry entry).map some ++
          ((entries.flatMap (',' :: printEntry ·)).map some ++ some '\x7d' :: rest)) := by
      simp
    rw [text, tokens_comma, tokens_printEntry, resume_comma_object, denotes.value, ih]
    simp

theorem Denotes.object {entries : List (String × List Char)} {values : List (Key × Value)}
    (denote : List.Forall₂ DenotesEntry entries values) :
    Denotes (printObject entries) (.object values .closed) := by
  constructor
  · intro rest
    exact ⟨.openObject, _, rfl, by simp⟩
  · intro frames rest
    cases denote with
    | nil => simp [printObject, joinComma, valueIn_emptyObject]
    | @cons entry value entries values denotes others =>
      obtain ⟨key, v⟩ := value
      obtain ⟨rfl, denotes⟩ := denotes
      have text : (printObject (entry :: entries)).map some ++ rest =
          some '\x7b' :: ((printEntry entry).map some ++
            ((entries.flatMap (',' :: printEntry ·)).map some ++ some '\x7d' :: rest)) := by
        simp [printObject, joinComma_cons, printEntry, List.flatMap_map]
      rw [text, tokens_openObject, tokens_printEntry, valueIn_openObject, denotes.value, resume_entries others]
      rfl

/-! Values that are skipped -/

/-- Lists and objects that are complete, at every depth. -/
inductive Value.WellFormed : Value → Prop
  | null : WellFormed .null
  | bool (b : Bool) : WellFormed (.bool b)
  | number (n : Except Fault Number) : WellFormed (.number n)
  | string (s : Except Fault String) : WellFormed (.string s)
  | list {items : List Value} : (∀ v ∈ items, WellFormed v) → WellFormed (.list items .closed)
  | object {entries : List (Key × Value)} :
      (∀ e ∈ entries, WellFormed e.2) → WellFormed (.object entries .closed)

theorem itemsFault_eq_none_iff {items : List Value} :
    itemsFault items = none ↔ ∀ v ∈ items, v.skipFault = none := by
  induction items with
  | nil => simp [itemsFault]
  | cons v vs ih => rw [itemsFault, Option.or_eq_none_iff, ih, List.forall_mem_cons]

theorem entriesFault_eq_none_iff {entries : List (Key × Value)} :
    entriesFault entries = none ↔ ∀ e ∈ entries, e.2.skipFault = none := by
  induction entries with
  | nil => simp [entriesFault]
  | cons e es ih => rw [entriesFault, Option.or_eq_none_iff, ih, List.forall_mem_cons]

theorem Value.WellFormed.skipFault_eq {v : Value} (sound : v.WellFormed) : v.skipFault = none := by
  induction sound with
  | null | bool | number | string => rfl
  | list _ ih =>
    rw [Value.skipFault, itemsFault_eq_none_iff.mpr ih]
    rfl
  | object _ ih =>
    rw [Value.skipFault, entriesFault_eq_none_iff.mpr ih]
    rfl

end RpcSharp.Json
