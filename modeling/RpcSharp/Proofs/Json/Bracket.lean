import RpcSharp.Proofs.Json.Scan
import RpcSharp.Proofs.Json.Value

/-! A value that is closed by a bracket does not depend on what is behind the bracket. -/

namespace RpcSharp.Json

open RpcSharp.Text

/-- A list or an object with its bracket. -/
def Value.isClosed : Value → Bool
  | .list _ .closed | .object _ .closed => true
  | _ => false

theorem enclose_isClosed {v : Value} (opened : v.isClosed = false) (frames : List Frame) :
    (enclose frames v).isClosed = false := by
  induction frames generalizing v with
  | nil => exact opened
  | cons frame frames ih =>
    apply ih
    cases frame with
    | list items => rfl
    | object entries key => rfl

theorem not_closed {frames : List Frame} {v : Value} (closed : (enclose frames v).isClosed = true)
    (opened : v.isClosed = false) : False := by
  rw [enclose_isClosed opened] at closed
  contradiction

section Reading

variable {frame : Frame} {frames : List Frame} {v : Value} {ts : List Token}

/-- What a reader goes on as, behind some tokens; it may look at one token more. -/
def Continues (read next : List Token → Value) (ts rest : List Token) : Prop :=
  ∃ eaten, ts = eaten ++ rest ∧ eaten ≠ [] ∧
    ∀ ts', ts'.head? = rest.head? → read (eaten ++ ts') = next ts'

/-- What a reader goes on as, behind some tokens of which the last is a closing bracket. -/
def Closes (read next : List Token → Value) (ts rest : List Token) : Prop :=
  ∃ eaten close, ts = eaten ++ close :: rest ∧ close.isClosing = true ∧
    ∀ ts', read (eaten ++ close :: ts') = next ts'

/- A reader that comes to an end finds a scalar, an empty list or object, or the first part of one. -/
theorem valueIn_step (closed : (valueIn frames ts).isClosed = true) :
    ∃ rest,
      (∃ v, v.isClosed = false ∧ Continues (valueIn frames) (resume frames v) ts rest) ∨
      (∃ v, Closes (valueIn frames) (resume frames v) ts rest) ∨
      ∃ frame, Continues (valueIn frames) (valueIn (frame :: frames)) ts rest := by
  cases ts with
  | nil => exact (not_closed closed rfl).elim
  | cons t ts =>
    cases t with
    | null => exact ⟨ts, .inl ⟨.null, rfl, [.null], rfl, by simp, fun _ _ => rfl⟩⟩
    | bool b => exact ⟨ts, .inl ⟨.bool b, rfl, [.bool b], rfl, by simp, fun _ _ => rfl⟩⟩
    | number n => exact ⟨ts, .inl ⟨.number n, rfl, [.number n], rfl, by simp, fun _ _ => rfl⟩⟩
    | string s => exact ⟨ts, .inl ⟨.string s, rfl, [.string s], rfl, by simp, fun _ _ => rfl⟩⟩
    | openList =>
      cases ts with
      | nil => exact (not_closed closed rfl).elim
      | cons first ts =>
        by_cases empty : first = .closeList
        · subst empty
          exact ⟨ts, .inr (.inl ⟨_, [.openList], .closeList, rfl, rfl, fun _ => valueIn_emptyList⟩)⟩
        · refine ⟨first :: ts, .inr (.inr ⟨.list [], [.openList], rfl, by simp, ?_⟩)⟩
          intro ts' head
          obtain ⟨more, rfl⟩ := List.head?_eq_some_iff.mp head
          exact valueIn_openList empty
    | openObject =>
      cases ts with
      | nil => exact (not_closed closed rfl).elim
      | cons first ts =>
        cases first with
        | closeObject =>
          exact ⟨ts, .inr (.inl ⟨_, [.openObject], .closeObject, rfl, rfl,
            fun _ => valueIn_emptyObject⟩)⟩
        | string key =>
          cases ts with
          | nil => exact (not_closed closed rfl).elim
          | cons second ts =>
            cases second with
            | colon =>
              exact ⟨ts, .inr (.inr ⟨.object [] key, [.openObject, .string key, .colon], rfl, by simp,
                fun _ _ => valueIn_openObject⟩)⟩
            | _ => exact (not_closed closed rfl).elim
        | _ => exact (not_closed closed rfl).elim
    | _ => exact (not_closed closed rfl).elim

/- The same after a value that stands in a list or an object. -/
theorem resume_step (closed : (resume (frame :: frames) v ts).isClosed = true) :
    ∃ rest,
      (∃ whole, Closes (resume (frame :: frames) v) (resume frames whole) ts rest) ∨
      ∃ frame', Continues (resume (frame :: frames) v) (valueIn (frame' :: frames)) ts rest := by
  cases ts with
  | nil => cases frame <;> exact (not_closed closed rfl).elim
  | cons t ts =>
    cases frame with
    | list items =>
      cases t with
      | closeList => exact ⟨ts, .inl ⟨_, [], .closeList, rfl, rfl, fun _ => resume_closeList⟩⟩
      | comma =>
        cases ts with
        | nil => exact (not_closed closed rfl).elim
        | cons first ts =>
          by_cases stray : first = .closeList
          · subst stray
            exact (not_closed closed rfl).elim
          · refine ⟨first :: ts, .inr ⟨.list (v :: items), [.comma], rfl, by simp, ?_⟩⟩
            intro ts' head
            obtain ⟨more, rfl⟩ := List.head?_eq_some_iff.mp head
            exact resume_comma_list stray
      | _ => exact (not_closed closed rfl).elim
    | object entries key =>
      cases t with
      | closeObject => exact ⟨ts, .inl ⟨_, [], .closeObject, rfl, rfl, fun _ => resume_closeObject⟩⟩
      | comma =>
        cases ts with
        | nil => exact (not_closed closed rfl).elim
        | cons first ts =>
          cases first with
          | string next =>
            cases ts with
            | nil => exact (not_closed closed rfl).elim
            | cons second ts =>
              cases second with
              | colon =>
                exact ⟨ts, .inr ⟨.object ((key, v) :: entries) next, [.comma, .string next, .colon],
                  rfl, by simp, fun _ _ => resume_comma_object⟩⟩
              | _ => exact (not_closed closed rfl).elim
          | _ => exact (not_closed closed rfl).elim
      | _ => exact (not_closed closed rfl).elim

section Continues

variable {read next : List Token → Value} {rest : List Token}

theorem Continues.eq (continues : Continues read next ts rest) : read ts = next rest := by
  obtain ⟨eaten, rfl, _, step⟩ := continues
  exact step rest rfl

theorem Continues.shorter (continues : Continues read next ts rest) : rest.length < ts.length := by
  obtain ⟨eaten, rfl, some, _⟩ := continues
  have positive := List.length_pos_iff.mpr some
  rw [List.length_append]
  omega

theorem Closes.continues (closes : Closes read next ts rest) : Continues read next ts rest := by
  obtain ⟨eaten, close, rfl, _, step⟩ := closes
  refine ⟨eaten ++ [close], by simp, by simp, fun ts' _ => ?_⟩
  rw [← step, List.append_assoc]
  rfl

end Continues

/-- A reader of tokens has what it needs at a closing bracket, and what follows does not matter. -/
def Settled (read : List Token → Value) (ts : List Token) : Prop :=
  ∃ front close rest, ts = front ++ close :: rest ∧ close.isClosing = true ∧
    ∀ rest', read (front ++ close :: rest') = read ts

theorem Continues.settled {read next : List Token → Value} {ts rest : List Token}
    (continues : Continues read next ts rest) (settled : Settled next rest) : Settled read ts := by
  obtain ⟨eaten, rfl, _, step⟩ := continues
  obtain ⟨front, close, behind, rfl, closing, again⟩ := settled
  have head (s : List Token) : (front ++ close :: s).head? = (front ++ close :: behind).head? := by
    cases front <;> rfl
  refine ⟨eaten ++ front, close, behind, by simp, closing, fun rest' => ?_⟩
  rw [List.append_assoc, step _ (head rest'), step _ rfl, again]

theorem Closes.settled {read : List Token → Value} {rest : List Token}
    (closes : Closes read (resume frames v) ts rest)
    (later : frames ≠ [] → Settled (resume frames v) rest) : Settled read ts := by
  cases frames with
  | nil =>
    obtain ⟨eaten, close, rfl, closing, step⟩ := closes
    refine ⟨eaten, close, rest, rfl, closing, fun rest' => ?_⟩
    rw [step, step, resume_nil, resume_nil]
  | cons frame frames =>
    exact closes.continues.settled (later (List.cons_ne_nil _ _))

end Reading

mutual

theorem valueIn_settled {frames : List Frame} {ts : List Token}
    (closed : (valueIn frames ts).isClosed = true) : Settled (valueIn frames) ts := by
  obtain ⟨rest, ⟨v, opened, continues⟩ | ⟨v, closes⟩ | ⟨frame, continues⟩⟩ := valueIn_step closed
  · have shorter := continues.shorter
    rw [continues.eq] at closed
    have inside : frames ≠ [] := by
      rintro rfl
      rw [resume_nil, opened] at closed
      contradiction
    exact continues.settled (resume_settled inside closed)
  · have shorter := closes.continues.shorter
    rw [closes.continues.eq] at closed
    exact closes.settled fun inside => resume_settled inside closed
  · have shorter := continues.shorter
    rw [continues.eq] at closed
    exact continues.settled (valueIn_settled closed)
termination_by ts.length

theorem resume_settled {frames : List Frame} {v : Value} {ts : List Token} (inside : frames ≠ [])
    (closed : (resume frames v ts).isClosed = true) : Settled (resume frames v) ts := by
  obtain ⟨frame, around, rfl⟩ := List.exists_cons_of_ne_nil inside
  obtain ⟨rest, ⟨whole, closes⟩ | ⟨inner, continues⟩⟩ := resume_step closed
  · have shorter := closes.continues.shorter
    rw [closes.continues.eq] at closed
    exact closes.settled fun inside => resume_settled inside closed
  · have shorter := continues.shorter
    rw [continues.eq] at closed
    exact continues.settled (valueIn_settled closed)
termination_by ts.length

end

/-- A text whose value is closed by a bracket has that value with any other text behind the bracket. -/
theorem Value.ofText_settled {s : List Glyph} (closed : (Value.ofText s).isClosed = true) :
    ∃ front c rest, s = front ++ some c :: rest ∧
      ∀ rest', Value.ofText (front ++ some c :: rest') = Value.ofText s := by
  obtain ⟨read, close, later, scanned, closing, again⟩ := valueIn_settled closed
  obtain ⟨front, c, rest, rfl, _, same⟩ := tokensFrom_closing scanned closing
  refine ⟨front, c, rest, rfl, fun rest' => ?_⟩
  have tokens : tokens (front ++ some c :: rest') = read ++ close :: tokens rest' := same rest'
  rw [Value.ofText, tokens, again]
  rfl

end RpcSharp.Json
