import RpcSharp.Json.Token
import RpcSharp.Proofs.Json.Number

/-! Tokens up to a closing bracket are the same whatever is behind the bracket: strings and numbers end in
front of it, or it is part of a string that ends later. -/

namespace RpcSharp.Json

open RpcSharp.Text

/-! Strings -/

theorem fourBytes_of_length {s : List Glyph} (long : 4 ≤ s.length) : fourBytes s = true := by
  have positive (g : Glyph) : 1 ≤ glyphSize g := by
    cases g with
    | none => exact Nat.le_refl 1
    | some c => exact c.utf8Size_pos
  match s, long with
  | a :: b :: c :: d :: rest, _ =>
    have first := positive a
    have second := positive b
    have third := positive c
    have fourth := positive d
    have enough : 4 ≤ 0 + glyphSize a + glyphSize b + glyphSize c + glyphSize d := by omega
    exact decide_eq_true enough

theorem hex_length {missing bits : Nat} {s : List Glyph}
    (closed : (scanString (.hex missing bits) s).ending = .closed) :
    missing ≤ (scanString (.hex missing bits) s).length := by
  induction missing generalizing bits s with
  | zero => exact Nat.zero_le _
  | succ missing ih =>
    cases s with
    | nil => contradiction
    | cons g s =>
      rw [scanString] at closed ⊢
      cases digit : g.bind hexDigit? with
      | none =>
        rw [digit] at closed
        contradiction
      | some d =>
        rw [digit] at closed
        cases missing with
        | zero => exact Nat.le_add_left 1 _
        | succ missing => exact Nat.succ_le_succ (ih closed)

/- What a glyph does to a scan: it ends the string, or is passed over. Only a long escape looks further. -/
theorem scanString_cons (state : StringState) (g : Glyph) (rest : List Glyph) :
    ((scanString state (g :: rest)).ending = .closed →
      ∀ rest', scanString state (g :: rest') = ⟨[], .closed, 1⟩) ∨
    ∃ next piece, scanString state (g :: rest) = (scanString next rest).push piece ∧
      ∀ rest', (next = .hex 4 0 → fourBytes rest' = true) →
        scanString state (g :: rest') = (scanString next rest').push piece := by
  cases state with
  | between =>
    match g with
    | none => exact .inr ⟨.between, some (.plain none), rfl, fun _ _ => rfl⟩
    | some c =>
      by_cases quote : c = '"'
      · subst quote
        exact .inl fun _ _ => rfl
      · by_cases backslash : c = '\\'
        · subst backslash
          exact .inr ⟨.escape, none, rfl, fun _ _ => rfl⟩
        · by_cases control : c.toNat < 0x20
          · simp [scanString, control]
          · refine .inr ⟨.between, some (.plain (some c)), ?_⟩
            simp [scanString, control]
  | escape =>
    match g with
    | none => exact .inl fun closed => by contradiction
    | some c =>
      by_cases long : c = 'u'
      · subst long
        cases enough : fourBytes rest with
        | false => simp [scanString, enough]
        | true =>
          exact .inr ⟨.hex 4 0, none, if_pos enough, fun rest' follow => if_pos (follow rfl)⟩
      · cases short : shortEscape? c with
        | none => simp [scanString, short]
        | some e =>
          refine .inr ⟨.between, some (.short e), ?_⟩
          simp [scanString, short]
  | hex missing bits =>
    cases digit : g.bind hexDigit? with
    | none => simp [scanString, digit]
    | some d =>
      match missing with
      | 0 | 1 =>
        refine .inr ⟨.between, some (.long (bits * 16 + d)), ?_⟩
        simp [scanString, digit]
      | missing + 2 =>
        refine .inr ⟨.hex (missing + 1) (bits * 16 + d), none, ?_⟩
        simp [scanString, digit]

theorem scanString_length_pos {state : StringState} {s : List Glyph}
    (closed : (scanString state s).ending = .closed) : 0 < (scanString state s).length := by
  cases s with
  | nil =>
    rw [scanString] at closed
    contradiction
  | cons g rest =>
    rcases scanString_cons state g rest with ends | ⟨next, piece, here, _⟩
    · rw [ends closed]
      exact Nat.one_pos
    · rw [here]
      exact Nat.succ_pos _

theorem scanString_stop {state : StringState} {front rest : List Glyph}
    (closed : (scanString state (front ++ rest)).ending = .closed)
    (short : (scanString state (front ++ rest)).length ≤ front.length) (rest' : List Glyph) :
    scanString state (front ++ rest') = scanString state (front ++ rest) := by
  induction front generalizing state with
  | nil =>
    have positive := scanString_length_pos closed
    exact absurd short (Nat.not_le_of_lt positive)
  | cons g front ih =>
    rw [List.cons_append] at closed short
    rw [List.cons_append, List.cons_append]
    rcases scanString_cons state g (front ++ rest) with ends | ⟨next, piece, here, again⟩
    · rw [ends closed, ends closed]
    · rw [here] at closed short
      have inner := ih closed (Nat.le_of_succ_le_succ short)
      rw [here, again, inner]
      intro hex
      subst hex
      apply fourBytes_of_length
      have digits := hex_length closed
      simp only [ScannedString.push, List.length_cons, List.length_append] at short ⊢
      omega

theorem ScannedString.ending_of_token {r : ScannedString} (sound : r.token.isBad = false) :
    r.ending = .closed := by
  unfold ScannedString.token at sound
  split at sound
  · rename_i whole
    cases ending : r.ending with
    | closed => rfl
    | _ =>
      rw [ending] at whole
      contradiction
  · contradiction
  · contradiction

/-! Scans that do not reach over `stop` -/

section Stop

variable {front rest rest' : List Glyph} {stop : Glyph}

theorem scanWord_stop (found : Token) {cs : List Char} (short : cs.length ≤ front.length) :
    scanWord found cs (front ++ rest') = scanWord found cs (front ++ rest) := by
  induction cs generalizing front with
  | nil => simp [scanWord]
  | cons c cs ih =>
    cases front with
    | nil => simp at short
    | cons g front =>
      rw [List.cons_append, List.cons_append, scanWord, scanWord, ih (Nat.le_of_succ_le_succ short)]

theorem numberToken_stop {isNegative : Bool} {token : Token} {size : Nat}
    (scanned : numberToken isNegative (front ++ stop :: rest) = (token, size))
    (sound : token.isBad = false) (short : size ≤ front.length) :
    numberToken isNegative (front ++ stop :: rest') = (token, size) := by
  unfold numberToken at scanned ⊢
  split at scanned
  · rename_i n length found
    cases scanned
    rw [scanNumber_stop found short]
  · cases scanned
    contradiction

theorem tokenAt_stop {g : Glyph} {token : Token} {size : Nat}
    (scanned : tokenAt g (front ++ stop :: rest) = (token, size))
    (sound : token.isBad = false) (short : size ≤ front.length) :
    tokenAt g (front ++ stop :: rest') = (token, size) := by
  unfold tokenAt at scanned
  split at scanned
  case h_7 | h_8 | h_9 =>
    cases scanned
    exact congrArg (·, _) (scanWord_stop _ short)
  case h_10 =>
    cases scanned
    have closed := ScannedString.ending_of_token sound
    simp only [tokenAt, scanString_stop closed short (stop :: rest')]
  case h_11 => exact numberToken_stop scanned sound short
  case h_12 c _ _ _ _ _ _ _ _ _ _ _ =>
    split at scanned
    · rename_i digit
      cases scanned
      have within : (numberToken false (some c :: front ++ stop :: rest)).2 ≤ (some c :: front).length := by
        rw [List.length_cons]
        exact Nat.le_add_of_sub_le short
      have again : numberToken false (some c :: front ++ stop :: rest') =
          numberToken false (some c :: front ++ stop :: rest) := numberToken_stop rfl sound within
      rw [List.cons_append, List.cons_append] at again
      simp only [tokenAt, digit, if_true, again]
      rfl
    · cases scanned
      contradiction
  case h_13 =>
    cases scanned
    contradiction
  all_goals
    cases scanned
    rfl

end Stop

/-! Tokens up to a closing bracket -/

def Token.isClosing : Token → Bool
  | .closeObject | .closeList => true
  | _ => false

theorem scanWord_isClosing {found : Token} (inner : found.isClosing = false) (cs : List Char)
    (s : List Glyph) : (scanWord found cs s).isClosing = false := by
  fun_induction scanWord found cs s with
  | case1 => exact inner
  | case2 => rfl
  | case3 _ _ _ ih => exact ih
  | case4 => rfl

theorem numberToken_isClosing (isNegative : Bool) (s : List Glyph) :
    (numberToken isNegative s).1.isClosing = false := by
  unfold numberToken
  split <;> rfl

theorem ScannedString.token_isClosing (r : ScannedString) : r.token.isClosing = false := by
  unfold ScannedString.token
  split <;> rfl

/- A closing bracket is a glyph of its own. -/
theorem tokenAt_closing {g : Glyph} {rest : List Glyph} {token : Token} {size : Nat}
    (scanned : tokenAt g rest = (token, size)) (closing : token.isClosing = true) :
    (g = some '\x7d' ∧ token = .closeObject) ∨ (g = some ']' ∧ token = .closeList) := by
  unfold tokenAt at scanned
  split at scanned
  case h_2 =>
    cases scanned
    exact .inl ⟨rfl, rfl⟩
  case h_4 =>
    cases scanned
    exact .inr ⟨rfl, rfl⟩
  case h_7 | h_8 | h_9 =>
    cases scanned
    rw [scanWord_isClosing rfl] at closing
    contradiction
  case h_10 =>
    cases scanned
    rw [ScannedString.token_isClosing] at closing
    contradiction
  case h_11 =>
    have same : (numberToken true rest).1 = token := congrArg Prod.fst scanned
    rw [← same, numberToken_isClosing] at closing
    contradiction
  case h_12 c _ _ _ _ _ _ _ _ _ _ _ =>
    split at scanned
    · have same : (numberToken false (some c :: rest)).1 = token := congrArg Prod.fst scanned
      rw [← same, numberToken_isClosing] at closing
      contradiction
    · cases scanned
      contradiction
  all_goals
    cases scanned
    contradiction

theorem Token.isBad_of_isClosing {t : Token} (closing : t.isClosing = true) : t.isBad = false := by
  cases t with
  | closeObject | closeList => rfl
  | _ => contradiction

theorem tokensFrom_closing {skip : Nat} {s : List Glyph} {read later : List Token} {close : Token}
    (scanned : tokensFrom skip s = read ++ close :: later) (closing : close.isClosing = true) :
    ∃ front c rest, s = front ++ some c :: rest ∧ skip ≤ front.length ∧
      ∀ rest', tokensFrom skip (front ++ some c :: rest') = read ++ close :: tokens rest' := by
  induction s generalizing skip read with
  | nil => simp [tokensFrom] at scanned
  | cons g s ih =>
    cases skip with
    | succ skip =>
      obtain ⟨front, c, rest, rfl, within, again⟩ := ih scanned
      exact ⟨g :: front, c, rest, rfl, Nat.succ_le_succ within, again⟩
    | zero =>
      cases space : isSpace g with
      | true =>
        simp only [tokensFrom, space, if_true] at scanned
        obtain ⟨front, c, rest, rfl, _, again⟩ := ih scanned
        refine ⟨g :: front, c, rest, rfl, Nat.zero_le _, fun rest' => ?_⟩
        simpa [tokensFrom, space] using again rest'
      | false =>
        obtain ⟨token, size, found⟩ : ∃ token size, tokenAt g s = (token, size) := ⟨_, _, rfl⟩
        simp only [tokensFrom, space, found] at scanned
        cases bad : token.isBad with
        | true =>
          have single : [token] = read ++ close :: later := by simpa [bad] using scanned
          have last : close ∈ [token] := by simp [single]
          rw [← List.mem_singleton.mp last, Token.isBad_of_isClosing closing] at bad
          contradiction
        | false =>
          have split : token :: tokensFrom size s = read ++ close :: later := by
            simpa [bad] using scanned
          cases read with
          | nil =>
            cases (List.cons.inj split).1
            rcases tokenAt_closing found closing with ⟨rfl, rfl⟩ | ⟨rfl, rfl⟩
            · exact ⟨[], _, s, rfl, Nat.zero_le _, fun _ => rfl⟩
            · exact ⟨[], _, s, rfl, Nat.zero_le _, fun _ => rfl⟩
          | cons first read =>
            obtain ⟨rfl, others⟩ := List.cons.inj split
            obtain ⟨front, c, rest, rfl, within, again⟩ := ih others
            refine ⟨g :: front, c, rest, rfl, Nat.zero_le _, fun rest' => ?_⟩
            have same : tokenAt g (front ++ some c :: rest') = (token, size) :=
              tokenAt_stop found bad within
            simp [tokensFrom, space, same, bad, again rest']

end RpcSharp.Json
