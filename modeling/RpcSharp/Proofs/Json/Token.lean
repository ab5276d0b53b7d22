import RpcSharp.Json.Token
import RpcSharp.Json.Value

/-! The tokens of what is printed. A printed text ends by itself, so its tokens do not depend on
what follows, and a string has the characters that were escaped in it. -/

namespace RpcSharp.Json

open RpcSharp.Text

/-! Marks and words -/

section Marks

variable (rest : List Glyph)

@[simp] theorem tokens_openObject : tokens (some '\x7b' :: rest) = .openObject :: tokens rest := rfl

@[simp] theorem tokens_closeObject :
    tokens (some '\x7d' :: rest) = .closeObject :: tokens rest := rfl

@[simp] theorem tokens_openList : tokens (some '[' :: rest) = .openList :: tokens rest := rfl

@[simp] theorem tokens_closeList : tokens (some ']' :: rest) = .closeList :: tokens rest := rfl

@[simp] theorem tokens_comma : tokens (some ',' :: rest) = .comma :: tokens rest := rfl

@[simp] theorem tokens_colon : tokens (some ':' :: rest) = .colon :: tokens rest := rfl

theorem tokens_printNull : tokens (printNull.map some ++ rest) = .null :: tokens rest := rfl

theorem tokens_printFlag (b : Bool) :
    tokens ((printFlag b).map some ++ rest) = .bool b :: tokens rest := by
  cases b <;> rfl

end Marks

/-! Strings -/

theorem hexDigit?_lowerHex : ∀ n < 16, hexDigit? (lowerHex n) = some n := by decide

/-- The piece of a string that an escaped character is read as. -/
def escapePiece (c : Char) : Piece :=
  match c with
  | '"' | '\\' | '\x08' | '\x0c' | '\n' | '\r' | '\t' => .short c
  | _ => if c.toNat < 0x20 then .long c.toNat else .plain (some c)

/-- A scan with one more piece in front, of as many glyphs as given. -/
def ScannedString.after (r : ScannedString) (p : Piece) (size : Nat) : ScannedString :=
  ⟨p :: r.pieces, r.ending, r.length + size⟩

theorem fourBytes_hex (a b : Char) (rest : List Glyph) :
    fourBytes (some '0' :: some '0' :: some a :: some b :: rest) = true := by
  have first := a.utf8Size_pos
  have second := b.utf8Size_pos
  have enough : 4 ≤ 1 + 1 + a.utf8Size + b.utf8Size := by omega
  exact decide_eq_true enough

/- A control character is written as a long escape: two zeros and the digits of its code. -/
theorem scanString_long {n : Nat} (small : n < 0x20) (rest : List Glyph) :
    scanString .between ((['\\', 'u', '0', '0', lowerHex (n / 16), lowerHex (n % 16)]).map some ++ rest) =
      (scanString .between rest).after (.long n) 6 := by
  have high := hexDigit?_lowerHex (n / 16) (by omega)
  have low := hexDigit?_lowerHex (n % 16) (by omega)
  have zero : hexDigit? '0' = some 0 := rfl
  have code : n / 16 * 16 + n % 16 = n := by omega
  simp [scanString, fourBytes_hex, zero, high, low, code, ScannedString.push, ScannedString.after]

theorem scanString_escapeChar (c : Char) (rest : List Glyph) :
    scanString .between ((escapeChar c).map some ++ rest) =
      (scanString .between rest).after (escapePiece c) (escapeChar c).length := by
  unfold escapeChar escapePiece
  split
  case h_8 quote backslash _ _ _ _ _ =>
    by_cases control : c.toNat < 0x20
    · simpa [control] using scanString_long control rest
    · simp [control, scanString, ScannedString.push, ScannedString.after]
  all_goals rfl

theorem scanString_escaped (s : List Char) (rest : List Glyph) :
    scanString .between ((s.flatMap escapeChar).map some ++ some '"' :: rest) =
      ⟨s.map escapePiece, .closed, (s.flatMap escapeChar).length + 1⟩ := by
  induction s with
  | nil => rfl
  | cons c s ih =>
    have size : (s.flatMap escapeChar).length + 1 + (escapeChar c).length =
        ((c :: s).flatMap escapeChar).length + 1 := by
      rw [List.flatMap_cons, List.length_append]
      omega
    rw [← size, List.flatMap_cons, List.map_append, List.append_assoc, scanString_escapeChar, ih]
    rfl

/- The code of a control character is no surrogate, so it stands for the character itself. -/
theorem keptText_escapePiece (ending : StringEnd) (c : Char) (rest : List Piece) :
    keptText ending (escapePiece c :: rest) = (keptText ending rest).map (c :: ·) := by
  have push : (do return c :: (← keptText ending rest)) = (keptText ending rest).map (c :: ·) := by
    cases keptText ending rest <;> rfl
  unfold escapePiece
  split
  case h_8 =>
    by_cases control : c.toNat < 0x20
    · have low : isLeading c.toNat = false ∧ isTrailing c.toNat = false := by
        constructor
        · simp only [isLeading, Bool.and_eq_false_iff, decide_eq_false_iff_not]
          omega
        · simp only [isTrailing, Bool.and_eq_false_iff, decide_eq_false_iff_not]
          omega
      rw [if_pos control, keptText.eq_def]
      simp only [low, Char.ofNat_toNat]
      exact push
    · simp only [control, if_false, keptText]
      exact push
  all_goals exact push

theorem keptText_escaped (s : List Char) : keptText .closed (s.map escapePiece) = .ok s := by
  induction s with
  | nil => rfl
  | cons c s ih =>
    rw [List.map_cons, keptText_escapePiece, ih]
    rfl

theorem tokensFrom_append (skipped rest : List Glyph) :
    tokensFrom skipped.length (skipped ++ rest) = tokens rest := by
  induction skipped with
  | nil => rfl
  | cons g skipped ih => exact ih

theorem tokens_printText (s : String) (rest : List Glyph) :
    tokens ((printText s).map some ++ rest) = .string (.ok s) :: tokens rest := by
  have text : (printText s).map some ++ rest =
      some '"' :: ((s.toList.flatMap escapeChar).map some ++ some '"' :: rest) := by
    simp [printText]
  have inside : (s.toList.flatMap escapeChar).map some ++ some '"' :: rest =
      ((s.toList.flatMap escapeChar ++ ['"']).map some) ++ rest := by
    simp
  have first : tokenAt (some '"') ((s.toList.flatMap escapeChar).map some ++ some '"' :: rest) =
      (.string (.ok s), ((s.toList.flatMap escapeChar ++ ['"']).map some).length) := by
    simp only [tokenAt, scanString_escaped, ScannedString.token, StringEnd.fault?, keptText_escaped,
      Except.map, String.ofList_toList, List.length_map, List.length_append, List.length_singleton]
  rw [text, tokens, tokensFrom, first, inside]
  exact congrArg (Token.string (.ok s) :: ·) (tokensFrom_append _ rest)

end RpcSharp.Json
