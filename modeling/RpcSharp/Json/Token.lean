import RpcSharp.Json.Number

/-! Tokens of a JSON text. A text need not be JSON to have tokens: they end with one that says
what is wrong, in which way depends on whether the value there is kept or skipped. -/

namespace RpcSharp.Json

open RpcSharp.Text

inductive Token
  | openObject
  | closeObject
  | openList
  | closeList
  | comma
  | colon
  | null
  | bool (b : Bool)
  | number (value : Except Fault Number)
  | string (text : Except Fault String)
  | badString (faults : Faults)
  | bad (faults : Faults)
deriving Repr

/-- A part of a string between its quotes: a glyph as it stands, the character of a short escape,
or the 16 bits of a long one. -/
inductive Piece
  | plain (g : Glyph)
  | short (c : Char)
  | long (bits : Nat)
deriving DecidableEq, Repr

/-- Where the pieces of a string end. -/
inductive StringEnd
  | closed
  | endOfText
  | controlCharacter
  | unknownEscape
  | badHex
deriving DecidableEq, Repr

def StringEnd.fault? : StringEnd → Option Fault
  | .closed => none
  | .endOfText => some .endInString
  | .controlCharacter => some .controlCharacter
  | .unknownEscape => some .invalidEscape
  | .badHex => some .invalidEscape

/-- What is wrong where the second half of a surrogate pair is due and the pieces end. -/
def StringEnd.surrogateFault : StringEnd → Fault
  | .endOfText => .endInString
  | .badHex => .invalidEscape
  | _ => .unfinishedSurrogate

/-- Where a scan of a string stands: between pieces, after a backslash, or in a long escape with
digits still to come. -/
inductive StringState
  | between
  | escape
  | hex (missing : Nat) (bits : Nat)
deriving DecidableEq, Repr

def shortEscape? : Char → Option Char
  | '"' => some '"'
  | '\\' => some '\\'
  | '/' => some '/'
  | 'b' => some '\x08'
  | 'f' => some '\x0c'
  | 'n' => some '\n'
  | 'r' => some '\r'
  | 't' => some '\t'
  | _ => none

def hexDigit? (c : Char) : Option Nat :=
  if '0' ≤ c ∧ c ≤ '9' then some (c.toNat - '0'.toNat)
  else if 'a' ≤ c ∧ c ≤ 'f' then some (c.toNat - 'a'.toNat + 10)
  else if 'A' ≤ c ∧ c ≤ 'F' then some (c.toNat - 'A'.toNat + 10)
  else none

def glyphSize : Glyph → Nat
  | some c => c.utf8Size
  | none => 1

/-- Whether four bytes follow, as many as a long escape has digits. -/
def fourBytes (s : List Glyph) : Bool := 4 ≤ ((s.take 4).map glyphSize).foldl (· + ·) 0

structure ScannedString where
  pieces : List Piece
  ending : StringEnd
  length : Nat
deriving DecidableEq, Repr

def ScannedString.push (r : ScannedString) (p : Option Piece) : ScannedString :=
  ⟨p.toList ++ r.pieces, r.ending, r.length + 1⟩

/-- The string that goes on with a text after its opening quote. -/
def scanString : StringState → List Glyph → ScannedString
  | _, [] => ⟨[], .endOfText, 0⟩
  | .between, g :: rest =>
    match g with
    | some '"' => ⟨[], .closed, 1⟩
    | some '\\' => (scanString .escape rest).push none
    | some c =>
      if c.toNat < 0x20 then ⟨[], .controlCharacter, 0⟩
      else (scanString .between rest).push (some (.plain g))
    | none => (scanString .between rest).push (some (.plain g))
  | .escape, g :: rest =>
    match g with
    | some 'u' =>
      if fourBytes rest then (scanString (.hex 4 0) rest).push none else ⟨[], .endOfText, 0⟩
    | some c =>
      match shortEscape? c with
      | some e => (scanString .between rest).push (some (.short e))
      | none => ⟨[], .unknownEscape, 0⟩
    | none => ⟨[], .unknownEscape, 0⟩
  | .hex missing bits, g :: rest =>
    match g.bind hexDigit? with
    | none => ⟨[], .badHex, 0⟩
    | some d =>
      let bits := bits * 16 + d
      match missing with
      | 0 | 1 => (scanString .between rest).push (some (.long bits))
      | more + 1 => (scanString (.hex more bits) rest).push none

def isLeading (bits : Nat) : Bool := 0xD800 ≤ bits && bits ≤ 0xDBFF

def isTrailing (bits : Nat) : Bool := 0xDC00 ≤ bits && bits ≤ 0xDFFF

def joinSurrogates (high low : Nat) : Char :=
  Char.ofNat ((high - 0xD800) * 0x400 + (low - 0xDC00) + 0x10000)

/-- The text of a string that is kept. A byte that belongs to no character is noticed last. -/
def keptText (ending : StringEnd) : List Piece → Except Fault (List Char)
  | [] =>
    match ending.fault? with
    | some f => .error f
    | none => .ok []
  | .plain (some c) :: rest | .short c :: rest => return c :: (← keptText ending rest)
  | .plain none :: rest => do
    let _ ← keptText ending rest
    .error .invalidCharacter
  | .long bits :: rest =>
    if isTrailing bits then .error .loneSurrogate
    else if !isLeading bits then return Char.ofNat bits :: (← keptText ending rest)
    else
      match rest with
      | [] => .error ending.surrogateFault
      | .long low :: rest =>
        if isTrailing low then return joinSurrogates bits low :: (← keptText ending rest)
        else .error .loneSurrogate
      | _ => .error .unfinishedSurrogate

def ScannedString.token (r : ScannedString) : Token :=
  match r.ending.fault?, keptText r.ending r.pieces with
  | none, text => .string (text.map String.ofList)
  | some skipped, .error kept => .badString ⟨kept, skipped, kept⟩
  | some skipped, .ok _ => .badString (.always skipped)

/-- The faults of a word that breaks off. Only null may stand for a name. -/
def wordFaults (found : Token) (f : Fault) : Faults :=
  match found with
  | .null => .always f
  | _ => ⟨f, f, .expectedValue⟩

/-- The rest of one of the words true, false and null. -/
def scanWord (found : Token) : List Char → List Glyph → Token
  | [], _ => found
  | _ :: _, [] => .bad (wordFaults found .endInValue)
  | c :: cs, g :: rest =>
    if g = some c then scanWord found cs rest else .bad (wordFaults found .expectedWord)

def numberToken (isNegative : Bool) (s : List Glyph) : Token × Nat :=
  match scanNumber isNegative s with
  | .ok (n, size) => (.number n.value, size)
  | .error faults => (.bad faults, 0)

/-- The token that starts with a glyph, and how many of the glyphs after it belong to it. -/
def tokenAt (g : Glyph) (rest : List Glyph) : Token × Nat :=
  match g with
  | some '\x7b' => (.openObject, 0)
  | some '\x7d' => (.closeObject, 0)
  | some '[' => (.openList, 0)
  | some ']' => (.closeList, 0)
  | some ',' => (.comma, 0)
  | some ':' => (.colon, 0)
  | some 'n' => (scanWord .null ['u', 'l', 'l'] rest, 3)
  | some 't' => (scanWord (.bool true) ['r', 'u', 'e'] rest, 3)
  | some 'f' => (scanWord (.bool false) ['a', 'l', 's', 'e'] rest, 4)
  | some '"' =>
    let scanned := scanString .between rest
    (scanned.token, scanned.length)
  | some '-' => numberToken true rest
  | some c =>
    if c.isDigit then
      let (token, size) := numberToken false (g :: rest)
      (token, size - 1)
    else (.bad (.always .expectedValue), 0)
  | none => (.bad (.always .expectedValue), 0)

def isSpace : Glyph → Bool
  | some ' ' | some '\t' | some '\n' | some '\r' => true
  | _ => false

def Token.isBad : Token → Bool
  | .bad _ | .badString _ => true
  | _ => false

/-- The tokens after `skip` more glyphs, which belong to the token before. -/
def tokensFrom : Nat → List Glyph → List Token
  | _, [] => []
  | skip + 1, _ :: rest => tokensFrom skip rest
  | 0, g :: rest =>
    if isSpace g then tokensFrom 0 rest
    else
      let (token, size) := tokenAt g rest
      if token.isBad then [token] else token :: tokensFrom size rest

def tokens (s : List Glyph) : List Token := tokensFrom 0 s

end RpcSharp.Json
