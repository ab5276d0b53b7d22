/-! Texts as lists of characters: properties of characters, white space of every script, pieces and
lines, the replacement of one word by another, and the characters of bytes that may not be
well-formed. -/

namespace RpcSharp.Text

/-- A character property as the closed intervals of code points that have it. -/
abbrev Ranges := List (Nat × Nat)

def Ranges.has (table : Ranges) (c : Char) : Bool :=
  table.any fun r => r.1 ≤ c.toNat && c.toNat ≤ r.2

/-! White space -/

/-- Code points with the property White_Space. -/
def blankRanges : Ranges :=
  [(0x9, 0xD), (0x20, 0x20), (0x85, 0x85), (0xA0, 0xA0), (0x1680, 0x1680), (0x2000, 0x200A),
   (0x2028, 0x2029), (0x202F, 0x202F), (0x205F, 0x205F), (0x3000, 0x3000)]

def isBlank (c : Char) : Bool := blankRanges.has c

def allBlank (s : List Char) : Bool := s.all isBlank

def trimStart (s : List Char) : List Char := s.dropWhile isBlank

def trimEnd (s : List Char) : List Char := (s.reverse.dropWhile isBlank).reverse

def trim (s : List Char) : List Char := trimEnd (trimStart s)

/-! Pieces and lines -/

/-- The pieces between the separators: one more than there are separators. -/
def splitWhere (isSeparator : Char → Bool) : List Char → List (List Char)
  | [] => [[]]
  | c :: rest =>
    if isSeparator c then [] :: splitWhere isSeparator rest
    else
      match splitWhere isSeparator rest with
      | [] => [[c]]
      | piece :: pieces => (c :: piece) :: pieces

/-- The lines of a text. A line ends at a line feed, with the carriage return before it if there
is one; a text that ends there has no further, empty line. -/
def lines : List Char → List (List Char)
  | [] => []
  | '\n' :: rest => [] :: lines rest
  | '\r' :: '\n' :: rest => [] :: lines rest
  | c :: rest =>
    match lines rest with
    | [] => [[c]]
    | line :: others => (c :: line) :: others

/-- Replaces `old` from left to right where it does not overlap its last replacement, of which
`skip` characters are still to be passed over. -/
def replaceFrom (old new : List Char) : Nat → List Char → List Char
  | _, [] => []
  | skip + 1, _ :: rest => replaceFrom old new skip rest
  | 0, c :: rest =>
    if old.isPrefixOf (c :: rest) then new ++ replaceFrom old new (old.length - 1) rest
    else c :: replaceFrom old new 0 rest

def replaceAll (old new s : List Char) : List Char := replaceFrom old new 0 s

/-! Characters of bytes -/

/-- A character of a byte sequence, or `none` for a byte that belongs to no character. -/
abbrev Glyph := Option Char

/-- The character that the bytes start with. -/
def leadingChar (bytes : List UInt8) : Option Char :=
  (bytes.take 4).toByteArray.utf8DecodeChar? 0

/-- Decodes after `skip` more bytes, which belong to the character before. -/
def decodeFrom : Nat → List UInt8 → List Glyph
  | _, [] => []
  | skip + 1, _ :: rest => decodeFrom skip rest
  | 0, b :: rest =>
    match leadingChar (b :: rest) with
    | some c => some c :: decodeFrom (c.utf8Size - 1) rest
    | none => none :: decodeFrom 0 rest

def decode (bytes : List UInt8) : List Glyph := decodeFrom 0 bytes

def glyphs (s : String) : List Glyph := s.toList.map some

/-- The text of the bytes, if all of them belong to characters. -/
def textOf? (bytes : List UInt8) : Option String :=
  ((decode bytes).mapM id).map String.ofList

end RpcSharp.Text
