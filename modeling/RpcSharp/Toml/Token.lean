import RpcSharp.Toml.Scalar

/-! Tokens of a TOML text. -/

namespace RpcSharp.Toml

open RpcSharp.Text

inductive Token
  | dot
  | equals
  | comma
  | openList
  | closeList
  | openTable
  | closeTable
  /-- White space or a comment. -/
  | space (isSingle : Bool)
  | newline
  /-- A quoted text. One that may hold several lines is no key. -/
  | text (s : String) (isKey : Bool)
  /-- A run of other characters. -/
  | word (s : List Char)
  /-- Where the text is not TOML, whatever stands around it. -/
  | bad
deriving DecidableEq, Repr

/-- Control characters stand nowhere but for the tab. -/
def isControl (c : Char) : Bool := (c.toNat < 0x20 && c != '\t') || c.toNat == 0x7F

def shortEscape? : Char → Option Char
  | 'b' => some '\x08'
  | 't' => some '\t'
  | 'n' => some '\n'
  | 'f' => some '\x0c'
  | 'r' => some '\r'
  | 'e' => some '\x1b'
  | '"' => some '"'
  | '\\' => some '\\'
  | _ => none

/-- How many digits the number of a character has after an escape. -/
def longEscape? : Char → Option Nat
  | 'x' => some 2
  | 'u' => some 4
  | 'U' => some 8
  | _ => none

/-- Where a scan of a quoted text stands. After a backslash at a line's end, white space is
dropped up to the next character. -/
inductive TextState
  | plain (folded : Bool)
  | escape
  | lineEnd
  | code (missing value : Nat)
deriving DecidableEq, Repr

/-- A scanned text and its length with the closing quotes. -/
abbrev Scanned := Option (List Char × Nat)

def Scanned.push (r : Scanned) (cs : List Char) : Scanned := r.map fun (s, n) => (cs ++ s, n + 1)

def runLength (quote : Char) (s : List Char) : Nat := (s.takeWhile (· == quote)).length

/-- What a run of quotes means in a text of several lines: up to two of them may stand before
the three that close it. -/
def closing? (run : Nat) : Option Scanned :=
  if run < 3 then none
  else if run ≤ 5 then some (some (List.replicate (run - 3) '"', run))
  else some none

def isLineSpace (c : Char) : Bool := c == ' ' || c == '\t' || c == '\n' || c == '\r'

/-- A carriage return stands only before a line feed. -/
def loneReturn (c : Char) (rest : List Char) : Bool := c == '\r' && rest.head? != some '\n'

def scanBasic (multiline : Bool) : TextState → List Char → Scanned
  | _, [] => none
  | .plain folded, c :: rest =>
    if folded && isLineSpace c then
      if loneReturn c rest then none else (scanBasic multiline (.plain true) rest).push []
    else if c == '"' then
      if !multiline then some ([], 1)
      else (closing? (runLength '"' (c :: rest))).getD
        ((scanBasic multiline (.plain false) rest).push [c])
    else if c == '\\' then (scanBasic multiline .escape rest).push []
    else if c == '\n' || c == '\r' then
      if !multiline || loneReturn c rest then none
      else (scanBasic multiline (.plain false) rest).push [c]
    else if isControl c then none
    else (scanBasic multiline (.plain false) rest).push [c]
  | .escape, c :: rest =>
    match shortEscape? c, longEscape? c with
    | some e, _ => (scanBasic multiline (.plain false) rest).push [e]
    | none, some digits => (scanBasic multiline (.code digits 0) rest).push []
    | none, none =>
      if !multiline || !isLineSpace c || loneReturn c rest then none
      else if c == '\n' then (scanBasic multiline (.plain true) rest).push []
      else (scanBasic multiline .lineEnd rest).push []
  | .lineEnd, c :: rest =>
    if !isLineSpace c || loneReturn c rest then none
    else if c == '\n' then (scanBasic multiline (.plain true) rest).push []
    else (scanBasic multiline .lineEnd rest).push []
  | .code missing value, c :: rest =>
    if !isHexDigit c then none
    else
      let value := value * 16 + hexValue c
      match missing with
      | 0 | 1 =>
        if value.isValidChar then
          (scanBasic multiline (.plain false) rest).push [Char.ofNat value]
        else none
      | more + 1 => (scanBasic multiline (.code more value) rest).push []

def scanLiteral (multiline : Bool) : List Char → Scanned
  | [] => none
  | c :: rest =>
    if c == '\x27' then
      if !multiline then some ([], 1)
      else
        match closing? (runLength '\x27' (c :: rest)) with
        | some r => r.map fun (s, n) => (s.map fun _ => '\x27', n)
        | none => (scanLiteral multiline rest).push [c]
    else if c == '\n' || c == '\r' then
      if !multiline || loneReturn c rest then none else (scanLiteral multiline rest).push [c]
    else if isControl c then none
    else (scanLiteral multiline rest).push [c]

/-- The length of the line end that a text starts with. -/
def lineEndLength : List Char → Nat
  | '\n' :: _ => 1
  | '\r' :: '\n' :: _ => 2
  | _ => 0

/-- A quoted text after its first quote, by the kind of quote. One of several lines has three
quotes and drops a line end after them. -/
def textToken (quote : Char) (scan : Bool → List Char → Scanned) (rest : List Char) :
    Token × Nat :=
  let (multiline, opening) :=
    match rest with
    | a :: b :: rest =>
      if a == quote && b == quote then (true, 2 + lineEndLength rest) else (false, 0)
    | _ => (false, 0)
  match scan multiline (rest.drop opening) with
  | some (s, n) => (.text (String.ofList s) (!multiline), opening + n)
  | none => (.bad, 0)

def isWordChar (c : Char) : Bool :=
  !(c == '.' || c == '=' || c == ',' || c == '[' || c == ']' || c == '\x7b' || c == '\x7d'
    || c == ' ' || c == '\t' || c == '#' || c == '\r' || c == '\n' || c == '"' || c == '\x27')

/-- The token that starts with a character, and how many characters after it belong to it. -/
def tokenAt (c : Char) (rest : List Char) : Token × Nat :=
  match c with
  | '.' => (.dot, 0)
  | '=' => (.equals, 0)
  | ',' => (.comma, 0)
  | '[' => (.openList, 0)
  | ']' => (.closeList, 0)
  | '\x7b' => (.openTable, 0)
  | '\x7d' => (.closeTable, 0)
  | '\n' => (.newline, 0)
  | '\r' => if rest.head? = some '\n' then (.newline, 1) else (.bad, 0)
  | '"' => textToken '"' (fun multiline => scanBasic multiline (.plain false)) rest
  | '\x27' => textToken '\x27' scanLiteral rest
  | '#' =>
    let comment := rest.takeWhile fun c => c != '\n' && c != '\r'
    if comment.any isControl then (.bad, 0) else (.space false, comment.length)
  | c =>
    if c == ' ' || c == '\t' then
      let more := (rest.takeWhile fun c => c == ' ' || c == '\t').length
      (.space (c == ' ' && more == 0), more)
    else
      let word := rest.takeWhile isWordChar
      (.word (c :: word), word.length)

/-- The tokens after `skip` more characters, which belong to the token before. -/
def tokensFrom : Nat → List Char → List Token
  | _, [] => []
  | skip + 1, _ :: rest => tokensFrom skip rest
  | 0, c :: rest =>
    match tokenAt c rest with
    | (.bad, _) => [.bad]
    | (token, size) => token :: tokensFrom size rest

/-- The tokens of a text, which may start with a byte order mark. -/
def tokens : List Char → List Token
  | '\ufeff' :: s => tokensFrom 0 s
  | s => tokensFrom 0 s

end RpcSharp.Toml
