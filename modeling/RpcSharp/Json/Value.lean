import RpcSharp.Json.Token

/-! Values as far as a text goes. A reader of a value stops where the text stops to be JSON, and
what it asks for until then decides what it reports, so a value keeps what was found there. -/

namespace RpcSharp.Json

abbrev Key := Except Fault String

/-- How the items of a list end. -/
inductive ListEnd
  | closed
  | endOfText
  /-- A comma, then the closing bracket. -/
  | strayComma
  | endAfterComma
  | missingComma
deriving DecidableEq, Repr

/-- How the entries of an object end. -/
inductive ObjectEnd
  | closed
  | endOfText
  /-- A comma, then the closing brace. -/
  | strayComma
  | endAfterComma
  | missingComma
  | notKey (found : Token)
  | badKey (faults : Faults)
  | endAfterKey (key : Key)
  | missingColon (key : Key)
deriving Repr

inductive Value
  | null
  | bool (b : Bool)
  | number (value : Except Fault Number)
  | string (text : Except Fault String)
  | list (items : List Value) (ending : ListEnd)
  | object (entries : List (Key × Value)) (ending : ObjectEnd)
  | bad (faults : Faults)
deriving Repr

/-- A list or an object with a value still to come; what it holds so far, the last first. -/
inductive Frame
  | list (items : List Value)
  | object (entries : List (Key × Value)) (key : Key)

def Frame.fill : Frame → Value → Value
  | .list items, v => .list (v :: items).reverse .endOfText
  | .object entries key, v => .object ((key, v) :: entries).reverse .endOfText

/-- The value at whose end the text stops to be JSON, with all that it stands in. -/
def enclose (frames : List Frame) (v : Value) : Value := frames.foldl (fun v f => f.fill v) v

mutual

/-- The value that tokens start with, inside the given frames. -/
def valueIn (frames : List Frame) : List Token → Value
  | [] => enclose frames (.bad (.always .endInValue))
  | .null :: ts => resume frames .null ts
  | .bool b :: ts => resume frames (.bool b) ts
  | .number n :: ts => resume frames (.number n) ts
  | .string s :: ts => resume frames (.string s) ts
  | .badString faults :: _ | .bad faults :: _ => enclose frames (.bad faults)
  | .openList :: ts =>
    match ts with
    | [] => enclose frames (.list [] .endOfText)
    | .closeList :: ts => resume frames (.list [] .closed) ts
    | ts => valueIn (.list [] :: frames) ts
  | .openObject :: ts =>
    match ts with
    | [] => enclose frames (.object [] .endOfText)
    | .closeObject :: ts => resume frames (.object [] .closed) ts
    | .string key :: .colon :: ts => valueIn (.object [] key :: frames) ts
    | [.string key] => enclose frames (.object [] (.endAfterKey key))
    | .string key :: _ => enclose frames (.object [] (.missingColon key))
    | .badString faults :: _ => enclose frames (.object [] (.badKey faults))
    | t :: _ => enclose frames (.object [] (.notKey t))
  | .closeObject :: _ | .closeList :: _ | .comma :: _ | .colon :: _ =>
    enclose frames (.bad (.always .expectedValue))

/-- Goes on after a value that is complete. -/
def resume : List Frame → Value → List Token → Value
  | [], v, _ => v
  | .list items :: frames, v, ts =>
    let done (ending : ListEnd) : Value := .list (v :: items).reverse ending
    match ts with
    | [] => enclose frames (done .endOfText)
    | .closeList :: ts => resume frames (done .closed) ts
    | [.comma] => enclose frames (done .endAfterComma)
    | .comma :: .closeList :: _ => enclose frames (done .strayComma)
    | .comma :: ts => valueIn (.list (v :: items) :: frames) ts
    | _ => enclose frames (done .missingComma)
  | .object entries key :: frames, v, ts =>
    let done (ending : ObjectEnd) : Value := .object ((key, v) :: entries).reverse ending
    match ts with
    | [] => enclose frames (done .endOfText)
    | .closeObject :: ts => resume frames (done .closed) ts
    | [.comma] => enclose frames (done .endAfterComma)
    | .comma :: .closeObject :: _ => enclose frames (done .strayComma)
    | .comma :: .string next :: .colon :: ts =>
      valueIn (.object ((key, v) :: entries) next :: frames) ts
    | [.comma, .string next] => enclose frames (done (.endAfterKey next))
    | .comma :: .string next :: _ => enclose frames (done (.missingColon next))
    | .comma :: .badString faults :: _ => enclose frames (done (.badKey faults))
    | .comma :: t :: _ => enclose frames (done (.notKey t))
    | _ => enclose frames (done .missingComma)

end

/-- The first value of a text. What follows it does not matter. -/
def Value.ofText (s : List Text.Glyph) : Value := valueIn [] (tokens s)

/-- What a token would be as a value, of which only the kind matters. -/
def Token.lead : Token → Value
  | .null => .null
  | .bool b => .bool b
  | .number n => .number n
  | .string s => .string s
  | .openList => .list [] .endOfText
  | .openObject => .object [] .endOfText
  | .bad faults | .badString faults => .bad faults
  | .closeObject | .closeList | .comma | .colon => .bad (.always .expectedValue)

/-- What a skipped list ends with, if not its bracket. -/
def ListEnd.skipFault : ListEnd → Option Fault
  | .closed => none
  | .endOfText => some .endInList
  | .strayComma => some .expectedValue
  | .endAfterComma => some .endInValue
  | .missingComma => some .expectedListComma

/-- What a skipped object ends with, if not its brace. -/
def ObjectEnd.skipFault : ObjectEnd → Option Fault
  | .closed => none
  | .endOfText => some .endInObject
  | .strayComma => some .expectedKey
  | .endAfterComma => some .endInObject
  | .missingComma => some .expectedObjectComma
  | .notKey _ => some .expectedKey
  | .badKey faults => some faults.skipped
  | .endAfterKey _ => some .endInObject
  | .missingColon _ => some .expectedColon

mutual

/-- What is wrong with a value that is skipped: its strings and numbers are not looked into. -/
def Value.skipFault : Value → Option Fault
  | .list items ending => (itemsFault items).or ending.skipFault
  | .object entries ending => (entriesFault entries).or ending.skipFault
  | .bad faults => some faults.skipped
  | _ => none

def itemsFault : List Value → Option Fault
  | [] => none
  | v :: vs => v.skipFault.or (itemsFault vs)

def entriesFault : List (Key × Value) → Option Fault
  | [] => none
  | (_, v) :: es => v.skipFault.or (entriesFault es)

end

/-! The compact text of values that are built from texts, flags and lists -/

def lowerHex (n : Nat) : Char := if n < 10 then Char.ofNat (48 + n) else Char.ofNat (87 + n)

/-- How a character stands in a string: quotes, backslashes and control characters are escaped. -/
def escapeChar (c : Char) : List Char :=
  match c with
  | '"' => ['\\', '"']
  | '\\' => ['\\', '\\']
  | '\x08' => ['\\', 'b']
  | '\x0c' => ['\\', 'f']
  | '\n' => ['\\', 'n']
  | '\r' => ['\\', 'r']
  | '\t' => ['\\', 't']
  | _ =>
    if c.toNat < 0x20 then
      ['\\', 'u', '0', '0', lowerHex (c.toNat / 16), lowerHex (c.toNat % 16)]
    else [c]

def printText (s : String) : List Char := '"' :: s.toList.flatMap escapeChar ++ ['"']

def printFlag (b : Bool) : List Char := (if b then "true" else "false").toList

def printNull : List Char := "null".toList

def joinComma : List (List Char) → List Char
  | [] => []
  | [s] => s
  | s :: rest => s ++ ',' :: joinComma rest

def printList {α : Type} (print : α → List Char) (as : List α) : List Char :=
  '[' :: joinComma (as.map print) ++ [']']

def printObject (entries : List (String × List Char)) : List Char :=
  '\x7b' :: joinComma (entries.map fun e => printText e.1 ++ ':' :: e.2) ++ ['\x7d']

end RpcSharp.Json
