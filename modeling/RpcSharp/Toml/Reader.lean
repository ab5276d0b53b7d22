import RpcSharp.Toml.Table
import RpcSharp.Toml.Token

/-! The table that a TOML text stands for, if it is one. -/

namespace RpcSharp.Toml

/-- How deep lists and tables may be written inside each other. -/
def maxDepth : Nat := 80

/-- A list or a table that is being read, with its items the last first. -/
inductive Frame
  | list (items : List Value)
  | table (entries : Table) (key : List String)

def scalar? (s : List Char) : Option Value :=
  if s = "true".toList then some (.bool true)
  else if s = "false".toList then some (.bool false)
  else if isInteger s || isFloat s then some .number
  else if isMoment s then some .moment
  else none

def isBareKey (s : List Char) : Bool :=
  s.all fun c => ('a' ≤ c && c ≤ 'z') || ('A' ≤ c && c ≤ 'Z') || c.isDigit || c == '-' || c == '_'

def keyPart? : Token → Option String
  | .text s true => some s
  | .word s => if isBareKey s then some (String.ofList s) else none
  | _ => none

/-- Whether a date and what follows it after one space are a date and a time. -/
def joinsTime (date time : List Char) : Bool :=
  isDate date && (time.head?.map Char.isDigit).getD false

mutual

/-- The value that tokens start with, inside the given frames, and what follows. -/
def valueIn (frames : List Frame) (ts : List Token) : Option (Value × List Token) :=
  match ts with
  | .space _ :: ts => valueIn frames ts
  | .text s _ :: ts => resume frames (.text s) ts
  | .word s :: ts => scalarIn frames s ts
  | .openList :: ts => if frames.length < maxDepth then itemIn frames [] ts else none
  | .openTable :: ts => if frames.length < maxDepth then entryIn frames [] ts else none
  | _ => none
termination_by (ts.length, 0)

/-- An unquoted value goes on as long as no space or mark ends it. -/
def scalarIn (frames : List Frame) (s : List Char) (ts : List Token) :
    Option (Value × List Token) :=
  match ts with
  | .word more :: ts => scalarIn frames (s ++ more) ts
  | .dot :: ts => scalarIn frames (s ++ ['.']) ts
  | .space true :: .word time :: rest =>
    if joinsTime s time then scalarIn frames (s ++ ' ' :: time) rest
    else
      match scalar? s with
      | some v => resume frames v (.word time :: rest)
      | none => none
  | ts =>
    match scalar? s with
    | some v => resume frames v ts
    | none => none
termination_by (ts.length, 2)

/-- The next item of a list, or its end. -/
def itemIn (frames : List Frame) (items : List Value) (ts : List Token) :
    Option (Value × List Token) :=
  match ts with
  | .space _ :: ts | .newline :: ts => itemIn frames items ts
  | .closeList :: ts => resume frames (.list items.reverse) ts
  | ts => valueIn (.list items :: frames) ts
termination_by (ts.length, 1)

/-- The next entry of a table, or its end. -/
def entryIn (frames : List Frame) (entries : Table) (ts : List Token) :
    Option (Value × List Token) :=
  match ts with
  | .space _ :: ts | .newline :: ts => entryIn frames entries ts
  | .closeTable :: ts => resume frames (.table .inline entries) ts
  | t :: ts => (keyPart? t).bind fun part => keyIn frames entries [part] ts
  | [] => none
termination_by (ts.length, 0)

/-- What follows a part of a key, of which the parts so far are given the last first. -/
def keyIn (frames : List Frame) (entries : Table) (key : List String) (ts : List Token) :
    Option (Value × List Token) :=
  match ts with
  | .space _ :: ts => keyIn frames entries key ts
  | .equals :: ts => valueIn (.table entries key.reverse :: frames) ts
  | .dot :: .space _ :: t :: ts | .dot :: t :: ts =>
    (keyPart? t).bind fun part => keyIn frames entries (part :: key) ts
  | _ => none
termination_by (ts.length, 0)

/-- Goes on after a value. -/
def resume (frames : List Frame) (v : Value) (ts : List Token) : Option (Value × List Token) :=
  match frames, ts with
  | [], ts => some (v, ts)
  | frames, .space _ :: ts => resume frames v ts
  | frames, .newline :: ts => resume frames v ts
  | .list items :: frames, .comma :: ts => itemIn frames (v :: items) ts
  | .list items :: frames, .closeList :: ts => resume frames (.list (v :: items).reverse) ts
  | .table entries key :: frames, .comma :: ts =>
    (Table.insert key v entries).bind fun entries => entryIn frames entries ts
  | .table entries key :: frames, .closeTable :: ts =>
    (Table.insert key v entries).bind fun entries => resume frames (.table .inline entries) ts
  | _, _ => none
termination_by (ts.length, 1)

end

/-- A key with its dots, up to the mark that ends it. -/
def readKey (stop : Token) : List Token → Option (List String × List Token)
  | .space _ :: ts => readKey stop ts
  | t :: ts => do
    let part ← keyPart? t
    match ts with
    | .space _ :: .dot :: ts | .dot :: ts => do
      let (parts, ts) ← readKey stop ts
      return (part :: parts, ts)
    | .space _ :: t :: ts | t :: ts => if t = stop then some ([part], ts) else none
    | [] => none
  | [] => none

/-- Nothing else stands on the line. -/
def endLine : List Token → Option (List Token)
  | .space _ :: ts => endLine ts
  | .newline :: ts => some ts
  | [] => some []
  | _ => none

/-- A document that is read up to some line: its root, and the headers of the current table. -/
structure State where
  root : Table := []
  current : List String := []

def State.define (s : State) (key : List String) (how : String → Table → Option Table) :
    Option State := do
  let last ← key.getLast?
  return ⟨← s.root.modify (how last) key.dropLast, key⟩

/-- Reads the statement at the start of a line. -/
def readLine (s : State) : List Token → Option (State × List Token)
  | .space _ :: ts => readLine s ts
  | [] => some (s, [])
  | .newline :: ts => some (s, ts)
  | .openList :: .openList :: ts => do
    let (key, ts) ← readKey .closeList ts
    match ts with
    | .closeList :: ts => return (← s.define key Table.extend, ← endLine ts)
    | _ => none
  | .openList :: ts => do
    let (key, ts) ← readKey .closeList ts
    return (← s.define key Table.define, ← endLine ts)
  | ts => do
    let (key, ts) ← readKey .equals ts
    let (v, ts) ← valueIn [] ts
    let root ← s.root.modify (Table.insert key v) s.current
    return ({ s with root := root }, ← endLine ts)

/-- Reads lines to the end of the text. A line has at least one token, so `count` lines are
enough for as many tokens. -/
def readLines : Nat → State → List Token → Option Table
  | _, s, [] => some s.root
  | 0, _, _ :: _ => none
  | count + 1, s, ts => do
    let (s, ts) ← readLine s ts
    readLines count s ts

def read? (s : String) : Option Table :=
  let ts := tokens s.toList
  readLines ts.length {} ts

end RpcSharp.Toml
