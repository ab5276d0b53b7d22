/-! Tables of a TOML text and how its lines fill them. -/

namespace RpcSharp.Toml

/-- What a table comes from. -/
inductive Origin
  /-- Written as a value. Nothing is added to it later. -/
  | inline
  /-- A header of its own. -/
  | header
  /-- A header of a table below it. -/
  | implied
  /-- A key with dots. -/
  | dotted
deriving DecidableEq, Repr

inductive Value
  | text (s : String)
  | bool (b : Bool)
  | number
  | moment
  | list (items : List Value)
  | table (origin : Origin) (entries : List (String × Value))
  /-- A list of tables, one for each of its headers. -/
  | tables (elements : List (List (String × Value)))
deriving Repr

abbrev Table := List (String × Value)

namespace Table

def get? (t : Table) (key : String) : Option Value := t.lookup key

def add (t : Table) (key : String) (v : Value) : Table := t ++ [(key, v)]

def replace (t : Table) (key : String) (v : Value) : Table :=
  t.map fun e => if e.1 == key then (key, v) else e

/-- Adds a value under a key. All but the last part of the key name tables that come from keys
with dots themselves; a table on the way may also be implied by headers. -/
def insert : List String → Value → Table → Option Table
  | [], _, _ => none
  | [key], v, t => if (t.get? key).isSome then none else some (t.add key v)
  | part :: rest, v, t =>
    match t.get? part with
    | none => do return t.add part (.table .dotted (← insert rest v []))
    | some (.table .dotted es) => do return t.replace part (.table .dotted (← insert rest v es))
    | some (.table .implied es) =>
      if rest.length ≤ 1 then none
      else do return t.replace part (.table .implied (← insert rest v es))
    | some _ => none

/-- Changes the table at a path of headers. The last of several tables is meant, and a table that
is missing is implied. -/
def modify (change : Table → Option Table) : List String → Table → Option Table
  | [], t => change t
  | part :: rest, t =>
    match t.get? part with
    | none => do return t.add part (.table .implied (← modify change rest []))
    | some (.table origin es) =>
      if origin = .inline then none
      else do return t.replace part (.table origin (← modify change rest es))
    | some (.tables elements) => do
      let last ← elements.getLast?
      return t.replace part (.tables (elements.dropLast ++ [← modify change rest last]))
    | some _ => none

/-- Makes a table for a header. One that others implied before is the same. -/
def define (key : String) (t : Table) : Option Table :=
  match t.get? key with
  | none => some (t.add key (.table .header []))
  | some (.table .implied es) => some (t.replace key (.table .header es))
  | some _ => none

/-- Makes one more table of a list of tables. -/
def extend (key : String) (t : Table) : Option Table :=
  match t.get? key with
  | none => some (t.add key (.tables [[]]))
  | some (.tables elements) => some (t.replace key (.tables (elements ++ [[]])))
  | some _ => none

end Table

end RpcSharp.Toml
