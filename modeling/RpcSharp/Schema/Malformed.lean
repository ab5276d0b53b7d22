import RpcSharp.Json.Value
import RpcSharp.Text.Printable

/-! Where and why a JSON value is not a schema document. -/

namespace RpcSharp.Schema

open RpcSharp.Json

/-- A step from a value into one of its parts, or to a place where no key could be read. -/
inductive Step
  | index (i : Nat)
  | key (name : String)
  | unknown
deriving DecidableEq, Repr

/-- The kind of value that was found where another was wanted. -/
inductive Found
  | null
  | bool (b : Bool)
  | number (n : Number)
  | string (s : String)
  | list
  | object
deriving DecidableEq, Repr

inductive Wanted
  | text
  | flag
  | list
  | nothing
  | callerName
  | record (name : String)
deriving DecidableEq, Repr

inductive Cause
  | fault (f : Fault)
  | wrongKind (found : Found) (wanted : Wanted)
  | missingField (key : String)
  | repeatedField (key : String)
  /-- A record written as a list that ends before the field at an index. -/
  | shortList (index : Nat) (record : String) (fields : Nat)
  | unknownCaller (name : String)
deriving DecidableEq, Repr

structure Malformed where
  path : List Step
  cause : Cause
deriving DecidableEq, Repr

def Step.text : Step → String
  | .index i => s!"[{i}]"
  | .key name => name
  | .unknown => "?"

def Step.isIndex : Step → Bool
  | .index _ => true
  | _ => false

/-- A path joins its steps with dots, but an index follows directly. -/
def pathText : List Step → String
  | [] => "."
  | first :: rest =>
    first.text ++ String.join (rest.map fun s => if s.isIndex then s.text else "." ++ s.text)

def Found.describe : Found → String
  | .null => "null"
  | .bool b => s!"boolean `{b}`"
  | .number n => n.describe
  | .string s => "string " ++ Text.quoted s
  | .list => "sequence"
  | .object => "map"

def Wanted.describe : Wanted → String
  | .text => "a string"
  | .flag => "a boolean"
  | .list => "a sequence"
  | .nothing => "unit"
  | .callerName => "variant identifier"
  | .record name => "struct " ++ name

def Cause.message : Cause → String
  | .fault f => f.message
  | .wrongKind found wanted => "invalid type: " ++ found.describe ++ ", expected " ++ wanted.describe
  | .missingField key => "missing field `" ++ key ++ "`"
  | .repeatedField key => "duplicate field `" ++ key ++ "`"
  | .shortList index record fields =>
    let elements := if fields = 1 then "1 element" else s!"{fields} elements"
    s!"invalid length {index}, expected struct {record} with {elements}"
  | .unknownCaller name => "unknown variant `" ++ name ++ "`, expected `client` or `server`"

def Malformed.message (m : Malformed) : String :=
  "malformed schema at JSON path " ++ pathText m.path ++ ": " ++ m.cause.message

end RpcSharp.Schema
