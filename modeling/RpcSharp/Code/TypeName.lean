import RpcSharp.Text.Basic
import RpcSharp.Text.Word

/-! C# types for types of a schema. Most types keep their name; a few words are replaced wherever
they occur, and a map is written as a dictionary. -/

namespace RpcSharp.Code

open RpcSharp.Text

/-- Why a unit has no source text. -/
inductive UnitFault
  | unsupportedType (raw : String)
  /-- A kind of member that its container cannot hold. -/
  | invalidMember (container kind : String)
  | repeatedMember (container name : String)
  | emptySegment (method : String)
  | missingNamespace (root : String)
deriving DecidableEq, Repr

def UnitFault.message : UnitFault → String
  | .unsupportedType raw => "unsupported type syntax: " ++ raw
  | .invalidMember container kind => kind ++ " is not allowed inside " ++ container
  | .repeatedMember container name => name ++ " is declared twice in class " ++ container
  | .emptySegment method => "empty segment in method name: " ++ method
  | .missingNamespace root => "root type " ++ root ++ " has no namespace"

/-- What follows `start` in a text that starts with it. -/
def after? : List Char → List Char → Option (List Char)
  | [], s => some s
  | c :: start, d :: s => if c = d then after? start s else none
  | _ :: _, [] => none

/-- A word at the start of a text, and what follows it. -/
def word? (s : List Char) : Option (List Char × List Char) :=
  match s.takeWhile isWord with
  | [] => none
  | word => some (word, s.dropWhile isWord)

/-- The key and value types of a map, of which each is a single word. -/
def mapParts? (s : List Char) : Option (List Char × List Char) := do
  let s ← after? "\x7b [key: ".toList (trimStart s)
  let (key, s) ← word? s
  let s ← after? "]: ".toList s
  let (value, s) ← word? s
  let s ← after? " \x7d".toList s
  if allBlank s then some (key, value) else none

def isTypePunctuation (c : Char) : Bool :=
  c == '\x7b' || c == '\x7d' || c == '<' || c == '>'

/-- Words and what stands for them, in the order in which they are replaced. -/
def substitutions : List (String × String) :=
  [("number", "int"), ("boolean", "bool"), ("Actions", "Action[]"), ("Cursor", "bool"),
   ("RFCDate", "string")]

def substitute (s : List Char) : List Char :=
  substitutions.foldl (fun s r => replaceAll r.1.toList r.2.toList s) s

def mapType (raw : String) : Except UnitFault String :=
  match mapParts? raw.toList with
  | some (key, value) =>
    .ok (String.ofList ("Dictionary<".toList ++ key ++ ", ".toList ++ value ++ ['>']))
  | none =>
    if raw.toList.any isTypePunctuation then .error (.unsupportedType raw)
    else .ok (String.ofList (substitute raw.toList))

def nullable (type : String) (optional : Bool) : String := if optional then type ++ "?" else type

def isNullable (type : String) : Bool := type.toList.getLast? == some '?'

/-- Names that mean a class of the generated code where a type of the schema may be meant. Such a
type is written with its namespace, which tells enumerations from structures. -/
structure Scope where
  taken : List String := []
  enums : List String := []
deriving DecidableEq, Repr

/-- Drops pairs of brackets from the start of a reversed type. -/
def dropBrackets : List Char → List Char
  | ']' :: '[' :: rest => dropBrackets rest
  | s => s

/-- The type of the elements of an array, of an array of arrays and so on. -/
def elementType (raw : String) : String :=
  String.ofList (dropBrackets raw.toList.reverse).reverse

namespace Scope

/-- The names of the classes that are generated for methods and around them. -/
def ofMethods (methods generated enums : List String) : Scope where
  taken := methods.flatMap (fun m => (splitWhere (· == '.') m.toList).map String.ofList) ++ generated
  enums := enums

def resolve (s : Scope) (raw : String) : String :=
  let element := elementType raw
  if !s.taken.contains element then raw
  else if s.enums.contains element then "Enums." ++ raw
  else "Structs." ++ raw

def fieldType (s : Scope) (raw : String) (optional : Bool) : Except UnitFault String :=
  (mapType (s.resolve raw)).map (nullable · optional)

end Scope

end RpcSharp.Code
