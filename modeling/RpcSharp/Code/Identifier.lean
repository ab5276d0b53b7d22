import RpcSharp.Text.Basic
import RpcSharp.Text.Casing

/-! C# identifiers for names of a schema, which come in camel, snake or kebab case. -/

namespace RpcSharp.Code

open RpcSharp.Text

/-- The words that are no identifiers. Contextual keywords are, and are not listed. -/
def reservedWords : List String :=
  ["abstract", "as", "base", "bool", "break", "byte", "case", "catch", "char", "checked",
   "class", "const", "continue", "decimal", "default", "delegate", "do", "double", "else",
   "enum", "event", "explicit", "extern", "false", "finally", "fixed", "float", "for",
   "foreach", "goto", "if", "implicit", "in", "int", "interface", "internal", "is", "lock",
   "long", "namespace", "new", "null", "object", "operator", "out", "override", "params",
   "private", "protected", "public", "readonly", "ref", "return", "sbyte", "sealed", "short",
   "sizeof", "stackalloc", "static", "string", "struct", "switch", "this", "throw", "true",
   "try", "typeof", "uint", "ulong", "unchecked", "unsafe", "ushort", "using", "virtual",
   "void", "volatile", "while"]

def isReserved (name : String) : Bool := reservedWords.contains name

/-- A reserved word with the mark that makes it an identifier. -/
def escapeReserved (name : String) : String := if isReserved name then "@" ++ name else name

def mapFirst (f : Char → List Char) : List Char → List Char
  | [] => []
  | c :: rest => f c ++ rest

def capitalizeChars (s : List Char) : List Char := mapFirst upper s

def isSeparator (c : Char) : Bool := c == '-' || c == '_'

/-- An identifier does not start with a digit. -/
def guardDigit : List Char → List Char
  | [] => []
  | c :: rest => if c.isDigit then '_' :: c :: rest else c :: rest

def pascalChars (s : List Char) : List Char :=
  guardDigit ((splitWhere isSeparator s).flatMap capitalizeChars)

def capitalize (s : String) : String := String.ofList (capitalizeChars s.toList)

/-- The words of a name, each with a capital, one after the other. -/
def pascalCase (s : String) : String := String.ofList (pascalChars s.toList)

/-- The constructor parameter for a field. -/
def parameterName (field : String) : String :=
  escapeReserved (String.ofList (mapFirst lower (pascalChars field.toList)))

/-- The property for a field of a class. No member may have the name of its class. -/
def propertyName (field enclosing : String) : String :=
  let name := pascalCase field
  if name = enclosing then name ++ "Value" else name

end RpcSharp.Code
