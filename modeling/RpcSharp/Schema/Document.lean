/-! The schema of a remote procedure protocol: the methods that can be called, the notifications
that are sent without an answer, and the types that their fields refer to by name. -/

namespace RpcSharp.Schema

/-- The side of a connection that makes a request. -/
inductive Caller
  | client
  | server
deriving DecidableEq, Repr

/-- A named value of a record. The type is a phrase of the schema's own type language. -/
structure Field where
  name : String := ""
  doc : String := ""
  type : String := ""
  optional : Bool := false
deriving DecidableEq, Repr

structure Request where
  method : String := ""
  doc : String := ""
  caller : Option Caller := none
  params : List Field := []
  result : List Field := []
deriving DecidableEq, Repr

structure Notification where
  method : String := ""
  doc : String := ""
  params : List Field := []
deriving DecidableEq, Repr

structure StructType where
  name : String := ""
  doc : String := ""
  fields : List Field := []
deriving DecidableEq, Repr

/-- A member of an enumeration, with its literal: digits, or a text with its quotes. -/
structure EnumValue where
  name : String := ""
  doc : String := ""
  value : String := ""
deriving DecidableEq, Repr

structure EnumType where
  name : String := ""
  doc : String := ""
  values : List EnumValue := []
deriving DecidableEq, Repr

structure Document where
  requests : List Request := []
  notifications : List Notification := []
  structTypes : List StructType := []
  enumTypes : List EnumType := []
deriving DecidableEq, Repr

/-- Whether a literal is a quoted text. -/
def isTextLiteral (literal : String) : Bool := literal.toList.contains '"'

/-- The kinds of entries of a document. Each entry becomes a unit of its own. -/
inductive Category
  | requests
  | notifications
  | structs
  | enums
deriving DecidableEq, Repr

namespace Category

def all : List Category := [.requests, .notifications, .structs, .enums]

/-- The name of the namespace, the directory and, for methods, the outermost class. -/
def name : Category → String
  | .requests => "Requests"
  | .notifications => "Notifications"
  | .structs => "Structs"
  | .enums => "Enums"

/-- One entry of the category, as messages call it. -/
def noun : Category → String
  | .requests => "request"
  | .notifications => "notification"
  | .structs => "struct"
  | .enums => "enum"

def ofName? (s : String) : Option Category := all.find? (·.name == s)

def «namespace» (c : Category) (base : String) : String := base ++ "." ++ c.name

end Category

namespace Document

def names (d : Document) : Category → List String
  | .requests => d.requests.map (·.method)
  | .notifications => d.notifications.map (·.method)
  | .structs => d.structTypes.map (·.name)
  | .enums => d.enumTypes.map (·.name)

def count (d : Document) (c : Category) : Nat := (d.names c).length

def size (d : Document) : Nat := (Category.all.map d.count).foldl (· + ·) 0

end Document

end RpcSharp.Schema
