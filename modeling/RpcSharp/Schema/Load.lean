import RpcSharp.Schema.Reader

/-! Documents from texts and as texts: a JSON value of the right shape, with sound names. Each name is
also a file name, so within a category they are distinct, not empty, and stay in their directory. -/

namespace RpcSharp.Schema

inductive NameFault
  | empty (index : Nat)
  | notFileName (name : String)
  | repeated (name : String)
deriving DecidableEq, Repr

def NameFault.message (category : Category) : NameFault → String
  | .empty index => "empty " ++ category.noun ++ " name at index " ++ toString index
  | .notFileName name => category.noun ++ " name " ++ Text.quoted name ++ " is not a valid file name"
  | .repeated name => "duplicate " ++ category.noun ++ " name: " ++ name

/-- Characters that lead out of a directory. -/
def isPathChar (c : Char) : Bool := c == '/' || c == '\\' || c == ':' || c == '\x00'

def isFileName (name : String) : Bool :=
  !name.toList.any isPathChar && name != "." && name != ".."

/-- The first fault of names that follow those already seen. -/
def namesFault (seen : List String) : List String → Option NameFault
  | [] => none
  | name :: rest =>
    if name = "" then some (.empty seen.length)
    else if !isFileName name then some (.notFileName name)
    else if seen.contains name then some (.repeated name)
    else namesFault (name :: seen) rest

/-- The first category with a fault in its names, and the first of those. -/
def Document.nameFault (d : Document) : Option (Category × NameFault) :=
  Category.all.findSome? fun c => (namesFault [] (d.names c)).map (c, ·)

inductive LoadFault
  | malformed (m : Malformed)
  | badName (category : Category) (fault : NameFault)
deriving DecidableEq, Repr

def LoadFault.message : LoadFault → String
  | .malformed m => m.message
  | .badName category fault => fault.message category

namespace Document

def validate (d : Document) : Except LoadFault Document :=
  match d.nameFault with
  | some (category, fault) => .error (.badName category fault)
  | none => .ok d

def ofGlyphs (s : List Text.Glyph) : Except LoadFault Document :=
  match shape.read (Json.Value.ofText s) with
  | .ok d => d.validate
  | .error m => .error (.malformed m)

def ofText (s : String) : Except LoadFault Document := ofGlyphs (Text.glyphs s)

def ofBytes (bytes : List UInt8) : Except LoadFault Document := ofGlyphs (Text.decode bytes)

/-- What a text that is no file is called. -/
def describeText (s : String) : String := "<in-memory, " ++ toString s.utf8ByteSize ++ " bytes>"

end Document

/-! The text of a document, with every field of every record -/

open RpcSharp.Json

def printFields (fs : List Field) (print : Field → List Char) : List Char :=
  printObject [("fields", printList print fs)]

def Field.print (f : Field) : List Char :=
  printObject [("name", printText f.name), ("doc", printText f.doc), ("type", printText f.type),
    ("optional", printFlag f.optional)]

def Caller.print : Caller → List Char
  | .client => printText "client"
  | .server => printText "server"

def Request.print (r : Request) : List Char :=
  printObject [("method", printText r.method), ("doc", printText r.doc),
    ("caller", (r.caller.map Caller.print).getD printNull),
    ("params", printFields r.params Field.print), ("result", printFields r.result Field.print)]

def Notification.print (n : Notification) : List Char :=
  printObject [("method", printText n.method), ("doc", printText n.doc),
    ("params", printFields n.params Field.print)]

def StructType.print (t : StructType) : List Char :=
  printObject [("name", printText t.name), ("doc", printText t.doc),
    ("fields", printList Field.print t.fields)]

def EnumValue.print (e : EnumValue) : List Char :=
  printObject [("name", printText e.name), ("doc", printText e.doc), ("value", printText e.value)]

def EnumType.print (t : EnumType) : List Char :=
  printObject [("name", printText t.name), ("doc", printText t.doc),
    ("values", printList EnumValue.print t.values)]

def Document.print (d : Document) : List Char :=
  printObject [("requests", printList Request.print d.requests),
    ("notifications", printList Notification.print d.notifications),
    ("structTypes", printList StructType.print d.structTypes),
    ("enumTypes", printList EnumType.print d.enumTypes)]

def Document.toText (d : Document) : String := String.ofList d.print

end RpcSharp.Schema
