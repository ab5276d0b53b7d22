import RpcSharp.Text.Basic

/-! A tree of files, and what reading and writing at a path do to it. -/

namespace RpcSharp.Files

/-- Why a file cannot be read or written. -/
inductive Fault
  | notFound
  | alreadyExists
  | notDirectory
  | isDirectory
  | nameTooLong
  /-- The bytes of a file are no text. -/
  | notText
  | other (description : String)
deriving DecidableEq, Repr

def Fault.message : Fault → String
  | .notFound => "No such file or directory (os error 2)"
  | .alreadyExists => "File exists (os error 17)"
  | .notDirectory => "Not a directory (os error 20)"
  | .isDirectory => "Is a directory (os error 21)"
  | .nameTooLong => "File name too long (os error 36)"
  | .notText => "stream did not contain valid UTF-8"
  | .other description => description

inductive Node
  | directory
  | file (content : List UInt8)
deriving DecidableEq, Repr

/-- The names from the root to a place in the tree. -/
abbrev Place := List String

structure Tree where
  nodes : List (Place × Node) := []
deriving DecidableEq, Repr

/-- A path as written: where it starts, its names, and whether it can only mean a directory. -/
structure Path where
  isAbsolute : Bool
  parts : List String
  isDirectory : Bool
deriving DecidableEq, Repr

def Path.ofText (s : String) : Path :=
  let pieces := Text.splitWhere (· == '/') s.toList
  { isAbsolute := s.toList.head? == some '/'
    parts := (pieces.map String.ofList).filter fun p => p != "" && p != "."
    isDirectory := pieces.getLast? == some [] || pieces.getLast? == some ['.'] }

/-- A path that is not absolute starts in the working directory. -/
def Path.start (here : Place) (p : Path) : Place := if p.isAbsolute then [] else here

def maxNameBytes : Nat := 255

/-- The directory above. Above the root there is only the root. -/
def parent (place : Place) : Place := place.dropLast

namespace Tree

/-- What is at a place. The root is always there. -/
def get? (t : Tree) (place : Place) : Option Node :=
  if place.isEmpty then some .directory else t.nodes.lookup place

def put (t : Tree) (place : Place) (node : Node) : Tree :=
  { t with nodes := (place, node) :: t.nodes.filter (·.1 != place) }

def remove (t : Tree) (place : Place) : Tree :=
  { t with nodes := t.nodes.filter fun e => !place.isPrefixOf e.1 }

/-- Goes from a place into one of the names in it, which must be in a directory. -/
def enter (t : Tree) (place : Place) (name : String) : Except Fault Place :=
  match t.get? place with
  | none => .error .notFound
  | some (.file _) => .error .notDirectory
  | some .directory =>
    if name = ".." then .ok (parent place)
    else if name.utf8ByteSize > maxNameBytes then .error .nameTooLong
    else .ok (place ++ [name])

/-- The place that a path means from a working directory. Nothing need be there, but the directories
on the way must. -/
def locate (t : Tree) (here : Place) (p : Path) : Except Fault Place := do
  let place ← p.parts.foldlM t.enter (p.start here)
  match t.get? place with
  | some (.file _) => if p.isDirectory then .error .notDirectory else .ok place
  | _ => .ok place

def read (t : Tree) (here : Place) (path : String) : Except Fault (List UInt8) :=
  if path = "" then .error .notFound
  else do
    match t.get? (← t.locate here (.ofText path)) with
    | some (.file content) => .ok content
    | some .directory => .error .isDirectory
    | none => .error .notFound

/-- Replaces a file as a whole, or makes it in a directory that is there. -/
def write (t : Tree) (here : Place) (path : String) (content : List UInt8) : Except Fault Tree :=
  if path = "" then .error .notFound
  else do
    let p := Path.ofText path
    let place ← t.locate here p
    if t.get? place = some .directory || p.isDirectory then .error .isDirectory
    else .ok (t.put place (.file content))

def makeDirectory (t : Tree) (here : Place) (p : Path) : Except Fault Tree := do
  let place ← t.locate here { p with isDirectory := false }
  match t.get? place with
  | some _ => .error .alreadyExists
  | none => .ok (t.put place .directory)

/-- Whether a path leads to a directory. -/
def isDirectory (t : Tree) (here : Place) (p : Path) : Bool :=
  match t.locate here p with
  | .ok place => t.get? place == some .directory
  | .error _ => false

/-- Makes the directory that the first `count` parts of a path name, and those above it that are
missing: tries from there upwards until one can be made or is there, then goes down again. -/
def makeDirectories (t : Tree) (here : Place) (p : Path) : Nat → Except Fault Tree
  | 0 => .ok t
  | count + 1 =>
    let part : Path := { p with parts := p.parts.take (count + 1), isDirectory := false }
    match t.makeDirectory here part with
    | .ok t => .ok t
    | .error .notFound => do
      let t ← makeDirectories t here p count
      match t.makeDirectory here part with
      | .error .alreadyExists => if t.isDirectory here part then .ok t else .error .alreadyExists
      | r => r
    | .error .alreadyExists => if t.isDirectory here part then .ok t else .error .alreadyExists
    | .error f => .error f

def makeDirectoriesAt (t : Tree) (here : Place) (path : String) : Except Fault Tree :=
  let p := Path.ofText path
  t.makeDirectories here p p.parts.length

end Tree

end RpcSharp.Files
