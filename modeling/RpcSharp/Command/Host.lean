import RpcSharp.Config.Settings
import RpcSharp.Files.Tree
import RpcSharp.Schema.Load

/-! What a run needs from around it: files to read and write, and two streams of text. Documents and
settings come from such files. -/

namespace RpcSharp.Command

open RpcSharp.Files

class Host (m : Type → Type) where
  read : String → m (Except Fault (List UInt8))
  write : String → String → m (Except Fault Unit)
  makeDirectories : String → m (Except Fault Unit)
  /-- Writes to the stream of results. -/
  print : String → m Unit
  /-- Writes to the stream of messages. -/
  complain : String → m Unit

/-- A host made of values: a tree of files, the working directory in it, and what has been written to
the streams. -/
structure World where
  directory : Place := []
  tree : Tree := {}
  output : String := ""
  messages : String := ""
deriving DecidableEq, Repr

namespace World

def read (w : World) (path : String) : Except Fault (List UInt8) := w.tree.read w.directory path

/-- Changes the files, seen from the working directory. Keeps the world if that fails. -/
def change (f : Tree → Place → Except Fault Tree) : StateM World (Except Fault Unit) := fun w =>
  match f w.tree w.directory with
  | .ok tree => (.ok (), { w with tree := tree })
  | .error fault => (.error fault, w)

end World

instance : Host (StateM World) where
  read path := fun w => (w.read path, w)
  write path text := World.change (·.write · path text.toUTF8.toList)
  makeDirectories path := World.change (·.makeDirectoriesAt · path)
  print text := modify fun w => { w with output := w.output ++ text }
  complain text := modify fun w => { w with messages := w.messages ++ text }

/-! Documents and settings -/

open RpcSharp.Config RpcSharp.Schema

/-- Why a file gives no value: it cannot be read, or its text is wrong. -/
inductive FileError (ε : Type)
  | unreadable (path : String) (fault : Files.Fault)
  | invalid (fault : ε)
deriving DecidableEq, Repr

namespace FileError

variable {ε : Type}

def message (text : ε → String) : FileError ε → String
  | .unreadable path fault => "failed to read " ++ path ++ ": " ++ fault.message
  | .invalid fault => text fault

/-- The message, and below it the reason why a file cannot be read. -/
def causes (text : ε → String) : FileError ε → List String
  | .unreadable path fault => [message text (.unreadable path fault), fault.message]
  | .invalid fault => [text fault]

end FileError

variable {m : Type → Type} [Monad m] [Host m]

def documentOfBytes (path : String) :
    Except Files.Fault (List UInt8) → Except (FileError LoadFault) Document
  | .error fault => .error (.unreadable path fault)
  | .ok bytes => (Document.ofBytes bytes).mapError .invalid

def loadDocument (path : String) : m (Except (FileError LoadFault) Document) := do
  return documentOfBytes path (← Host.read path)

def settingsOfBytes (path : String) :
    Except Files.Fault (List UInt8) → Except (FileError Config.Fault) Settings
  | .error fault => .error (.unreadable path fault)
  | .ok bytes =>
    match Text.textOf? bytes with
    | none => .error (.unreadable path .notText)
    | some text => (Settings.ofText text).mapError .invalid

def loadSettings (path : String) : m (Except (FileError Config.Fault) Settings) := do
  return settingsOfBytes path (← Host.read path)

end RpcSharp.Command
