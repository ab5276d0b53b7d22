import RpcSharp.Binding.Build
import RpcSharp.Code.Source
import RpcSharp.Config.Settings

/-! Compiling a document: a unit for each entry, or a diagnostic where an entry has none. -/

namespace RpcSharp.Binding

open RpcSharp.Code RpcSharp.Config RpcSharp.Schema

/-- A unit of generated source, in a file of its own. -/
structure UnitId where
  category : Category
  name : String
deriving DecidableEq, Repr

namespace UnitId

def fileName (u : UnitId) : String := u.name ++ ".cs"

/-- Joins two paths. One that starts at the root of all paths stands for itself. -/
def joinPath (directory path : String) : String :=
  if path.toList.head? == some '/' || directory = "" then path
  else if directory.toList.getLast? == some '/' then directory ++ path
  else directory ++ "/" ++ path

/-- Where the unit stands below the output directory. -/
def path (u : UnitId) : String := joinPath u.category.name u.fileName

def text (u : UnitId) : String := u.category.name ++ "/" ++ u.name

end UnitId

inductive Entry
  | request (r : Request)
  | notification (n : Notification)
  | structType (t : StructType)
  | enumType (t : EnumType)
deriving DecidableEq, Repr

def Entry.id : Entry → UnitId
  | .request r => ⟨.requests, r.method⟩
  | .notification n => ⟨.notifications, n.method⟩
  | .structType t => ⟨.structs, t.name⟩
  | .enumType t => ⟨.enums, t.name⟩

/-- All entries, by category and then in the order of the document. -/
def entries (d : Document) : List Entry :=
  d.requests.map .request ++ d.notifications.map .notification ++ d.structTypes.map .structType
    ++ d.enumTypes.map .enumType

def Entry.build (c : Context) : Entry → Except UnitFault TypeNode
  | .request r => buildRequest c r
  | .notification n => buildNotification c n
  | .structType t => buildStruct c t
  | .enumType t => .ok (buildEnum c t)

def context (d : Document) (s : Settings) : Context := .ofDocument d s.baseNamespace

/-- The source text of an entry, in the context of a document. -/
def compileEntry (d : Document) (s : Settings) (e : Entry) : Except UnitFault String := do
  unitSource s.indent s.usings (← e.build (context d s))

structure OutputUnit where
  id : UnitId
  source : String
deriving DecidableEq, Repr

structure Diagnostic where
  unit : UnitId
  fault : UnitFault
deriving DecidableEq, Repr

def Diagnostic.message (d : Diagnostic) : String := d.fault.message

def Diagnostic.text (d : Diagnostic) : String := d.unit.text ++ ": " ++ d.message

structure Report where
  units : List OutputUnit := []
  diagnostics : List Diagnostic := []
deriving DecidableEq, Repr

namespace Report

def isSuccess (r : Report) : Bool := r.diagnostics.isEmpty

def find? (r : Report) (category : Category) (name : String) : Option OutputUnit :=
  r.units.find? (·.id == ⟨category, name⟩)

def unitsIn (r : Report) (category : Category) : List OutputUnit :=
  r.units.filter (·.id.category == category)

/-- Adds what became of an entry. -/
def add (r : Report) : UnitId × Except UnitFault String → Report
  | (id, .ok source) => { r with units := r.units ++ [⟨id, source⟩] }
  | (id, .error fault) => { r with diagnostics := r.diagnostics ++ [⟨id, fault⟩] }

end Report

/-- Maps a list with a task for each of its elements, and waits for them in order. -/
def mapInTasks {α β : Type} (f : α → β) (as : List α) : List β :=
  (as.map fun a => Task.spawn fun _ => f a).map Task.get

theorem mapInTasks_eq_map {α β : Type} (f : α → β) (as : List α) : mapInTasks f as = as.map f := by
  simp [mapInTasks, Task.spawn]

/-- What becomes of each entry of a document. -/
def outcomes (d : Document) (s : Settings) : List (UnitId × Except UnitFault String) :=
  let outcome (e : Entry) := (e.id, compileEntry d s e)
  if s.parallel then mapInTasks outcome (entries d) else (entries d).map outcome

/- Whether the entries are compiled side by side or one by one, the outcomes are the same. -/
theorem outcomes_eq (d : Document) (s : Settings) :
    outcomes d s = (entries d).map fun e => (e.id, compileEntry d s e) := by
  unfold outcomes
  split
  · exact mapInTasks_eq_map _ _
  · rfl

def compile (d : Document) (s : Settings) : Report :=
  (outcomes d s).foldl Report.add {}

end RpcSharp.Binding
