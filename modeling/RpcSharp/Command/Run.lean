import RpcSharp.Binding.Report
import RpcSharp.Command.Arguments
import RpcSharp.Command.Host
import RpcSharp.Text.Printable

/-! Runs: what is read, written and said for the arguments given. -/

namespace RpcSharp.Command

open RpcSharp.Binding RpcSharp.Config RpcSharp.Schema

/-- Why a run did not succeed: what it was doing, and the causes from the nearest on. -/
structure Failure where
  context : String
  causes : List String := []
deriving DecidableEq, Repr

/-- A text of several lines below a margin. -/
def indentLines (margin : String) (text : String) : String :=
  ("\n" ++ margin).intercalate ((Text.splitWhere (· == '\n') text.toList).map String.ofList)

/-- A single cause stands below the context; several are numbered. -/
def Failure.text (f : Failure) : String :=
  "Error: " ++ f.context ++
    (match f.causes with
    | [] => ""
    | [cause] => "\n\nCaused by:\n    " ++ indentLines "    " cause
    | causes => "\n\nCaused by:" ++ String.join (causes.zipIdx.map fun (cause, i) =>
        let number := toString i
        "\n" ++ String.ofList (List.replicate (5 - number.length) ' ') ++ number ++ ": "
          ++ indentLines "       " cause))
    ++ "\n"

variable {m : Type → Type} [Monad m] [Host m]

abbrev Run (m : Type → Type) := ExceptT Failure m

/-- Says something that is at least as grave as the level of the run. -/
def log (level gravity : LogLevel) (text : String) : m Unit :=
  if level.rank ≤ gravity.rank then Host.complain (gravity.label ++ " " ++ text ++ "\n")
  else pure ()

/-- The settings of the file, if there is one, with those of the arguments over them. -/
def Generate.override (o : Generate) (s : Settings) : Settings :=
  { s with
    baseNamespace := o.namespace.getD s.baseNamespace
    parallel := s.parallel || o.parallel
    logLevel := o.logLevel.getD s.logLevel }

def Generate.settings (o : Generate) : Run m Settings := do
  let base ← match o.config with
    | none => pure {}
    | some path =>
      match ← loadSettings (m := m) path with
      | .ok s => pure s
      | .error e => throw ⟨"Failed to load config: " ++ path, e.causes Config.Fault.message⟩
  match (o.override base).validate with
  | .ok s => return s
  | .error fault => throw ⟨"Invalid configuration", [fault.message]⟩

def countsText (d : Document) : String :=
  "requests=" ++ toString (d.count .requests) ++ " notifications=" ++
    toString (d.count .notifications) ++ " struct_types=" ++ toString (d.count .structs) ++
    " enum_types=" ++ toString (d.count .enums)

def schema (level : LogLevel) (path : String) : Run m Document := do
  log (m := m) level .debug ("reading schema document path=" ++ path)
  match ← loadDocument (m := m) path with
  | .error e => throw ⟨"Failed to load schema: " ++ path, e.causes LoadFault.message⟩
  | .ok d =>
    log (m := m) level .debug ("schema document validated " ++ countsText d)
    return d

def logReport (level : LogLevel) (s : Settings) (d : Document) (r : Report) : m Unit := do
  (entries d).forM fun e => log level .debug ("Compiling unit unit=" ++ e.id.text)
  r.diagnostics.forM fun diagnostic =>
    log level .warn ("Unit failed to compile unit=" ++ diagnostic.unit.text ++ " error=" ++
      diagnostic.message)
  log level .info ("Schema compiled units=" ++ toString r.units.length ++ " diagnostics=" ++
    toString r.diagnostics.length ++ " parallel=" ++ toString s.parallel)

/-- Writes a unit into the directory of its category. -/
def writeUnit (level : LogLevel) (output : String) (u : OutputUnit) : Run m Unit := do
  let directory := UnitId.joinPath output u.id.category.name
  let path := UnitId.joinPath output u.id.path
  match ← (Host.makeDirectories directory : m _) with
  | .error fault =>
    throw ⟨"Failed to create directory: " ++ Text.quotedPath directory, [fault.message]⟩
  | .ok () => pure ()
  match ← (Host.write path u.source : m _) with
  | .error fault => throw ⟨"Failed to write " ++ Text.quotedPath path, [fault.message]⟩
  | .ok () => pure ()
  log (m := m) level .debug ("Wrote unit unit=" ++ u.id.text ++ " path=" ++ path)

/-- Units that compile are written even if others do not, but then the run fails. -/
def generate (o : Generate) : Run m Unit := do
  let s ← o.settings
  let level ← match s.level with
    | .ok level => pure level
    | .error fault => throw ⟨fault.message, []⟩
  let d ← schema level o.schema
  let r := compile d s
  logReport (m := m) level s d r
  r.units.forM (writeUnit level o.output)
  Host.print (m := m)
    ("✓ Wrote " ++ toString r.units.length ++ " units to " ++ o.output ++ "\n")
  r.diagnostics.forM fun diagnostic => Host.complain (m := m) ("✗ " ++ diagnostic.text ++ "\n")
  if !r.isSuccess then
    throw ⟨toString r.diagnostics.length ++ " unit(s) failed to compile", []⟩

def check (path : String) : Run m Unit := do
  Host.print (m := m) ("Checking schema: " ++ path ++ "\n")
  let d ← schema .warn path
  Host.print (m := m) ("✓ Requests: " ++ toString (d.count .requests) ++ "\n✓ Notifications: " ++
    toString (d.count .notifications) ++ "\n✓ Structs: " ++ toString (d.count .structs) ++
    "\n✓ Enums: " ++ toString (d.count .enums) ++ "\n\nSchema is valid!\n")

def helpText : String :=
  "C# binding generator for the butlerd protocol\n\n" ++
  "Usage: butlergen <COMMAND>\n\n" ++
  "Commands:\n" ++
  "  generate  Generate C# bindings from a schema document\n" ++
  "  check     Validate a schema document and print entry counts\n" ++
  "  help      Print this message or the help of the given subcommand(s)\n\n" ++
  "Options:\n" ++
  "  -h, --help     Print help\n" ++
  "  -V, --version  Print version\n"

/-- Runs to the end and says what went wrong. The result is the exit code. -/
def Run.conclude (run : Run m Unit) : m Nat := do
  match ← ExceptT.run run with
  | .ok () => return 0
  | .error failure =>
    Host.complain failure.text
    return 1

def run (arguments : List String) : m Nat :=
  match Invocation.ofArguments arguments with
  | .generate o => (generate o : Run m Unit).conclude
  | .check path => (check path : Run m Unit).conclude
  | .version => do
    Host.print "butlergen 0.3.0\n"
    return 0
  | .help => do
    Host.print helpText
    return 0
  | .misuse => return 2

end RpcSharp.Command
