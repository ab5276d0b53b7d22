import RpcSharp.Text.Letter
import RpcSharp.Toml.Reader

/-! The settings of a run, and what a text sets of them. A text without any keeps what is preset. -/

namespace RpcSharp.Config

open RpcSharp.Text RpcSharp.Toml

/-- How much a run tells about itself. -/
inductive LogLevel
  | trace
  | debug
  | info
  | warn
  | error
  | off
deriving DecidableEq, Repr

namespace LogLevel

def name : LogLevel → String
  | .trace => "trace"
  | .debug => "debug"
  | .info => "info"
  | .warn => "warn"
  | .error => "error"
  | .off => "off"

/-- The level as messages are marked with it. -/
def label : LogLevel → String
  | .trace => "TRACE"
  | .debug => "DEBUG"
  | .info => "INFO"
  | .warn => "WARN"
  | .error => "ERROR"
  | .off => "OFF"

def rank : LogLevel → Nat
  | .trace => 0
  | .debug => 1
  | .info => 2
  | .warn => 3
  | .error => 4
  | .off => 5

/-- A level as it is looked up: without white space around it and in lower case. -/
def normalize (s : String) : String :=
  String.ofList ((Text.trim s.toList).map Char.toLower)

def ofNormal? : String → Option LogLevel
  | "trace" => some .trace
  | "debug" => some .debug
  | "info" => some .info
  | "warn" | "warning" => some .warn
  | "error" => some .error
  | "off" => some .off
  | _ => none

/-- The level of that name, or the name that is none. -/
def parse (s : String) : Except String LogLevel :=
  match ofNormal? (normalize s) with
  | some level => .ok level
  | none => .error (normalize s)

end LogLevel

structure Settings where
  /-- The namespace above those of the categories. -/
  baseNamespace : String := "ButlerdSharp.Protocol"
  /-- One level of indentation. -/
  indent : String := "\t"
  extraUsings : List String := []
  parallel : Bool := false
  logLevel : String := "info"
deriving DecidableEq, Repr

inductive Fault
  | emptyNamespace
  | badNamespace (name : String)
  | badIndent
  | unknownLevel (name : String)
  | notToml
deriving DecidableEq, Repr

def Fault.message (f : Fault) : String :=
  "configuration error: " ++
    match f with
    | .emptyNamespace => "base_namespace cannot be empty"
    | .badNamespace name => "base_namespace is not a valid namespace: " ++ name
    | .badIndent => "indent must be one or more spaces or tabs"
    | .unknownLevel name => "unknown log level: " ++ name
    | .notToml => "TOML parse error"

def isNamespaceSegment : List Char → Bool
  | [] => false
  | c :: rest => (isAlphabetic c || c == '_') && rest.all fun c => isAlphanumeric c || c == '_'

def isNamespace (s : List Char) : Bool := (splitWhere (· == '.') s).all isNamespaceSegment

def isIndent (s : List Char) : Bool := !s.isEmpty && s.all fun c => c == ' ' || c == '\t'

/-- The imports of every unit, before those of the schema's own types. -/
def builtinUsings : List String :=
  ["System.Runtime.Serialization", "System.Collections.Generic", "System.Threading.Tasks",
   "Newtonsoft.Json", "Newtonsoft.Json.Converters", "StreamJsonRpc"]

namespace Settings

def level (s : Settings) : Except Fault LogLevel :=
  (LogLevel.parse s.logLevel).mapError .unknownLevel

def validate (s : Settings) : Except Fault Settings :=
  if s.baseNamespace = "" then .error .emptyNamespace
  else if !isNamespace s.baseNamespace.toList then .error (.badNamespace s.baseNamespace)
  else if !isIndent s.indent.toList then .error .badIndent
  else s.level.map fun _ => s

/-- All imports of a unit. An extra one that is there already is not repeated. -/
def usings (s : Settings) : List String :=
  s.extraUsings.foldl (fun all extra => if all.contains extra then all else all ++ [extra])
    (builtinUsings ++ [s.baseNamespace ++ ".Structs", s.baseNamespace ++ ".Enums"])

end Settings

/-! Settings from a text -/

def textOf? : Value → Option String
  | .text s => some s
  | _ => none

def flagOf? : Value → Option Bool
  | .bool b => some b
  | _ => none

def textsOf? : Value → Option (List String)
  | .list items => items.mapM textOf?
  | .tables elements => if elements.isEmpty then some [] else none
  | _ => none

/-- The value of a key, if it is of the right kind or left out. -/
def entry {α : Type} (t : Table) (key : String) (read : Value → Option α) (preset : α) : Option α :=
  match t.get? key with
  | some v => read v
  | none => some preset

namespace Settings

/-- Keys that no setting has are passed over. -/
def ofTable? (t : Table) : Option Settings := do
  let preset : Settings := {}
  return {
    baseNamespace := ← entry t "base_namespace" textOf? preset.baseNamespace
    indent := ← entry t "indent" textOf? preset.indent
    extraUsings := ← entry t "extra_usings" textsOf? preset.extraUsings
    parallel := ← entry t "parallel" flagOf? preset.parallel
    logLevel := ← entry t "log_level" textOf? preset.logLevel }

def ofText (s : String) : Except Fault Settings :=
  if Text.allBlank s.toList then .ok {}
  else
    match (Toml.read? s).bind ofTable? with
    | some settings => settings.validate
    | none => .error .notToml

end Settings

end RpcSharp.Config
