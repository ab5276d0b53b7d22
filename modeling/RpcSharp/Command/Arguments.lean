/-! The arguments of a run. -/

namespace RpcSharp.Command

structure Generate where
  schema : String
  output : String
  config : Option String := none
  «namespace» : Option String := none
  parallel : Bool := false
  logLevel : Option String := none
deriving DecidableEq, Repr

inductive Invocation
  | generate (options : Generate)
  | check (schema : String)
  | version
  | help
  | misuse
deriving DecidableEq, Repr

/-- What follows an option. A path is not empty. -/
inductive Operand
  | path
  | text
  | nothing
deriving DecidableEq, Repr

structure Switch where
  long : String
  short : Option Char
  operand : Operand
deriving DecidableEq, Repr

/-- What an argument that is no operand means. -/
inductive Meaning
  | switch (s : Switch)
  | attached (s : Switch) (operand : String)
  | help
  | unknown
deriving DecidableEq, Repr

/-- An option with its long name, and with its operand after an equals sign. -/
def meaningOfLong (switches : List Switch) (s : List Char) : Meaning :=
  let name := String.ofList (s.takeWhile (· != '='))
  let operand := (s.dropWhile (· != '=')).tail?.map String.ofList
  match switches.find? (·.long == name), operand with
  | some switch, none => .switch switch
  | some switch, some operand =>
    if switch.operand = .nothing then .unknown else .attached switch operand
  | none, none => if name = "help" then .help else .unknown
  | none, some _ => .unknown

/-- An option with its letter, and with its operand right after it or after an equals sign. -/
def meaningOfShort (switches : List Switch) (letter : Char) (rest : List Char) : Meaning :=
  match switches.find? (·.short == some letter), rest with
  | some switch, [] => .switch switch
  | some switch, '=' :: operand | some switch, operand => .attached switch (String.ofList operand)
  | none, _ => if letter = 'h' then .help else .unknown

def meaning (switches : List Switch) (argument : String) : Meaning :=
  match argument.toList with
  | '-' :: '-' :: s => meaningOfLong switches s
  | '-' :: letter :: rest => meaningOfShort switches letter rest
  | _ => .unknown

/-- An operand may be a dash, but not start with one. -/
def looksLikeOption (s : String) : Bool := s.toList.head? == some '-' && s != "-"

/-- The options that are given, each with its operand. -/
abbrev Given := List (String × String)

inductive Parsed
  | options (given : Given)
  | help
  | misuse
deriving DecidableEq, Repr

/-- Adds an option, which is given at most once. -/
def give (given : Given) (s : Switch) (operand : String) : Option Given :=
  if (given.lookup s.long).isSome || (s.operand = .path && operand = "") then none
  else some ((s.long, operand) :: given)

/-- Reads options. Two dashes may end them, with nothing after. -/
def parseOptions (switches : List Switch) (given : Given) : List String → Parsed
  | [] | ["--"] => .options given
  | argument :: rest =>
    match meaning switches argument with
    | .help => .help
    | .unknown => .misuse
    | .attached switch operand =>
      match give given switch operand with
      | some given => parseOptions switches given rest
      | none => .misuse
    | .switch switch =>
      if switch.operand = .nothing then
        match give given switch "" with
        | some given => parseOptions switches given rest
        | none => .misuse
      else
        match rest with
        | [] => .misuse
        | operand :: rest =>
          if looksLikeOption operand then .misuse
          else
            match give given switch operand with
            | some given => parseOptions switches given rest
            | none => .misuse

def schemaSwitch : Switch := ⟨"schema", some 's', .path⟩

def generateSwitches : List Switch :=
  [schemaSwitch, ⟨"output", some 'o', .path⟩, ⟨"config", some 'c', .path⟩,
   ⟨"namespace", some 'n', .text⟩, ⟨"parallel", none, .nothing⟩, ⟨"log-level", none, .text⟩]

def Given.generate? (given : Given) : Option Generate := do
  return {
    schema := ← given.lookup "schema"
    output := ← given.lookup "output"
    config := given.lookup "config"
    «namespace» := given.lookup "namespace"
    parallel := (given.lookup "parallel").isSome
    logLevel := given.lookup "log-level" }

def Parsed.invocation (p : Parsed) (complete : Given → Option Invocation) : Invocation :=
  match p with
  | .options given => (complete given).getD .misuse
  | .help => .help
  | .misuse => .misuse

def Invocation.ofArguments : List String → Invocation
  | "generate" :: rest =>
    (parseOptions generateSwitches [] rest).invocation fun g => g.generate?.map .generate
  | "check" :: rest =>
    (parseOptions [schemaSwitch] [] rest).invocation fun g => (g.lookup "schema").map .check
  | ["help"] | ["help", "generate"] | ["help", "check"] | ["help", "help"] => .help
  | "--version" :: _ => .version
  | "--help" :: _ => .help
  | argument :: _ =>
    match argument.toList with
    | '-' :: 'V' :: _ => .version
    | '-' :: 'h' :: _ => .help
    | _ => .misuse
  | [] => .misuse

end RpcSharp.Command
