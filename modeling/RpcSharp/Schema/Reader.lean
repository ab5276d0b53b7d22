import RpcSharp.Schema.Document
import RpcSharp.Schema.Malformed

/-! Documents from JSON values. Reading goes through a value from left to right and stops at the
first thing that is wrong, so of several faults the first in the text is reported. -/

namespace RpcSharp.Schema

open RpcSharp.Json

abbrev Read (α : Type) := Value → Except Malformed α

def fail {α : Type} (cause : Cause) : Except Malformed α := .error ⟨[], cause⟩

/-- Reads a part of a value: what is wrong there is wrong below that step. -/
def below {α : Type} (step : Step) : Except Malformed α → Except Malformed α
  | .ok a => .ok a
  | .error m => .error ⟨step :: m.path, m.cause⟩

/-- Why a value is not of the wanted kind. -/
def mismatch (wanted : Wanted) : Value → Cause
  | .null => .wrongKind .null wanted
  | .bool b => .wrongKind (.bool b) wanted
  | .number (.ok n) => .wrongKind (.number n) wanted
  | .number (.error f) => .fault f
  | .string (.ok s) => .wrongKind (.string s) wanted
  | .string (.error f) => .fault f
  | .list _ _ => .wrongKind .list wanted
  | .object _ _ => .wrongKind .object wanted
  | .bad faults => .fault faults.kept

def readText : Read String
  | .string (.ok s) => .ok s
  | v => fail (mismatch .text v)

def readFlag : Read Bool
  | .bool b => .ok b
  | v => fail (mismatch .flag v)

/-- What a list ends with, if not its bracket. -/
def listFault : ListEnd → Option Fault
  | .closed => none
  | .endOfText => some .endInList
  | .strayComma => some .trailingComma
  | .endAfterComma => some .endInValue
  | .missingComma => some .expectedListComma

def readItems {α : Type} (read : Read α) (ending : ListEnd) :
    Nat → List Value → Except Malformed (List α)
  | _, [] =>
    match listFault ending with
    | some f => fail (.fault f)
    | none => .ok []
  | i, v :: vs => do
    let a ← below (.index i) (read v)
    return a :: (← readItems read ending (i + 1) vs)

def readList {α : Type} (read : Read α) : Read (List α)
  | .list items ending => readItems read ending 0 items
  | v => fail (mismatch .list v)

/-- A list that may also be null. -/
def readListOrNull {α : Type} (read : Read α) : Read (List α)
  | .null => .ok []
  | v => readList read v

def callerNamed (key : Key) : Except Malformed Caller :=
  match key with
  | .error f => fail (.fault f)
  | .ok "client" => .ok .client
  | .ok "server" => .ok .server
  | .ok name => fail (.unknownCaller name)

def callerText : Caller → String
  | .client => "client"
  | .server => "server"

def readNothing : Read Unit
  | .null => .ok ()
  | v => fail (mismatch .nothing v)

/-- A caller written as an object with its name as the only key, and null as the value. -/
def callerEntry : List (Key × Value) → ObjectEnd → Except Malformed Caller
  | [], .closed => fail (.fault .expectedValue)
  | [], .endOfText => fail (.fault .endInValue)
  | [], .badKey faults => fail (.fault faults.kept)
  | [], .notKey t => fail (mismatch .callerName t.lead)
  | [], .endAfterKey key => do
    let _ ← callerNamed key
    fail (.fault .endInObject)
  | [], .missingColon key => do
    let _ ← callerNamed key
    fail (.fault .expectedColon)
  | [], _ => fail (.fault .expectedValue)
  | (key, v) :: more, ending => do
    let caller ← callerNamed key
    below (.key (callerText caller)) (readNothing v)
    match more, ending with
    | [], .closed => return caller
    | [], .endOfText => fail (.fault .endInObject)
    | _, _ => fail (.fault .expectedValue)

def readCaller : Read (Option Caller)
  | .null => .ok none
  | .string key => some <$> callerNamed key
  | .object entries ending => some <$> callerEntry entries ending
  | .bad faults => fail (.fault faults.named)
  | _ => fail (.fault .expectedValue)

/-- A field of a record: its key, whether it must be there, and what its value changes. -/
structure Slot (α : Type) where
  key : String
  required : Bool
  read : Read (α → α)

/-- A record, written as an object or as the list of its values in the order of the slots. -/
structure Shape (α : Type) where
  name : String
  blank : α
  slots : List (Slot α)

namespace Shape

variable {α : Type}

def slot? (s : Shape α) (key : String) : Option (Slot α) := s.slots.find? (·.key == key)

/-- The key of an entry. It may not be one that was read before. -/
def readKey (s : Shape α) (seen : List String) : Key → Except Malformed String
  | .error f => .error ⟨[.unknown], .fault f⟩
  | .ok key =>
    if (s.slot? key).isSome && seen.contains key then fail (.repeatedField key) else .ok key

/-- Which required slot is still empty. -/
def missing (s : Shape α) (seen : List String) : Option String :=
  (s.slots.find? fun slot => slot.required && !seen.contains slot.key).map (·.key)

def finish (s : Shape α) (seen : List String) (record : α) :
    ObjectEnd → Except Malformed α
  | .closed =>
    match s.missing seen with
    | some key => fail (.missingField key)
    | none => .ok record
  | .endOfText => .error ⟨[.unknown], .fault .endInObject⟩
  | .strayComma => .error ⟨[.unknown], .fault .trailingComma⟩
  | .endAfterComma => .error ⟨[.unknown], .fault .endInValue⟩
  | .missingComma => .error ⟨[.unknown], .fault .expectedObjectComma⟩
  | .notKey _ => .error ⟨[.unknown], .fault .expectedKey⟩
  | .badKey faults => .error ⟨[.unknown], .fault faults.kept⟩
  | .endAfterKey key => do
    let _ ← s.readKey seen key
    fail (.fault .endInObject)
  | .missingColon key => do
    let _ ← s.readKey seen key
    fail (.fault .expectedColon)

/-- Reads the entries of an object. An entry that has no slot is skipped. -/
def readEntries (s : Shape α) (ending : ObjectEnd) :
    List String → α → List (Key × Value) → Except Malformed α
  | seen, record, [] => s.finish seen record ending
  | seen, record, (key, v) :: rest => do
    let key ← s.readKey seen key
    match s.slot? key with
    | some slot =>
      let set ← below (.key key) (slot.read v)
      readEntries s ending (key :: seen) (set record) rest
    | none =>
      match v.skipFault with
      | some f => .error ⟨[.key key], .fault f⟩
      | none => readEntries s ending seen record rest

/-- What a list with a value for every slot ends with, if not its bracket. -/
def fullFault : ListEnd → Option Fault
  | .closed => none
  | .endOfText => some .endInList
  | .strayComma => some .trailingComma
  | .endAfterComma | .missingComma => some .trailingCharacters

/-- Reads the items of a list into the slots, of which `i` are filled. -/
def readSlots (s : Shape α) (ending : ListEnd) :
    Nat → α → List (Slot α) → List Value → Except Malformed α
  | _, record, [], [] =>
    match fullFault ending with
    | some f => fail (.fault f)
    | none => .ok record
  | _, _, [], _ :: _ => fail (.fault .trailingCharacters)
  | i, record, slots, [] =>
    match listFault ending with
    | some f => fail (.fault f)
    | none =>
      match slots.findIdx? (·.required) with
      | some k => fail (.shortList (i + k) s.name s.slots.length)
      | none => .ok record
  | i, record, slot :: slots, v :: vs => do
    let set ← below (.index i) (slot.read v)
    readSlots s ending (i + 1) (set record) slots vs

def read (s : Shape α) : Read α
  | .object entries ending => s.readEntries ending [] s.blank entries
  | .list items ending => s.readSlots ending 0 s.blank s.slots items
  | v => fail (mismatch (.record s.name) v)

end Shape

/-- A slot that must be filled. -/
def Slot.needed {α β : Type} (key : String) (read : Read β) (set : β → α → α) : Slot α :=
  ⟨key, true, fun v => set <$> read v⟩

/-- A slot that keeps its blank value where it is left out. -/
def Slot.optional {α β : Type} (key : String) (read : Read β) (set : β → α → α) : Slot α :=
  ⟨key, false, fun v => set <$> read v⟩

def Field.shape : Shape Field where
  name := "FieldSpec"
  blank := {}
  slots := [
    .needed "name" readText fun s f => { f with name := s },
    .optional "doc" readText fun s f => { f with doc := s },
    .needed "type" readText fun s f => { f with type := s },
    .optional "optional" readFlag fun b f => { f with optional := b }]

/-- The fields of a method's parameters or result stand in a record of their own. -/
def fieldsShape : Shape (List Field) where
  name := "StructSpec"
  blank := []
  slots := [.optional "fields" (readListOrNull Field.shape.read) fun fs _ => fs]

def Request.shape : Shape Request where
  name := "RequestSpec"
  blank := {}
  slots := [
    .needed "method" readText fun s r => { r with method := s },
    .optional "doc" readText fun s r => { r with doc := s },
    .optional "caller" readCaller fun c r => { r with caller := c },
    .optional "params" fieldsShape.read fun fs r => { r with params := fs },
    .optional "result" fieldsShape.read fun fs r => { r with result := fs }]

def Notification.shape : Shape Notification where
  name := "NotificationSpec"
  blank := {}
  slots := [
    .needed "method" readText fun s n => { n with method := s },
    .optional "doc" readText fun s n => { n with doc := s },
    .optional "params" fieldsShape.read fun fs n => { n with params := fs }]

def StructType.shape : Shape StructType where
  name := "StructTypeSpec"
  blank := {}
  slots := [
    .needed "name" readText fun s t => { t with name := s },
    .optional "doc" readText fun s t => { t with doc := s },
    .optional "fields" (readListOrNull Field.shape.read) fun fs t => { t with fields := fs }]

def EnumValue.shape : Shape EnumValue where
  name := "EnumValueSpec"
  blank := {}
  slots := [
    .needed "name" readText fun s e => { e with name := s },
    .optional "doc" readText fun s e => { e with doc := s },
    .needed "value" readText fun s e => { e with value := s }]

def EnumType.shape : Shape EnumType where
  name := "EnumTypeSpec"
  blank := {}
  slots := [
    .needed "name" readText fun s t => { t with name := s },
    .optional "doc" readText fun s t => { t with doc := s },
    .optional "values" (readListOrNull EnumValue.shape.read) fun vs t => { t with values := vs }]

def Document.shape : Shape Document where
  name := "SchemaDocument"
  blank := {}
  slots := [
    .needed "requests" (readList Request.shape.read) fun rs d => { d with requests := rs },
    .needed "notifications" (readList Notification.shape.read) fun ns d =>
      { d with notifications := ns },
    .needed "structTypes" (readList StructType.shape.read) fun ts d => { d with structTypes := ts },
    .needed "enumTypes" (readList EnumType.shape.read) fun ts d => { d with enumTypes := ts }]

end RpcSharp.Schema
