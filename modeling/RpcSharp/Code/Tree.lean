import RpcSharp.Code.Identifier
import RpcSharp.Code.TypeName

/-! The declarations of a unit: classes and enumerations with their members. -/

namespace RpcSharp.Code

structure Constant where
  name : String
  type : String
  /-- The literal as it stands in the source. -/
  value : String
  doc : String := ""
deriving DecidableEq, Repr

/-- A property for a field, under the field's own name. -/
structure Property where
  name : String
  type : String
  doc : String := ""
deriving DecidableEq, Repr

structure Parameter where
  name : String
  type : String
deriving DecidableEq, Repr

inductive MethodKind
  | constructor
  | named (name returnType : String)
deriving DecidableEq, Repr

structure Method where
  kind : MethodKind
  parameters : List Parameter := []
  attributes : List String := []
  body : List String := []
  doc : String := ""
deriving DecidableEq, Repr

structure EnumMember where
  name : String
  /-- The literal of the schema: digits, or a text with its quotes. -/
  value : String
  doc : String := ""
deriving DecidableEq, Repr

/-- A member of a class in which types of kind `τ` may be nested. -/
inductive MemberOf (τ : Type)
  | nested (type : τ)
  | constant (c : Constant)
  | property (p : Property)
  | method (m : Method)
deriving Repr

inductive EnumMemberOf (τ : Type)
  | nested (type : τ)
  | value (v : EnumMember)
deriving Repr

structure ClassOf (τ : Type) where
  name : String
  «namespace» : Option String := none
  doc : String := ""
  isStatic : Bool := false
  isPartial : Bool := false
  members : List (MemberOf τ) := []
deriving Repr

structure EnumOf (τ : Type) where
  name : String
  «namespace» : Option String := none
  doc : String := ""
  members : List (EnumMemberOf τ) := []
deriving Repr

inductive TypeNode
  | ofClass (c : ClassOf TypeNode)
  | ofEnum (e : EnumOf TypeNode)
deriving Repr

abbrev ClassNode := ClassOf TypeNode
abbrev EnumNode := EnumOf TypeNode
abbrev Member := MemberOf TypeNode

namespace TypeNode

def name : TypeNode → String
  | .ofClass c => c.name
  | .ofEnum e => e.name

def «namespace» : TypeNode → Option String
  | .ofClass c => c.namespace
  | .ofEnum e => e.namespace

/-- What messages call a type that stands inside another. -/
def nestedKind : TypeNode → String
  | .ofClass _ => "nested class"
  | .ofEnum _ => "nested enum"

end TypeNode

def Property.displayName (p : Property) (enclosing : String) : String :=
  propertyName p.name enclosing

def Property.isOptional (p : Property) : Bool := isNullable p.type

def Parameter.isOptional (p : Parameter) : Bool := isNullable p.type

def Method.isConstructor (m : Method) : Bool := m.kind == .constructor

def EnumMember.isText (v : EnumMember) : Bool := v.value.toList.contains '"'

/-- Whether the values are told apart by texts and not by numbers. -/
def EnumOf.isText {τ : Type} (e : EnumOf τ) : Bool :=
  e.members.any fun
    | .value v => v.isText
    | .nested _ => false

/-- The name that a member declares in a class. A constructor declares none. -/
def MemberOf.name? (enclosing : String) : Member → Option String
  | .nested t => some t.name
  | .constant c => some c.name
  | .property p => some (p.displayName enclosing)
  | .method m =>
    match m.kind with
    | .constructor => none
    | .named name _ => some name

/-- The first element that also stands before itself, among others already seen. -/
def firstRepeated (seen : List String) : List String → Option String
  | [] => none
  | name :: rest => if seen.contains name then some name else firstRepeated (name :: seen) rest

section Sorting

variable {α : Type} (key : α → Bool)

/-- Puts an element before the first whose key is not less. -/
def insertByKey (a : α) : List α → List α
  | [] => [a]
  | b :: rest => if key a ≤ key b then a :: b :: rest else b :: insertByKey a rest

/-- Sorts by a key, false before true. Elements with the same key keep their order. -/
def sortByKey : List α → List α
  | [] => []
  | a :: rest => insertByKey key a (sortByKey rest)

end Sorting

def MemberOf.property? : Member → Option Property
  | .property p => some p
  | _ => none

def MemberOf.constructor? : Member → Option Method
  | .method m => if m.isConstructor then some m else none
  | _ => none

namespace ClassOf

def memberNames (c : ClassNode) : List String := c.members.filterMap (·.name? c.name)

def repeatedMember? (c : ClassNode) : Option String := firstRepeated [] c.memberNames

def properties (c : ClassNode) : List Property := c.members.filterMap (·.property?)

def constructor? (c : ClassNode) : Option Method := c.members.findSome? (·.constructor?)

/-- The constructor that sets every property. Parameters that may be left out come last. -/
def jsonConstructor (c : ClassNode) : Method where
  kind := .constructor
  parameters :=
    (sortByKey Property.isOptional c.properties).map fun p => ⟨parameterName p.name, p.type⟩
  attributes := ["[JsonConstructor]"]
  body := c.properties.map fun p =>
    "this." ++ p.displayName c.name ++ " = " ++ parameterName p.name ++ ";"

/-- Puts the constructor first, unless there is one already. A class without properties gets one
only if it always should. -/
def withJsonConstructor (c : ClassNode) (always : Bool) : ClassNode :=
  if c.constructor?.isSome || (c.properties.isEmpty && !always) then c
  else { c with members := .method c.jsonConstructor :: c.members }

def requireUnique (c : ClassNode) : Except UnitFault ClassNode :=
  match c.repeatedMember? with
  | some name => .error (.repeatedMember c.name name)
  | none => .ok c

end ClassOf

end RpcSharp.Code
