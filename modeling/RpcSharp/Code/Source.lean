import RpcSharp.Code.Tree

/-! The source text of declarations: lines and blocks of them in braces, and how they are written.
Members stand in their order, a blank line between two. -/

namespace RpcSharp.Code

open RpcSharp.Text

structure Writer where
  indent : String
  depth : Nat := 0
  buffer : String := ""
deriving DecidableEq, Repr

namespace Writer

def indentation (w : Writer) : String := String.join (List.replicate w.depth w.indent)

/-- Writes a line. An empty one has no indentation. -/
def line (w : Writer) (text : String) : Writer :=
  { w with buffer := w.buffer ++ (if text = "" then "" else w.indentation ++ text) ++ "\n" }

def lines (w : Writer) (texts : List String) : Writer := texts.foldl line w

/-- Writes a header and, in braces and one level deeper, what `body` writes. -/
def block {α : Type} (w : Writer) (header : String) (body : Writer → Writer × α) : Writer × α :=
  let start := (w.line header).line "\x7b"
  let (inner, result) := body { start with depth := start.depth + 1 }
  ({ inner with depth := inner.depth - 1 }.line "\x7d", result)

end Writer

def escapeXmlChar : Char → List Char
  | '&' => "&amp;".toList
  | '<' => "&lt;".toList
  | '>' => "&gt;".toList
  | c => [c]

/-- A text in which no character starts a tag or an entity. -/
def escapeXml (s : String) : String := String.ofList (s.toList.flatMap escapeXmlChar)

def docLine (line : List Char) : String :=
  match (trimEnd line).flatMap escapeXmlChar with
  | [] => "///"
  | text => String.ofList ("/// ".toList ++ text)

/-- The lines of a documentation comment. A blank text has none. -/
def docLines (doc : String) : List String :=
  if allBlank doc.toList then []
  else "/// <summary>" :: (Text.lines doc.toList).map docLine ++ ["/// </summary>"]

def usingLine (name : String) : String := "using " ++ name ++ ";"

/-- A piece of source text, or the place where it turned out that there is none. -/
inductive Layout
  | line (text : String)
  | block (header : String) (body : List Layout)
  | fail (fault : UnitFault)
deriving Repr

mutual

/-- Writes a piece. What is open at a fault is closed all the same. -/
def Layout.write (w : Writer) : Layout → Writer × Option UnitFault
  | .line text => (w.line text, none)
  | .block header body => w.block header fun w => writeAll w body
  | .fail fault => (w, some fault)

/-- Writes pieces up to the first fault. -/
def writeAll (w : Writer) : List Layout → Writer × Option UnitFault
  | [] => (w, none)
  | piece :: rest =>
    match piece.write w with
    | (w, none) => writeAll w rest
    | (w, some fault) => (w, some fault)

end

/-! Declarations -/

def docLayout (doc : String) : List Layout := (docLines doc).map .line

/-- A blank line between every two groups. -/
def separated : List (List Layout) → List Layout
  | [] => []
  | [group] => group
  | group :: rest => group ++ .line "" :: separated rest

def Constant.layout (c : Constant) : List Layout :=
  docLayout c.doc ++ [.line ("public const " ++ c.type ++ " " ++ c.name ++ " = " ++ c.value ++ ";")]

/-- A property whose name is not the field's says which field it is. -/
def Property.layout (p : Property) (enclosing : String) : List Layout :=
  let display := p.displayName enclosing
  docLayout p.doc
    ++ (if display = p.name then [] else [.line ("[JsonProperty(\"" ++ p.name ++ "\")]")])
    ++ [.line ("public " ++ p.type ++ " " ++ display ++ " \x7b get; set; \x7d")]

def Parameter.text (p : Parameter) : String :=
  p.type ++ " " ++ p.name ++ (if p.isOptional then " = null" else "")

def Method.header (m : Method) (enclosing : String) : String :=
  let parameters := ", ".intercalate (m.parameters.map (·.text))
  match m.kind with
  | .constructor => "public " ++ enclosing ++ "(" ++ parameters ++ ")"
  | .named name returnType => "public " ++ returnType ++ " " ++ name ++ "(" ++ parameters ++ ")"

def Method.layout (m : Method) (enclosing : String) : List Layout :=
  docLayout m.doc ++ m.attributes.map .line ++ [.block (m.header enclosing) (m.body.map .line)]

def EnumMember.layout (v : EnumMember) : List Layout :=
  let name := pascalCase v.name
  docLayout v.doc ++
    if v.isText then [.line ("[EnumMember(Value = " ++ v.value ++ ")]"), .line (name ++ ",")]
    else [.line (name ++ " = " ++ v.value ++ ",")]

def ClassOf.header {τ : Type} (c : ClassOf τ) : String :=
  "public" ++ (if c.isStatic then " static" else "") ++ (if c.isPartial then " partial" else "")
    ++ " class " ++ c.name

def enumMemberLayout (container : String) : EnumMemberOf TypeNode → List Layout
  | .value v => v.layout
  | .nested t => [.fail (.invalidMember ("enum " ++ container) t.nestedKind)]

/-- An enumeration holds no types. -/
def EnumOf.layout (e : EnumNode) : List Layout :=
  docLayout e.doc
    ++ (if e.isText then [.line "[JsonConverter(typeof(StringEnumConverter))]"] else [])
    ++ [.block ("public enum " ++ e.name) (separated (e.members.map (enumMemberLayout e.name)))]

mutual

def TypeNode.layout : TypeNode → List Layout
  | .ofClass ⟨name, space, doc, isStatic, isPartial, members⟩ =>
    let c : ClassNode := ⟨name, space, doc, isStatic, isPartial, members⟩
    docLayout doc ++ [.block c.header (separated (memberLayouts name members))]
  | .ofEnum e => EnumOf.layout e

def memberLayouts (enclosing : String) : List (MemberOf TypeNode) → List (List Layout)
  | [] => []
  | member :: rest => memberLayout enclosing member :: memberLayouts enclosing rest

def memberLayout (enclosing : String) : MemberOf TypeNode → List Layout
  | .nested t => t.layout
  | .constant c => c.layout
  | .property p => p.layout enclosing
  | .method m => m.layout enclosing

end

/-- A whole unit: the imports, then the root in its namespace. -/
def unitLayout (usings : List String) (space : String) (root : TypeNode) : List Layout :=
  usings.map (.line ∘ usingLine) ++ [.line "", .block ("namespace " ++ space) root.layout]

def unitSource (indent : String) (usings : List String) (root : TypeNode) :
    Except UnitFault String :=
  match root.namespace with
  | none => .error (.missingNamespace root.name)
  | some space =>
    match writeAll ⟨indent, 0, ""⟩ (unitLayout usings space root) with
    | (w, none) => .ok w.buffer
    | (_, some fault) => .error fault

end RpcSharp.Code
