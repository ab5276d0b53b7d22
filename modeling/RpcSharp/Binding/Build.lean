import RpcSharp.Code.Tree
import RpcSharp.Schema.Document

/-! The declarations for the entries of a document. A method `A.B.C` becomes a class `C` in a
class `B` in a class `A` in a class for the category. All are partial, so that units which share
outer classes stand side by side. -/

namespace RpcSharp.Binding

open RpcSharp.Code RpcSharp.Schema RpcSharp.Text

/-- What the types of a document's fields may collide with, and where the units belong. -/
structure Context where
  base : String
  requests : Scope
  notifications : Scope
deriving DecidableEq, Repr

def Context.ofDocument (d : Document) (base : String) : Context where
  base := base
  requests := .ofMethods (d.names .requests) [Category.requests.name, "Request", "Response"]
    (d.names .enums)
  notifications := .ofMethods (d.names .notifications) [Category.notifications.name] (d.names .enums)

/-- The segments of a method: the last, and those around it from the outside in. -/
def splitMethod (method : String) : Except UnitFault (String × List String) :=
  let segments := splitWhere (· == '.') method.toList
  if segments.any allBlank then .error (.emptySegment method)
  else
    match segments.getLast? with
    | some leaf => .ok (String.ofList leaf, segments.dropLast.map String.ofList)
    | none => .error (.emptySegment method)

def idConstant (method : String) : Member :=
  .constant { name := "Id", type := "string", value := "\"" ++ method ++ "\"" }

def fieldProperty (scope : Scope) (f : Field) : Except UnitFault Member := do
  let type ← scope.fieldType f.type f.optional
  return .property ⟨f.name, type, f.doc⟩

def fieldProperties (scope : Scope) (fs : List Field) : Except UnitFault (List Member) :=
  fs.mapM (fieldProperty scope)

/-- Puts a class into one class for each outer name, the first outermost. -/
def enclose (isStatic : Bool) (outer : List String) (leaf : ClassNode) : ClassNode :=
  outer.foldr
    (fun name inner => {
      name := name, isStatic := isStatic, isPartial := true, members := [.nested (.ofClass inner)] })
    leaf

def nest (c : Context) (category : Category) (isStatic : Bool) (outer : List String)
    (leaf : ClassNode) : TypeNode :=
  let root := enclose isStatic (category.name :: outer) leaf
  .ofClass { root with «namespace» := some (category.namespace c.base) }

/-- Sends a request of the class around it. -/
def sendMethod (leaf : String) : Method where
  kind := .named "SendAsync" "Task<Response>"
  parameters := [⟨"jsonRpc", "JsonRpc"⟩]
  body := ["return jsonRpc.InvokeWithParameterObjectAsync<Response>(" ++ leaf ++ ".Id, this);"]

def buildRequest (c : Context) (r : Request) : Except UnitFault TypeNode := do
  let (leaf, outer) ← splitMethod r.method
  let params ← fieldProperties c.requests r.params
  let result ← fieldProperties c.requests r.result
  let request ← ClassOf.requireUnique
    { name := "Request", members := .method (sendMethod leaf) :: params }
  let response ← ClassOf.requireUnique { name := "Response", members := result }
  let content ← ClassOf.requireUnique {
    name := leaf, doc := r.doc, isStatic := true, isPartial := true
    members := [
      idConstant r.method,
      .nested (.ofClass (request.withJsonConstructor true)),
      .nested (.ofClass (response.withJsonConstructor false))] }
  return nest c .requests true outer content

def buildNotification (c : Context) (n : Notification) : Except UnitFault TypeNode := do
  let (leaf, outer) ← splitMethod n.method
  let params ← fieldProperties c.notifications n.params
  let content ← ClassOf.requireUnique {
    name := leaf, doc := n.doc, isPartial := true, members := idConstant n.method :: params }
  return nest c .notifications false outer (content.withJsonConstructor false)

def buildStruct (c : Context) (t : StructType) : Except UnitFault TypeNode := do
  let members ← fieldProperties {} t.fields
  let content ← ClassOf.requireUnique {
    name := t.name, «namespace» := some (Category.structs.namespace c.base), doc := t.doc
    members := members }
  return .ofClass (content.withJsonConstructor false)

/-- A value that an enumeration has beyond those that its schema lists. -/
structure Patch where
  enumName : String
  member : EnumMember
deriving DecidableEq, Repr

/-- A build that the caller may not see has an empty state. -/
def patches : List Patch :=
  [{ enumName := "BuildState"
     member := {
       name := "Unknown"
       value := "\"\""
       doc := "Unknown build state, presumably because you don\x27t have permissions to see it" } }]

/-- What to put before the values of an enumeration. -/
def patchesFor (enumName : String) : List Patch := patches.filter (·.enumName == enumName)

def buildEnum (c : Context) (t : EnumType) : TypeNode :=
  .ofEnum {
    name := t.name, «namespace» := some (Category.enums.namespace c.base), doc := t.doc
    members := (patchesFor t.name).map (.value ·.member)
      ++ t.values.map fun v => .value ⟨v.name, v.value, v.doc⟩ }

end RpcSharp.Binding
