import Soap.Document.Tree
import Soap.Scalar
import Soap.Schema.Registry

/-!
# Declarations of a description

What the sections of a description document say, with every reference still as it is written:
messages, port types, bindings and services by name, and the embedded schemas by namespace. A
document whose root is a `schema` declares just that schema.

Sections are read in document order, and the first required attribute that is missing is reported.
-/

namespace Soap

/-- A part of a message, by element or by type. -/
structure PartDecl where
  name : String
  element : Option String
  typeRef : Option String
deriving DecidableEq, Repr

structure MessageDecl where
  name : String
  parts : List PartDecl
  documentation : Option String
deriving DecidableEq, Repr

/-- How a message stands in the body of an envelope. -/
structure BodySettings where
  /-- `literal` or `encoded`. -/
  usage : Option String
  /-- Kept for encoded bodies only. -/
  encodingStyle : Option String
  space : Option String
deriving DecidableEq, Repr

/-- The input or the output of an operation: a port type names its message, a binding its
settings. -/
structure TransferDecl where
  message : Option String
  body : Option BodySettings
deriving DecidableEq, Repr

/-- An operation of a port type, or what a binding says about one. -/
structure OperationDecl where
  name : String
  input : Option TransferDecl
  output : Option TransferDecl
  style : Option Style
  soapAction : Option String
  documentation : Option String
deriving DecidableEq, Repr

structure PortTypeDecl where
  name : String
  operations : OrderedMap String OperationDecl
deriving DecidableEq, Repr

/-- A binding of a port type to envelopes over HTTP. -/
structure BindingDecl where
  name : String
  portType : String
  transport : String
  style : Option Style
  operations : OrderedMap String OperationDecl
deriving DecidableEq, Repr

structure PortDecl where
  name : String
  binding : String
  location : Option String
deriving DecidableEq, Repr

structure ServiceDecl where
  name : String
  ports : List PortDecl
  documentation : Option String
deriving DecidableEq, Repr

/-- The transports whose bindings are kept. -/
def httpTransports : List String :=
  ["http://schemas.xmlsoap.org/soap/http", "http://www.w3.org/2003/05/soap/bindings/HTTP/"]

/-- What one document declares. -/
structure Declarations where
  name : Option String := none
  targetNamespace : Option String := none
  /-- Every namespace declared anywhere in the document. -/
  namespaces : OrderedMap String String := []
  schemas : SchemaRegistry := {}
  messages : OrderedMap String MessageDecl := []
  portTypes : OrderedMap String PortTypeDecl := []
  bindings : OrderedMap String BindingDecl := []
  services : OrderedMap String ServiceDecl := []
  /-- Is the root a `schema`? -/
  isSchema : Bool := false
deriving Repr

/-! ### Reading the sections -/

namespace Node

def required (n : Node) (attr : String) : Except ParseError String :=
  match n.attr? attr with
  | some value => .ok value
  | none => .error (.missingAttribute n.name.render attr)

end Node

def MessageDecl.ofNode (node : Node) : Except ParseError MessageDecl := do
  let parts ← (node.childrenOf .part).mapM fun part => do
    return { name := ← part.required "name", element := part.attr? "element",
             typeRef := part.attr? "type" }
  return { name := ← node.required "name", parts, documentation := node.documentation? }

def BodySettings.ofNode (node : Node) : BodySettings :=
  let usage := node.attr? "use"
  { usage
    encodingStyle := if usage = some "encoded" then node.attr? "encodingStyle" else none
    space := node.attr? "namespace" }

def TransferDecl.ofNode (node : Node) : TransferDecl :=
  { message := node.attr? "message", body := (node.child? .soapBody).map .ofNode }

def OperationDecl.ofNode (node : Node) : Except ParseError OperationDecl := do
  let settings := node.child? .soapOperation
  return {
    name := ← node.required "name"
    input := (node.child? .input).map .ofNode
    output := (node.child? .output).map .ofNode
    style := (settings.bind (·.attr? "style")).bind Style.parse?
    soapAction := settings.bind (·.attr? "soapAction")
    documentation := node.documentation? }

def OperationDecl.allOf (node : Node) (kind : Kind) :
    Except ParseError (OrderedMap String OperationDecl) := do
  let operations ← (node.childrenOf kind).mapM OperationDecl.ofNode
  return OrderedMap.ofList (operations.map fun op => (op.name, op))

def PortTypeDecl.ofNode (node : Node) : Except ParseError PortTypeDecl := do
  return { name := ← node.required "name", operations := ← OperationDecl.allOf node .operation }

def BindingDecl.ofNode (node : Node) : Except ParseError BindingDecl := do
  let settings := node.child? .soapBinding
  return {
    name := ← node.required "name"
    portType := ← node.required "type"
    transport := (settings.bind (·.attr? "transport")).getD ""
    style := (settings.bind (·.attr? "style")).bind Style.parse?
    operations := ← OperationDecl.allOf node .bindingOperation }

def ServiceDecl.ofNode (node : Node) : Except ParseError ServiceDecl := do
  let ports ← (node.childrenOf .port).mapM fun port => do
    return {
      name := ← port.required "name"
      binding := ← port.required "binding"
      location := (port.child? .address).bind (·.attr? "location") }
  return { name := ← node.required "name", ports, documentation := node.documentation? }

namespace Declarations

/-- Add a schema to those of its namespace. -/
def addSchema (d : Declarations) (node : Node) : Declarations :=
  let doc := SchemaDocument.ofNode node
  { d with schemas := d.schemas.merge doc.key doc }

def addSection (d : Declarations) (node : Node) : Except ParseError Declarations :=
  match node.kind with
  | .types => return (node.childrenOf .schema).foldl addSchema d
  | .message => do
    let m ← MessageDecl.ofNode node
    return { d with messages := d.messages.insert m.name m }
  | .portType => do
    let p ← PortTypeDecl.ofNode node
    return { d with portTypes := d.portTypes.insert p.name p }
  | .binding => do
    let b ← BindingDecl.ofNode node
    if httpTransports.contains b.transport then
      return { d with bindings := d.bindings.insert b.name b }
    else return d
  | .service => do
    let s ← ServiceDecl.ofNode node
    return { d with services := d.services.insert s.name s }
  | _ => return d

def ofDocument (doc : Document) : Except ParseError Declarations :=
  let root := doc.root
  let start : Declarations :=
    { name := root.attr? "name"
      targetNamespace := root.attr? "targetNamespace"
      namespaces := doc.namespaces
      schemas := { namespaces := doc.namespaces }
      isSchema := root.kind == .schema }
  if root.kind = .schema then .ok (start.addSchema root)
  else root.children.foldlM addSection start

def parse (text : String) (strict : Bool) : Except ParseError Declarations := do
  ofDocument (← Document.parse text strict)

/-- The documents that the schemas want included. -/
def inclusions (d : Declarations) : List Inclusion :=
  d.schemas.schemas.values.flatMap (·.inclusions)

end Declarations

end Soap
