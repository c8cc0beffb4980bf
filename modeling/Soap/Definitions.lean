import Soap.Definitions.Declaration
import Soap.Schema.Description

/-!
# Definitions

A description with its references resolved: what the encoder, the decoder, the server and the client
consult. Bindings name their port type and carry its operations with the binding's settings applied;
a document-style binding routes by the element in the body (`Binding.topElements?`).

`Definitions.findMessage?` gives the message that a body element carries: by the message's name, by
its element, or by the naming convention for remote calls.
-/

namespace Soap

structure ElementRef where
  decl : ElementDecl
  /-- The prefix in the message's reference. -/
  qualifier : Option String
  space : Option String
deriving Repr

/-- A part of a message for a remote call. -/
structure Part where
  typeRef : String
  /-- The namespace of the type, if a schema is registered for it. -/
  space : Option String
deriving DecidableEq, Repr

/-- What a message carries. -/
inductive MessageBody where
  /-- One element of a schema. -/
  | element (ref : ElementRef)
  /-- The parameters or results of a remote call. -/
  | parts (parts : List (String × Part))
  /-- An element that no schema declares. -/
  | unresolved (reference : String)
deriving Repr

structure Message where
  name : String
  body : MessageBody
deriving Repr

namespace Message

def element? (m : Message) : Option ElementRef :=
  match m.body with
  | .element ref => some ref
  | .parts _ | .unresolved _ => none

/-- The name of the body element that carries the message. -/
def topName (m : Message) : String :=
  match m.element? with
  | some ref => ref.decl.name
  | none => m.name

end Message

structure Operation where
  name : String
  style : Style
  soapAction : String
  input : Option Message
  output : Option Message
  inputBody : Option BodySettings
  outputBody : Option BodySettings
  documentation : Option String
deriving Repr

structure PortType where
  name : String
  operations : OrderedMap String Operation
deriving Repr

/-- Where a body element is routed. -/
structure TopElement where
  method : String
  /-- The name of the element that carries the answer. -/
  output : Option String
deriving DecidableEq, Repr

structure Binding where
  name : String
  transport : String
  style : Style
  portType : String
  /-- The operations of the port type, with the binding's settings. -/
  methods : OrderedMap String Operation
deriving Repr

/-- The methods by the body element of their input; only for document style. Of two methods with the
same element the later counts. -/
def Binding.topElements? (b : Binding) : Option (OrderedMap String TopElement) :=
  match b.style with
  | .rpc => none
  | .document =>
    some (OrderedMap.ofList (b.methods.filterMap fun (name, method) =>
      method.input.map fun input =>
        (input.topName, { method := name, output := method.output.map Message.topName })))

structure Port where
  name : String
  location : Option String
  binding : String
deriving DecidableEq, Repr

structure Service where
  name : String
  ports : OrderedMap String Port
  documentation : Option String
deriving DecidableEq, Repr

/-- A description, resolved. -/
structure Definitions where
  name : Option String
  targetNamespace : Option String
  namespaces : OrderedMap String String
  schemas : SchemaRegistry
  messages : OrderedMap String Message
  portTypes : OrderedMap String PortType
  bindings : OrderedMap String Binding
  services : OrderedMap String Service
deriving Repr

namespace Definitions

/-! ### Messages -/

/-- The messages that carry elements, by the names of these; of two for one element the later
counts. -/
def aliases (d : Definitions) : OrderedMap String String :=
  OrderedMap.ofList (d.messages.filterMap fun (name, m) => m.element?.map fun ref => (ref.decl.name, name))

/-- The message of this name, or the one that carries the element of this name. -/
def message? (d : Definitions) (name : String) : Option Message :=
  d.messages.get? name <|> (d.aliases.get? name).bind d.messages.get?

def withoutEnding? (ending name : String) : Option String :=
  (Text.beforeTail? ending.toList name.toList).map String.ofList

/-- The operation that a body element stands for by convention, and whether the element carries its
answer. -/
def conventionalOperation (element : String) : String × Bool :=
  match withoutEnding? "Response" element with
  | some name => (name, true)
  | none => ((withoutEnding? "Request" element <|> withoutEnding? "Solicit" element).getD element, false)

/-- The message of the conventional operation, which is one of the first port type. -/
def conventionalMessage? (d : Definitions) (element : String) : Option Message := do
  let (_, portType) ← d.portTypes.head?
  let (name, isAnswer) := conventionalOperation element
  let operation ← portType.operations.get? name
  if isAnswer then operation.output else operation.input

def findMessage? (d : Definitions) (element : String) : Option Message :=
  d.message? element <|> d.conventionalMessage? element

/-! ### Namespaces -/

def prefixOf? (d : Definitions) (uri : String) : Option String :=
  (d.namespaces.find? fun (name, u) => name != "" && u == uri).map Prod.fst

/-! ### Shapes -/

def describeMessage (d : Definitions) (m : Message) : Description :=
  match m.body with
  | .element ref => (d.schemas.describeElement ref.decl).2
  | .parts parts =>
    .fields (parts.map fun (name, part) => (name, d.schemas.describeType part.space part.typeRef))
  | .unresolved _ => .absent

end Definitions

structure OperationDescription where
  input : Description
  output : Description
deriving Repr

namespace Definitions

def describeOperation (d : Definitions) (op : Operation) : OperationDescription :=
  let shape (m? : Option Message) : Description := (m?.map d.describeMessage).getD .absent
  { input := shape op.input, output := shape op.output }

/-- The shapes of all operations, by service, port and name. -/
def describe (d : Definitions) :
    OrderedMap String (OrderedMap String (OrderedMap String OperationDescription)) :=
  d.services.mapValues fun service =>
    service.ports.filterMap fun (name, port) =>
      (d.bindings.get? port.binding).map fun binding =>
        (name, binding.methods.mapValues d.describeOperation)

end Definitions

end Soap
