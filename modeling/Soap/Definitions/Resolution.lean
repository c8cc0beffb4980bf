import Soap.Definitions

/-!
# Resolving references

`Declarations.resolve` turns what a document declares into definitions, and lists the references
that lead nowhere. Nothing fails: a message whose element is unknown stays unresolved, an operation
whose message is unknown has none, a binding whose port type is unknown is left out, and so are its
ports.

The references are listed in the order in which they are met: those of messages, of port types, then
of bindings. Strict resolution accepts only what leaves the list empty (`Declarations.definitions`).
-/

namespace Soap

inductive ReferenceKind where
  | message
  | element
  | type
  | portType
deriving DecidableEq, Repr

def ReferenceKind.render : ReferenceKind → String
  | .message => "message"
  | .element => "element"
  | .type => "type"
  | .portType => "portType"

/-- A reference that leads nowhere. -/
structure Dangling where
  kind : ReferenceKind
  name : String
deriving DecidableEq, Repr

def Dangling.message (d : Dangling) : String := d.kind.render ++ " '" ++ d.name ++ "' not found"

namespace Declarations

/-! ### Messages -/

/-- The namespace that the prefix of a reference is bound to in the document. -/
def namespaceOf? (d : Declarations) (q : QName) : Option String :=
  d.namespaces.get? q.qualifierOrDefault

/-- The body of a message that refers to an element. -/
def resolveElement (d : Declarations) (reference : String) : MessageBody × List Dangling :=
  let q := QName.parse reference
  let space := d.namespaceOf? q
  match space.bind fun ns => d.schemas.element? ns q.localName with
  | some decl =>
    (.element { decl, qualifier := q.qualifier, space },
      ((d.schemas.missingReference decl).map fun name => ⟨.type, name⟩).toList)
  | none => (.unresolved reference, [⟨.element, reference⟩])

/-- Does a part's type resolve, and everything that its content refers to? -/
def partTypeResolves (d : Declarations) (space : Option String) (typeRef : String) : Bool :=
  match d.schemas.lookupType? space typeRef with
  | some (.complex ct, _) => ct.content.all fun decl => (d.schemas.missingReference decl).isNone
  | some (.simple _, _) => true
  | none => false

/-- A part of a remote call. Its type is looked for only in a namespace with a schema. -/
def resolvePart (d : Declarations) (part : PartDecl) : Part × List Dangling :=
  let typeRef := (part.typeRef <|> part.element).getD ""
  let space := (d.namespaceOf? (.parse typeRef)).filter d.schemas.contains
  ({ typeRef, space },
    if space.isSome && !d.partTypeResolves space typeRef then [⟨.type, typeRef⟩] else [])

/-- The body of a message: its first part decides whether it carries an element or parts. -/
def resolveBody (d : Declarations) (parts : List PartDecl) : MessageBody × List Dangling :=
  match parts.head?.bind PartDecl.element with
  | some reference => d.resolveElement reference
  | none =>
    let resolved := parts.map fun part => (part.name, d.resolvePart part)
    (.parts (OrderedMap.ofList (resolved.map fun (name, part, _) => (name, part))),
      resolved.flatMap fun (_, _, dangling) => dangling)

def resolveMessage (d : Declarations) (m : MessageDecl) : Message × List Dangling :=
  let (body, dangling) := d.resolveBody m.parts
  ({ name := m.name, body }, dangling)

/-! ### Operations -/

def resolveTransfer (messages : OrderedMap String Message) (transfer : Option TransferDecl) :
    Option Message × List Dangling :=
  match transfer.bind TransferDecl.message with
  | none => (none, [])
  | some reference =>
    match messages.get? (localPart reference) with
    | some m => (some m, [])
    | none => (none, [⟨.message, reference⟩])

def resolveOperation (messages : OrderedMap String Message) (op : OperationDecl) :
    Operation × List Dangling :=
  let (input, missingInput) := resolveTransfer messages op.input
  let (output, missingOutput) := resolveTransfer messages op.output
  ({ name := op.name
     style := op.style.getD default
     soapAction := op.soapAction.getD ""
     input
     output
     inputBody := none
     outputBody := none
     documentation := op.documentation },
    missingInput ++ missingOutput)

def resolvePortType (messages : OrderedMap String Message) (p : PortTypeDecl) :
    PortType × List Dangling :=
  let operations := p.operations.mapValues (resolveOperation messages)
  ({ name := p.name, operations := operations.mapValues Prod.fst },
    operations.flatMap fun (_, _, dangling) => dangling)

/-! ### Bindings and services -/

/-- An operation with what a binding of the given style says about it. -/
def applySettings (style : Style) (settings : Option OperationDecl) (op : Operation) : Operation :=
  match settings with
  | none => { op with style }
  | some s =>
    { op with
      style := s.style.getD style
      soapAction := s.soapAction.getD ""
      inputBody := s.input.bind TransferDecl.body
      outputBody := s.output.bind TransferDecl.body }

/-- A binding, if its port type is known. -/
def resolveBinding (portTypes : OrderedMap String PortType) (b : BindingDecl) :
    Option Binding × List Dangling :=
  match portTypes.get? (localPart b.portType) with
  | none => (none, [⟨.portType, b.portType⟩])
  | some portType =>
    let style := b.style.getD default
    (some {
      name := b.name
      transport := b.transport
      style
      portType := localPart b.portType
      methods := portType.operations.map fun (name, op) =>
        (name, applySettings style (b.operations.get? name) op) }, [])

/-- A service, with the ports whose bindings are known. -/
def resolveService (bindings : OrderedMap String Binding) (s : ServiceDecl) : Service :=
  let ports := s.ports.filter fun port => bindings.contains (localPart port.binding)
  { name := s.name
    ports := OrderedMap.ofList (ports.map fun port =>
      (port.name, { name := port.name, location := port.location, binding := localPart port.binding }))
    documentation := s.documentation }

/-! ### The whole -/

/-- The definitions that a document's declarations amount to, and the references that lead
nowhere. -/
def resolve (d : Declarations) : Definitions × List Dangling :=
  let messages := d.messages.mapValues d.resolveMessage
  let resolvedMessages := messages.mapValues Prod.fst
  let portTypes := d.portTypes.mapValues (resolvePortType resolvedMessages)
  let resolvedPortTypes := portTypes.mapValues Prod.fst
  let bindings := d.bindings.mapValues (resolveBinding resolvedPortTypes)
  let resolvedBindings := bindings.filterMap fun (name, b?, _) => b?.map fun b => (name, b)
  ({ name := d.name
     targetNamespace := d.targetNamespace
     namespaces := d.namespaces
     schemas := d.schemas
     messages := resolvedMessages
     portTypes := resolvedPortTypes
     bindings := resolvedBindings
     services := d.services.mapValues (resolveService resolvedBindings) },
    (messages.flatMap fun (_, _, dangling) => dangling) ++
      (portTypes.flatMap fun (_, _, dangling) => dangling) ++
      bindings.flatMap fun (_, _, dangling) => dangling)

/-- The definitions of a document. With `strictReferences`, the first reference that leads nowhere
is an error. -/
def definitions (d : Declarations) (strictReferences : Bool) : Except Dangling Definitions :=
  let (resolved, dangling) := d.resolve
  match strictReferences, dangling with
  | true, first :: _ => .error first
  | _, _ => .ok resolved

/-- Without strictness every document has definitions. -/
theorem definitions_lenient (d : Declarations) : d.definitions false = .ok d.resolve.1 := rfl

end Declarations

end Soap
