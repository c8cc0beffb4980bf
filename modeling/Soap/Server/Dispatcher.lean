import Soap.Envelope.Encoder
import Soap.Http
import Soap.Server.Error
import Soap.Server.Handler
import Soap.Wsdl

/-!
# Dispatching requests

A request for a path is decoded, checked, routed to an operation of the port at that path, handed to
the operation's handler and answered with the encoded result. An operation without a handler is
answered with an empty body.

What a dispatch does besides computing its reply is recorded in the order in which it happens
(`Traced.activities`): credentials that are checked, handlers that are called.
-/

namespace Soap

/-- Something that happens while a request is answered. -/
inductive Activity where
  /-- A security block is checked. -/
  | authenticated (security : Value)
  /-- The handler of an operation is called. -/
  | invoked (operation : OperationKey) (args : Value)
  /-- A message goes to the log. -/
  | logged (kind text : String)
deriving Inhabited

/-- A result, and what happened on the way to it. -/
structure Traced (α : Type) where
  activities : List Activity
  result : α

namespace Traced

/-- A result to which nothing happened. -/
def quiet (a : α) : Traced α := { activities := [], result := a }

def after (earlier : List Activity) (t : Traced α) : Traced α :=
  { t with activities := earlier ++ t.activities }

end Traced

/-- A port that is reachable at some path. -/
structure BoundPort where
  service : String
  port : String
  binding : String
deriving DecidableEq, Repr

/-- Strip one slash from the end of a path. -/
def normalizePath (path : String) : String :=
  ((Text.beforeTail? ['/'] path.toList).map String.ofList).getD path

/-- The path of a port's location. -/
def locationPath (location : String) : String :=
  match Url.parse? location with
  | some u => String.ofList u.path
  | none => HttpRequest.pathOf location

/-- What is needed to answer requests: a description, handlers, and a check of credentials. -/
structure Dispatcher where
  wsdl : Wsdl
  handlers : HandlerRegistry := []
  authenticator : Option (Value → Bool) := none

namespace Dispatcher

def definitions (d : Dispatcher) : Definitions := d.wsdl.definitions

/-! ### Paths -/

/-- The ports with a location, in the order of declaration, each with its path. -/
def locatedPorts (definitions : Definitions) : List (String × BoundPort) :=
  definitions.services.flatMap fun (serviceName, service) =>
    service.ports.filterMap fun (portName, port) =>
      port.location.map fun location =>
        (normalizePath (locationPath location),
          { service := serviceName, port := portName, binding := port.binding })

/-- The ports by path; of two at one path the later counts. -/
def ports (d : Dispatcher) : OrderedMap String BoundPort :=
  OrderedMap.ofList (locatedPorts d.definitions)

def portFor? (d : Dispatcher) (path : String) : Option BoundPort :=
  d.ports.get? (normalizePath path)

/-! ### Routing -/

/-- Where a request goes: the binding, the operation, the name of the answer's element if there is
to be one, and the arguments. -/
structure Route where
  binding : Binding
  operation : OperationKey
  output : Option String
  args : Value

/-- The operation that a body element asks for, and the name of the answer's element. -/
def methodFor (binding : Binding) (element : String) :
    Except ServerError (String × Option String) :=
  match binding.topElements? with
  | none => .ok (element, some (element ++ "Response"))
  | some tops =>
    match tops.get? element with
    | some top => .ok (top.method, top.output)
    | none => .error (.unknownElement element)

/-- Where a request to `path` goes. -/
def route (d : Dispatcher) (path : String) (request : Envelope) : Except ServerError Route := do
  let bound ← (d.portFor? path).getDM (throw (.unknownPath path))
  let binding ← (d.definitions.bindings.get? bound.binding).getDM
    (throw (.unknownBinding bound.binding))
  let (element, args) ← request.bodyElement?.getDM (throw .emptyBody)
  let (method, output) ← methodFor binding element
  return {
    binding
    operation := { service := bound.service, port := bound.port, operation := method }
    output
    args }

/-! ### Answering -/

def encodeResult (definitions : Definitions) (route : Route) (output : String) (result : Value) :
    List Xml.Markup × NamespaceTable :=
  let table := NamespaceTable.ofDeclarations definitions.namespaces
  match route.binding.style with
  | .rpc => encodeCall table output definitions.targetNamespace result
  | .document =>
    let method := route.binding.methods.get? route.operation.operation
    match (method.bind Operation.output).bind Message.element? with
    | some ref => encodeDocument definitions.schemas table output ref.decl result
    | none => encodeCall table output none result

def encodeReply (definitions : Definitions) (route : Route) (result : Value) : String :=
  match route.output with
  | some output =>
    let (content, table) := encodeResult definitions route output result
    Envelope.render (Xml.Markup.renderAll content) table none
  | none => Envelope.render "" (.ofDeclarations definitions.namespaces) none

/-- Call the handler of a route, if there is one. -/
def invoke (d : Dispatcher) (route : Route) : Traced (Except ServerError String) :=
  match d.handlers.get? route.operation with
  | none => .quiet (.ok (Envelope.render "" .empty none))
  | some handler =>
    { activities := [.invoked route.operation route.args]
      result :=
        match (handler route.args).answer? with
        | some result => .ok (encodeReply d.definitions route result)
        | none => .error (.handler "handler finished without a result") }

def authenticate (d : Dispatcher) (request : Envelope) : Traced (Except AuthError Unit) :=
  match d.authenticator with
  | none => .quiet (.ok ())
  | some accepts =>
    match request.security? with
    | none => .quiet (.error .missingSecurityHeader)
    | some security =>
      { activities := [.authenticated security]
        result := if accepts security then .ok () else .error .invalidCredentials }

/-- Route and answer a request whose credentials were accepted. -/
def answer (d : Dispatcher) (path : String) (request : Envelope) :
    Traced (Except ServerError String) :=
  match d.route path request with
  | .error e => .quiet (.error e)
  | .ok route => d.invoke route

/-- Answer the request envelope `text` that was sent to `path`. -/
def dispatch (d : Dispatcher) (path text : String) : Traced (Except ServerError String) :=
  match Envelope.decode (some d.definitions) text with
  | .error e => .quiet (.error (.decode e))
  | .ok request =>
    let checked := d.authenticate request
    match checked.result with
    | .error e => { activities := checked.activities, result := .error (.auth e) }
    | .ok () => (d.answer path request).after checked.activities

def summarize (d : Dispatcher) : String :=
  "Dispatcher \x7b registry: " ++ d.handlers.summarize ++ ", authenticator: " ++
    (if d.authenticator.isSome then "true" else "false") ++ ", .. \x7d"

end Dispatcher

end Soap
