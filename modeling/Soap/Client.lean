import Soap.Envelope.Decoder
import Soap.Envelope.Encoder
import Soap.Wsdl

/-!
# Clients

A client is bound to one port of a service. It writes the request of an operation
(`Client.request`), reads a response (`Client.parseResponse`) and does both around a transport
(`Client.call`). What a transport is does not matter here, nor in which monad it works.
-/

namespace Soap

/-- Why a call cannot be made or has no result. -/
inductive ClientError where
  | decode (e : DecodeError)
  /-- The response is a fault. -/
  | fault (f : Fault)
  | unknownService (name : String)
  | unknownPort (name : String)
  | unknownBinding (name : String)
  | unknownOperation (name : String)
  | noEndpoint (port : String)
  | noTransport
  | transport (reason : String)
  | status (code : Nat)
deriving Inhabited

def ClientError.message : ClientError → String
  | .decode e => "codec error: " ++ e.message
  | .fault f => "fault " ++ f.code ++ ": " ++ f.message
  | .unknownService name => "unknown service '" ++ name ++ "'"
  | .unknownPort name => "unknown port '" ++ name ++ "'"
  | .unknownBinding name => "unknown binding '" ++ name ++ "'"
  | .unknownOperation name => "unknown operation '" ++ name ++ "'"
  | .noEndpoint port => "no endpoint address for port '" ++ port ++ "'"
  | .noTransport => "no transport configured"
  | .transport reason => "transport error: " ++ reason
  | .status code => "unexpected HTTP status " ++ toString code

/-- A fault is an error of its own; any other error in a response is one of decoding. -/
def ClientError.ofDecodeError : DecodeError → ClientError
  | .fault f => .fault f
  | e => .decode e

structure SoapRequest where
  endpoint : String
  soapAction : String
  contentType : String
  body : String
deriving DecidableEq, Repr

def SoapRequest.envelopeType : String := "text/xml; charset=utf-8"

/-- What delivers a request and brings back the response. A fault is a response. -/
abbrev Transport (m : Type → Type) := SoapRequest → m (Except ClientError String)

/-- What a client is to be bound to. -/
structure ClientSettings where
  /-- The first service unless named. -/
  service : Option String := none
  /-- The first port unless named. -/
  port : Option String := none
  /-- An address in place of the port's. -/
  endpoint : Option String := none
  /-- The user name and the password sent with every request. -/
  security : Option (String × String) := none
deriving DecidableEq, Repr

/-- A client, bound to `port` of `service` by their names. -/
structure Client where
  wsdl : Wsdl
  service : String
  port : String
  endpoint : Option String
  security : Option (String × String)

namespace Client

/-- The entry of a map under a name, or the first one; what is missing is reported by name. -/
def pick (entries : OrderedMap String α) (missing : String → ClientError) :
    Option String → Except ClientError α
  | some name => (entries.get? name).getDM (throw (missing name))
  | none => entries.values.head?.getDM (throw (missing ""))

def build (wsdl : Wsdl) (settings : ClientSettings) : Except ClientError Client := do
  let service ← pick wsdl.definitions.services .unknownService settings.service
  let port ← pick service.ports .unknownPort settings.port
  let _ ← pick wsdl.definitions.bindings .unknownBinding (some port.binding)
  return {
    wsdl
    service := service.name
    port := port.name
    endpoint := settings.endpoint
    security := settings.security }

def definitions (c : Client) : Definitions := c.wsdl.definitions

/-- The port that the client is bound to, and the port's binding. -/
def bound (c : Client) : Except ClientError (Port × Binding) := do
  let port ← ((c.definitions.services.get? c.service).bind (·.ports.get? c.port)).getDM
    (throw (.unknownPort c.port))
  let binding ← (c.definitions.bindings.get? port.binding).getDM
    (throw (.unknownBinding port.binding))
  return (port, binding)

def encodeInput (definitions : Definitions) (style : Style) (operation : Operation) (args : Value) :
    List Xml.Markup × NamespaceTable :=
  let table := NamespaceTable.ofDeclarations definitions.namespaces
  match style with
  | .rpc =>
    let space := operation.inputBody.bind BodySettings.space <|> definitions.targetNamespace
    encodeCall table operation.name space args
  | .document =>
    match operation.input.bind Message.element? with
    | some ref => encodeDocument definitions.schemas table ref.decl.name ref.decl args
    | none => encodeCall table operation.name none args

def request (c : Client) (method : String) (args : Value) : Except ClientError SoapRequest := do
  let (port, binding) ← c.bound
  let operation ← (binding.methods.get? method).getDM (throw (.unknownOperation method))
  let endpoint ← (c.endpoint <|> port.location).getDM (throw (.noEndpoint port.name))
  let (content, table) := encodeInput c.definitions binding.style operation args
  let header := c.security.map fun (username, password) => (encodeSecurity username password).render
  return {
    endpoint
    soapAction := operation.soapAction
    contentType := SoapRequest.envelopeType
    body := Envelope.render (Xml.Markup.renderAll content) table header }

/-- The value in a response: that of its first body element, `null` for an empty body. -/
def parseResponse (c : Client) (text : String) : Except ClientError Value :=
  match Envelope.decode (some c.definitions) text with
  | .ok response => .ok ((response.bodyElement?.map Prod.snd).getD .null)
  | .error e => .error (.ofDecodeError e)

def call [Monad m] (c : Client) (transport : Option (Transport m)) (method : String)
    (args : Value) : m (Except ClientError Value) :=
  match transport, c.request method args with
  | none, _ => pure (.error .noTransport)
  | _, .error e => pure (.error e)
  | some send, .ok request => do
    match ← send request with
    | .ok response => return c.parseResponse response
    | .error e => return .error e

/-- A client on one line. -/
def summarize (c : Client) (hasTransport : Bool) : String :=
  "SoapClient \x7b service: " ++ Text.quote c.service ++ ", port: " ++ Text.quote c.port ++
    ", endpoint: " ++ Text.quoteOption c.endpoint ++ ", transport: " ++
    (if hasTransport then "true" else "false") ++ ", .. \x7d"

end Client

end Soap
