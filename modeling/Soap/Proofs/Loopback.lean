import Soap.Proofs.Envelope.RoundTrip
import Soap.Proofs.Server
import Soap.Proofs.Url

/-!
# Calls through a server

A client and a server over the same description understand each other: what is called with `args` at
the one end calls the handler with `args` at the other, and what the handler answers is the result
of the call (`Client.call_through_server`). Between the two stand an encoded request, a path, the
routing by elements, and an encoded answer (`Client.request_document`, `Server.handle_document`,
`Client.parseResponse_eq_ok`).
-/

namespace Soap

open Xml (isLocalName)

namespace Definitions

/-- Namespaces that can be written wherever an envelope may need them. -/
structure HasWritableSpaces (d : Definitions) : Prop where
  declared : ∀ entry ∈ (NamespaceTable.ofDeclarations d.namespaces).bindings, IsDeclarable entry
  owned : ∀ u ∈ d.schemas.owners, IsWritableUri u
  carried : ∀ m ∈ d.messages, ∀ ref, m.2.body = .element ref →
    ∀ u ∈ ref.decl.owners, IsWritableUri u

/-- A message that carries an element, and is found by the name of the element. -/
structure IsDocument (d : Definitions) (m : Message) (ref : ElementRef) : Prop where
  body : m.body = .element ref
  find : d.findMessage? ref.decl.name = some m
  name : isLocalName ref.decl.name = true
  not_fault : ref.decl.name ≠ "Fault"

/-- A method of a document-style binding that exchanges two documents, and is the only one that
takes the first. -/
structure Exchange (d : Definitions) (binding : Binding) (method : String) where
  operation : Operation
  input : Message
  output : Message
  request : ElementRef
  response : ElementRef
  style : binding.style = .document
  operation_eq : binding.methods.get? method = some operation
  input_eq : operation.input = some input
  output_eq : operation.output = some output
  isDocument_input : d.IsDocument input request
  isDocument_output : d.IsDocument output response
  only : ∀ other ∈ binding.methods, other.1 ≠ method → ∀ m ref, other.2.input = some m →
    m.body = .element ref → ref.decl.name ≠ request.decl.name

/-- The address of a port of a service: a URL at whose path there is no other port. -/
structure Address (d : Definitions) (service : String) (port : Port) where
  location : String
  url : Url
  location_eq : port.location = some location
  url_eq : Url.parse? location = some url
  single_slash : ¬ ['/', '/'] <:+ url.path
  only : ∀ s ∈ d.services, ∀ p ∈ s.2.ports, (s.1, p.1) ≠ (service, port.name) → ∀ other,
    p.2.location = some other →
    normalizePath (locationPath other) ≠ normalizePath (locationPath location)

theorem findMessage?_of_get? {d : Definitions} {name : String} {m : Message}
    (h : d.messages.get? name = some m) : d.findMessage? name = some m := by
  rw [findMessage?, message?, h]
  rfl

theorem IsDocument.element? {d : Definitions} {m : Message} {ref : ElementRef}
    (h : d.IsDocument m ref) : m.element? = some ref := by
  exact Message.element?_eq_some.mpr h.body

theorem IsDocument.topName {d : Definitions} {m : Message} {ref : ElementRef}
    (h : d.IsDocument m ref) : m.topName = ref.decl.name := by
  rw [Message.topName, h.element?]

/-- Where a document is found by the name of its element, no other message goes by this name. -/
theorem IsDocument.eq_of_topName {d : Definitions} {m other : Message} {ref : ElementRef}
    (h : d.IsDocument m ref) (hother : d.messages.get? other.name = some other)
    (hname : other.topName = ref.decl.name) :
    ∃ ref', other.body = .element ref' ∧ ref'.decl.name = ref.decl.name := by
  rw [Message.topName] at hname
  split at hname
  · next ref' href' => exact ⟨ref', Message.element?_eq_some.mp href', hname⟩
  · next hnone =>
    -- A message found by its own name takes precedence, but this one carries no element.
    have hfind := findMessage?_of_get? hother
    rw [hname, h.find] at hfind
    rw [← Option.some.inj hfind, h.element?] at hnone
    cases hnone

/-- The text of an envelope with a document in its body. -/
def documentText (d : Definitions) (header : Option Xml.Markup) (ref : ElementRef) (v : Value) :
    String :=
  let encoded := encodeDocument d.schemas (.ofDeclarations d.namespaces) ref.decl.name ref.decl v
  Envelope.render (Xml.Markup.renderAll encoded.1) encoded.2 (header.map Xml.Markup.render)

/-- A message of an operation that is a document reads back under any header. -/
theorem IsDocument.decode {d : Definitions} {m : Message} {ref : ElementRef}
    (hm : d.IsDocument m ref) (hspaces : d.HasWritableSpaces)
    (hmessage : d.messages.get? m.name = some m) {header : Option Xml.Markup} {h : Option Value}
    (hheader : ReadsHeader (some d) header h) {v : Value}
    (hv : Conforms (some (d.describeMessage m)) v) :
    Envelope.decode (some d) (d.documentText header ref v) =
      .ok { header := h, body := .object [(ref.decl.name, v)] } := by
  refine decode_encodeDocument_of_header
    (.ofDeclarations hspaces.declared) hheader hm.name hm.not_fault hm.find
    hm.body (fun u hu => ?_) hv
  rcases List.mem_append.mp hu with hu | hu
  · exact hspaces.carried _ (OrderedMap.mem_of_get? hmessage) ref hm.body u hu
  · exact hspaces.owned u hu

namespace Exchange

variable {d : Definitions} {binding : Binding} {method : String}

/-- No other method takes anything under the name of the first document. -/
theorem only_topName (e : d.Exchange binding method)
    (hcarries : ∀ op ∈ binding.methods, d.Carries op.2) :
    ∀ other ∈ binding.methods, ∀ m, other.2.input = some m → m.topName = e.input.topName →
    other.1 = method := by
  intro other hother m hm hname
  rw [e.isDocument_input.topName] at hname
  obtain ⟨ref, hbody, href⟩ :=
    e.isDocument_input.eq_of_topName (hcarries other hother m (.inl hm)) hname
  exact Decidable.byContradiction fun hne => e.only other hother hne m ref hm hbody href

end Exchange

namespace Address

variable {d : Definitions} {service : String} {port : Port}

/-- The path at which the port is. -/
def path (a : d.Address service port) : String := String.ofList a.url.path

theorem locationPath_eq (a : d.Address service port) : locationPath a.location = a.path := by
  rw [locationPath, a.url_eq]
  rfl

/-- The port is found at its path. -/
theorem portFor?_path (a : d.Address service port) (hkeyed : d.IsKeyed) {s : Service}
    (hservice : d.services.get? service = some s) (hport : s.ports.get? port.name = some port)
    (dispatcher : Dispatcher) (hdefs : dispatcher.definitions = d) :
    dispatcher.portFor? a.path = some ⟨service, port.name, port.binding⟩ := by
  apply Dispatcher.portFor?_of_unique
  · rw [hdefs]
    exact Dispatcher.mem_locatedPorts.mpr
      ⟨_, OrderedMap.mem_of_get? hservice, _, OrderedMap.mem_of_get? hport,
      a.location, a.location_eq, by rw [a.locationPath_eq], rfl⟩
  · rw [hdefs]
    rintro ⟨path, bound⟩ hentry hpath
    obtain ⟨s', hs', p', hp', location, hlocation, hat, hbound⟩ :=
      Dispatcher.mem_locatedPorts.mp hentry
    have hnames : (s'.1, p'.1) = (service, port.name) := by
      refine Decidable.byContradiction fun hne => a.only s' hs' p' hp' hne location hlocation ?_
      rw [← hat, a.locationPath_eq]
      exact hpath
    obtain ⟨rfl, hname⟩ := Prod.mk.inj hnames
    obtain rfl : s'.2 = s :=
      Option.some.inj ((OrderedMap.get?_of_mem hkeyed.services.nodup hs').symm.trans hservice)
    have hp : p'.2 = port := by
      have hget := OrderedMap.get?_of_mem (hkeyed.ports s' hs').nodup hp'
      rw [hname, hport] at hget
      exact (Option.some.inj hget).symm
    rw [hbound, hname, hp]

end Address

end Definitions

/-! ## The client's side -/

namespace Client

variable {c : Client} {binding : Binding} {port : Port} {method : String}

/-- The header with the client's credentials. -/
def header (c : Client) : Option Xml.Markup :=
  c.security.map fun (username, password) => encodeSecurity username password

/-- The request for a method that takes a document. -/
theorem request_document (hbound : c.bound = .ok (port, binding))
    (e : c.definitions.Exchange binding method) (a : c.definitions.Address c.service port)
    (hendpoint : c.endpoint = none) (args : Value) :
    ∃ request, c.request method args = .ok request ∧ request.endpoint = a.location ∧
      request.body = c.definitions.documentText c.header e.request args := by
  have hinput : e.operation.input.bind Message.element? = some e.request := by
    rw [e.input_eq, Option.bind_some, e.isDocument_input.element?]
  have hencode : encodeInput c.definitions binding.style e.operation args =
      encodeDocument c.definitions.schemas (.ofDeclarations c.definitions.namespaces) e.request.decl.name
        e.request.decl args := by
    unfold encodeInput
    rw [e.style]
    dsimp only
    rw [hinput]
  have hlocation : (c.endpoint <|> port.location) = some a.location := by
    rw [hendpoint, a.location_eq]
    rfl
  refine ⟨{ endpoint := a.location, soapAction := e.operation.soapAction, contentType := SoapRequest.envelopeType
            body := c.definitions.documentText c.header e.request args }, ?_, rfl, rfl⟩
  rw [request, hbound, ok_bind]
  dsimp only
  rw [e.operation_eq, Option.getDM_some, pure_bind, hlocation, Option.getDM_some, pure_bind,
    hencode, Definitions.documentText, header, Option.map_map]
  rfl

/-- The result of a call is the value of the one element in the response's body. -/
theorem parseResponse_eq_ok {text name : String} {result : Value} {header : Option Value}
    (h : Envelope.decode (some c.definitions) text = .ok { header, body := .object [(name, result)] }) :
    c.parseResponse text = .ok result := by
  rw [parseResponse, h]
  rfl

/-- A call is a request, its delivery and the reading of what comes back. -/
theorem call_eq_ok [Monad m] [LawfulMonad m] {args result : Value} {request : SoapRequest}
    (hrequest : c.request method args = .ok request) {send : Transport m} {text : String}
    (hsend : send request = pure (.ok text)) (hparse : c.parseResponse text = .ok result) :
    c.call (some send) method args = pure (.ok result) := by
  unfold call
  rw [hrequest]
  dsimp only
  rw [hsend, pure_bind]
  dsimp only
  rw [hparse]

end Client

/-! ## The server's side -/

/-- A request that posts a text to a path, as it is. -/
structure HttpRequest.Posts (request : HttpRequest) (text path : String) : Prop where
  method : request.method = "POST"
  path : request.path = path
  body : request.body = Utf8.encode text
  encoding : Server.encodingOf? request = none

/-- A server over a description that turns nobody away from a path. -/
structure Server.IsOpenAt (s : Server) (wsdl : Wsdl) (path : String) : Prop where
  wsdl : s.dispatcher.wsdl = wsdl
  authenticator : s.dispatcher.authenticator = none
  authorizer : s.authorizer = none
  path : ∀ own ∈ s.path, own = normalizePath path

namespace Server

variable {d : Definitions} {binding : Binding} {port : Port} {service method : String}

/-- The answer of a method that returns a document. -/
theorem encodeReply_document (e : d.Exchange binding method) (args result : Value) :
    Dispatcher.encodeReply d
      ⟨binding, ⟨service, port.name, method⟩, some e.response.decl.name, args⟩ result =
      d.documentText none e.response result := by
  have houtput : ((binding.methods.get? method).bind Operation.output).bind Message.element? =
      some e.response := by
    rw [e.operation_eq, Option.bind_some, e.output_eq, Option.bind_some,
      e.isDocument_output.element?]
  have hencode : Dispatcher.encodeResult d
      ⟨binding, ⟨service, port.name, method⟩, some e.response.decl.name, args⟩ e.response.decl.name result =
        encodeDocument d.schemas (.ofDeclarations d.namespaces) e.response.decl.name e.response.decl result := by
    unfold Dispatcher.encodeResult
    dsimp only
    rw [e.style, houtput]
  rw [Dispatcher.encodeReply]
  dsimp only
  rw [hencode]
  rfl

theorem serves_path {s : Server} {wsdl : Wsdl} (a : wsdl.definitions.Address service port)
    (hs : s.IsOpenAt wsdl a.path) {bound : BoundPort}
    (hport : s.dispatcher.portFor? a.path = some bound) : s.serves a.path = true := by
  have hpath : ¬ ['/', '/'] <:+ a.path.toList := by
    rw [Definitions.Address.path, String.toList_ofList]
    exact a.single_slash
  unfold serves
  dsimp only
  split
  · next own hown => rw [hs.path own hown, beq_self_eq_true]
  · rw [Dispatcher.portFor?, normalizePath_normalizePath hpath, ← Dispatcher.portFor?, hport]
    rfl

/-- A request with the document `args` calls the handler with `args`, once, and is answered with the
document that the handler answers with. -/
theorem handle_document {wsdl : Wsdl} (hwsdl : wsdl.IsLoaded)
    (hspaces : wsdl.definitions.HasWritableSpaces) {server : Service}
    (hservice : wsdl.definitions.services.get? service = some server)
    (hport : server.ports.get? port.name = some port)
    (hbinding : wsdl.definitions.bindings.get? port.binding = some binding)
    (e : wsdl.definitions.Exchange binding method) (a : wsdl.definitions.Address service port)
    {s : Server} (hs : s.IsOpenAt wsdl a.path) {handler : Handler}
    (hhandler : s.dispatcher.handlers.get? ⟨service, port.name, method⟩ = some handler)
    {args result : Value} (hanswer : (handler args).answer? = some result)
    (hargs : Conforms (some (wsdl.definitions.describeMessage e.input)) args)
    {header : Option Xml.Markup} {h : Option Value}
    (hheader : ReadsHeader (some wsdl.definitions) header h) {request : HttpRequest}
    (hrequest : request.Posts (wsdl.definitions.documentText header e.request args) a.path) :
    ∃ response, s.handle request =
        { activities := [.logged "received" (wsdl.definitions.documentText header e.request args),
            .invoked ⟨service, port.name, method⟩ args,
            .logged "replied" (wsdl.definitions.documentText none e.response result)]
          result := some response } ∧
      response.status = 200 ∧
      response.text = wsdl.definitions.documentText none e.response result := by
  obtain rfl := hs.wsdl
  obtain ⟨hkeyed, hintegral⟩ := hwsdl.isIntegral
  have hmem := OrderedMap.mem_of_get? hbinding
  have hcarries := hintegral.method_carries _ hmem
  have hmessage := hcarries _ (OrderedMap.mem_of_get? e.operation_eq) e.input (.inl e.input_eq)
  -- The request is decoded, and routed by its path and by its element.
  have hdecode := e.isDocument_input.decode hspaces hmessage hheader hargs
  have hmethod := Dispatcher.methodFor_document (hkeyed.methods _ hmem) e.style e.operation_eq
    e.input_eq (e.only_topName hcarries)
  rw [e.isDocument_input.topName, e.output_eq, Option.map_some,
    e.isDocument_output.topName] at hmethod
  have hfound := a.portFor?_path hkeyed hservice hport s.dispatcher rfl
  have hroute := Dispatcher.route_eq_ok ⟨h, .object [(e.request.decl.name, args)]⟩ hfound hbinding
    rfl hmethod
  -- The handler answers, and its answer is encoded.
  have hdispatch := Dispatcher.dispatch_eq hs.authenticator hdecode hroute hhandler hanswer
  rw [Dispatcher.definitions, encodeReply_document e, ← hrequest.path] at hdispatch
  have hserves := serves_path a hs hfound
  rw [← hrequest.path] at hserves
  exact handle_post hs.authorizer hserves hrequest.method hrequest.encoding hrequest.body hdispatch

end Server

/-! ## Both sides -/

/-- The transport posts every request to the path of its endpoint on a server, and brings back the
text of an answer that reports no error. -/
def Transport.PostsTo [Monad m] (send : Transport m) (s : Server) : Prop :=
  ∀ request u, Url.parse? request.endpoint = some u →
    ∃ http : HttpRequest, http.Posts request.body (String.ofList u.path) ∧
      ∀ response, (s.handle http).result = some response → response.status = 200 →
        send request = pure (.ok response.text)

/-- The transport to a server in the same program. -/
def loopback (s : Server) : Transport Id := fun request =>
  match Url.parse? request.endpoint with
  | none => .error (.transport request.endpoint)
  | some u =>
    let http : HttpRequest :=
      .ofParts "POST" (String.ofList u.path) [("Content-Type", request.contentType)]
      (Utf8.encode request.body)
    match (s.handle http).result with
    | some response => .ok response.text
    | none => .error (.status 404)

theorem loopback_postsTo (s : Server) : Transport.PostsTo (loopback s) s := by
  intro request u hu
  let http : HttpRequest :=
    .ofParts "POST" (String.ofList u.path) [("Content-Type", request.contentType)]
    (Utf8.encode request.body)
  have hpath : http.path = String.ofList u.path := by
    have hbefore : Text.before (fun c => c == '?' || c == '#') u.path = u.path :=
      Text.before_eq_self (Url.isPath_of_parse? hu)
    show String.ofList (Text.before _ (String.ofList u.path).toList) = _
    rw [String.toList_ofList, hbefore]
  have hmethod : Text.upper "POST" = "POST" := by decide +kernel
  have hencoding : Server.encodingOf? http = none := by
    have hname : Text.lower "Content-Type" ≠ Text.lower "content-encoding" := by decide +kernel
    have hheader : http.header? "content-encoding" = none := if_neg hname
    rw [Server.encodingOf?, hheader]
    rfl
  refine ⟨http, ⟨hmethod, hpath, rfl, hencoding⟩, fun response hresponse _ => ?_⟩
  show loopback s request = .ok response.text
  rw [loopback, hu]
  dsimp only
  rw [hresponse]

/-- What is called is what the handler gets, and what it returns is the result. -/
theorem Client.call_through_server [Monad m] [LawfulMonad m] {wsdl : Wsdl} (hwsdl : wsdl.IsLoaded)
    (hspaces : wsdl.definitions.HasWritableSpaces) {settings : ClientSettings}
    (hendpoint : settings.endpoint = none) {c : Client}
    (hclient : Client.build wsdl settings = .ok c) {port : Port} {binding : Binding}
    (hbound : c.bound = .ok (port, binding)) {method : String}
    (e : wsdl.definitions.Exchange binding method) (a : wsdl.definitions.Address c.service port)
    {s : Server} (hs : s.IsOpenAt wsdl a.path) {handler : Handler}
    (hhandler : s.dispatcher.handlers.get? ⟨c.service, c.port, method⟩ = some handler)
    {args result : Value} (hbefore : (handler args).before = [])
    (hready : (handler args).outcome = .ready result)
    (hargs : Conforms (some (wsdl.definitions.describeMessage e.input)) args)
    (hresult : Conforms (some (wsdl.definitions.describeMessage e.output)) result)
    {send : Transport m} (hsend : send.PostsTo s) :
    c.call (some send) method args = pure (.ok result) := by
  have hkeyed := hwsdl.isIntegral.1
  obtain ⟨rfl, hunset, service, port', binding', hservice, hport, hbinding, hbound'⟩ :=
    Client.bound_of_build hkeyed hclient
  obtain ⟨rfl, rfl⟩ := Prod.mk.inj (Except.ok.inj (hbound'.symm.trans hbound))
  have hname : port'.name = c.port :=
    (hkeyed.ports _ (OrderedMap.mem_of_get? hservice)).name_eq _ (OrderedMap.mem_of_get? hport)
  rw [← hname] at hport hhandler
  -- The request is written and posted, and the server answers it.
  obtain ⟨request, hrequest, hto, hbody⟩ :=
    Client.request_document hbound e a (hunset.trans hendpoint) args
  obtain ⟨http, hposts, hback⟩ := hsend request a.url (hto ▸ a.url_eq)
  rw [hbody] at hposts
  obtain ⟨response, hhandle, hstatus, htext⟩ :=
    Server.handle_document hwsdl hspaces hservice hport hbinding e a hs hhandler
      (Handling.answer?_of_ready hbefore hready) hargs (readsHeader_credentials _ c.security) hposts
  -- What it answers with is read.
  have hmessage := hwsdl.isIntegral.2.method_carries _ (OrderedMap.mem_of_get? hbinding) _
    (OrderedMap.mem_of_get? e.operation_eq) e.output (.inr e.output_eq)
  have hdecode := e.isDocument_output.decode hspaces hmessage (readsHeader_none _) hresult
  have hanswer := hback response (by rw [hhandle]) hstatus
  rw [htext] at hanswer
  exact Client.call_eq_ok hrequest hanswer (Client.parseResponse_eq_ok hdecode)

/-! ### Placing an order -/

/-- An order is exchanged for a receipt. -/
def ordersExchange : orders.Exchange ordersBinding "place" where
  operation := placeOrder
  input := orderMessage
  output := receiptMessage
  request := { decl := orderDecl, qualifier := some "o", space := some "urn:orders" }
  response := { decl := receiptDecl, qualifier := some "o", space := some "urn:orders" }
  style := rfl
  operation_eq := rfl
  input_eq := rfl
  output_eq := rfl
  isDocument_input := ⟨rfl, rfl, by decide, by decide⟩
  isDocument_output := ⟨rfl, rfl, by decide, by decide⟩
  only := by simp [ordersBinding]

/-- Where orders are placed. -/
def ordersAddress : orders.Address "OrderService" ordersPort where
  location := "http://localhost/orders"
  url := { scheme := "http".toList,
           authority := some { credentials := [], host := "localhost".toList, port := none }
           path := "/orders".toList, query := none, fragment := none }
  location_eq := rfl
  url_eq := by decide +kernel
  single_slash := by decide
  only := by simp [orders, ordersPort]

theorem hasWritableSpaces_orders : orders.HasWritableSpaces where
  declared := by decide
  owned := by decide
  carried := by
    have howners : ∀ u ∈ orderDecl.owners ++ receiptDecl.owners, IsWritableUri u := by decide
    rintro m hm ref hbody u hu
    simp only [orders, List.mem_cons, List.not_mem_nil, or_false] at hm
    rcases hm with rfl | rfl | rfl
    · obtain rfl := MessageBody.element.inj hbody
      exact howners u (List.mem_append_left _ hu)
    · obtain rfl := MessageBody.element.inj hbody
      exact howners u (List.mem_append_right _ hu)
    · cases hbody

/-- A client with credentials. -/
def ordersClient : Client :=
  { wsdl := ordersWsdl, service := "OrderService", port := "Main", endpoint := none
    security := some ("bob", "s3cret") }

/-- A server whose receipts are the numbers of orders. -/
def ordersServer : Server :=
  { dispatcher := {
      wsdl := ordersWsdl
      handlers := [(⟨"OrderService", "Main", "place"⟩, .ofFunction fun args => (args.get? "id").getD .null)] } }

/-- An order without credentials. -/
def plainOrder : String := orders.documentText none ordersExchange.request anOrder

theorem decode_plainOrder :
    Envelope.decode (some orders) plainOrder = .ok { header := none, body := .object [("order", anOrder)] } :=
  ordersExchange.isDocument_input.decode hasWritableSpaces_orders rfl (readsHeader_none _) conforms_order

theorem describe_receipt : orders.describeMessage receiptMessage = .leaf "xsd:int" := by
  simp [Definitions.describeMessage, receiptMessage, SchemaRegistry.describeElement, messageOf,
    receiptDecl, ordersDecl, SchemaRegistry.describeDecl, SchemaRegistry.describeRef,
    isPrimitive_order]

theorem call_through_server_orders :
    ordersClient.call (some (loopback ordersServer)) "place" anOrder = pure (.ok (.int 7)) := by
  have hbuild : Client.build ordersWsdl { security := some ("bob", "s3cret") } =
    .ok ordersClient := by
    rfl
  have hresult : Conforms (some (orders.describeMessage receiptMessage)) (.int 7) := by
    rw [describe_receipt]
    exact rfl
  exact Client.call_through_server
    (.parse _ _ parse_orders) hasWritableSpaces_orders rfl hbuild rfl ordersExchange
    ordersAddress ⟨rfl, rfl, rfl, by simp [ordersServer]⟩ rfl rfl rfl conforms_order hresult
    (loopback_postsTo ordersServer)

end Soap
