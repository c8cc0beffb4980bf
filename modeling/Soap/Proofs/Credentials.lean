import Soap.Proofs.Envelope.Outline
import Soap.Proofs.Envelope.Splicing
import Soap.Proofs.Server.Authentication
import Soap.Proofs.Style

/-!
# Credentials

A client with a user name and a password sends the request that it would send without them, with a header in it.
Where the one is decoded, so is the other: to the two strings, without the blanks around them, and to the same body.
An authenticator is asked about exactly these (`Client.credentials_arrive`), whatever the strings and the arguments
are. For that, the namespaces that the request declares must not hold double quotes: such a namespace ends its
attribute early, and can close the root and open a header of its own.
-/

namespace Soap

open Xml (Event IsTag Markup)
open Xml.Markup (AreBare events startTagsAll startTagsAll_plain)

/-! ## What can be put into an envelope -/

/-- What was written is bare and can be read, and the prefixes that it needs are in use and can stand in tags. -/
structure Envelope.CanHold (written : List Markup × NamespaceTable) : Prop where
  bare : AreBare written.1
  content : Markup.AreWritable written.1
  inUse : written.2.IsInUse
  prefixes : written.2.IsWritable

section

variable {table : NamespaceTable} {v : Value}

theorem canHold_encodeDocument (reg : SchemaRegistry) (hused : table.IsInUse) (htable : table.IsWritable) {name : String}
    (hname : IsTag name.toList) (decl : ElementDecl) (hkeys : ∀ key ∈ v.allKeys, IsTag key.toList) :
    Envelope.CanHold (encodeDocument reg table name decl v) := by
  have hwritten := isWrittenAs_encodeElement reg htable hname (some decl) none v hkeys
  have hlast := (hused.qualifyAll (ownedNames reg name (some decl) none v)).1
  rw [← startTags_encodeElement] at hlast
  exact {
    bare := areBare_encodeElement reg table name (some decl) none v
    content := hwritten.filled.areWritable
    inUse := hlast
    prefixes := hwritten.isWritable }

theorem canHold_encodeCall (hused : table.IsInUse) (htable : table.IsWritable) {name : String} (hname : IsTag name.toList)
    (space : Option String) (hkeys : ∀ key ∈ v.allKeys, IsTag key.toList) :
    Envelope.CanHold (encodeCall table name space v) := by
  obtain ⟨htag, hlast⟩ := isTag_qualify htable hname space
  have hbare := areBare_encodeCall table name space v
  refine ⟨hbare, hbare.areWritable ?_, (hused.qualify ⟨name, space⟩).1, hlast⟩
  -- Inside the wrapper, keys stand in the tags as they are.
  have htags : startTagsAll (encodeCall table name space v).1 =
    (qualify table space name).1 :: startTagsAll (encodeContent v) := startTagsAll_plain _ _
  rw [htags]
  intro tag hmem
  rcases List.mem_cons.mp hmem with rfl | hinside
  · exact htag
  · exact hkeys tag (startTags_encodeContent v hinside)

end

/-- What the request for an operation puts into tags are names: the prefixes that are declared, the name of the
operation and that of the element that it takes, and the keys of the arguments. -/
structure Definitions.SendsNames (d : Definitions) (op : Operation) (args : Value) : Prop where
  prefixes : d.seed.IsWritable
  operation : IsTag op.name.toList
  element : ∀ ref, op.input.bind Message.element? = some ref → IsTag ref.decl.name.toList
  keys : ∀ key ∈ args.allKeys, IsTag key.toList

/-- An envelope can hold what a client writes. -/
theorem Definitions.SendsNames.canHold {d : Definitions} {op : Operation} {args : Value} (h : d.SendsNames op args)
    (style : Style) : Envelope.CanHold (Client.encodeInput d style op args) := by
  have hseed : d.seed.IsInUse := .ofDeclarations d.namespaces
  unfold Client.encodeInput
  cases style with
  | rpc => exact canHold_encodeCall hseed h.prefixes h.operation _ h.keys
  | document =>
    cases helement : op.input.bind Message.element? with
    | some ref => exact canHold_encodeDocument d.schemas hseed h.prefixes (h.element ref helement) ref.decl h.keys
    | none => exact canHold_encodeCall hseed h.prefixes h.operation none h.keys

/-! ## What an authenticator is asked -/

/-- The security blocks that are checked, in order. -/
def authentications (activities : List Activity) : List Value :=
  activities.filterMap fun
    | .authenticated security => some security
    | .invoked .. | .logged .. => none

@[simp] theorem authentications_nil : authentications [] = [] := rfl

theorem authentications_append (before after : List Activity) :
    authentications (before ++ after) = authentications before ++ authentications after := List.filterMap_append

@[simp] theorem authentications_logged (kind text : String) (rest : List Activity) :
    authentications (.logged kind text :: rest) = authentications rest := rfl

@[simp] theorem authentications_authenticated (security : Value) (rest : List Activity) :
    authentications (.authenticated security :: rest) = security :: authentications rest := rfl

/-- Answering checks nothing. -/
theorem Dispatcher.authentications_answer (d : Dispatcher) (path : String) (request : Envelope) :
    authentications (d.answer path request).activities = [] := by
  unfold answer
  split
  · rfl
  · unfold invoke
    split <;> rfl

/-- A dispatcher that asks for credentials checks the security block of a request, once. -/
theorem Dispatcher.Course.authentications_eq {d : Dispatcher} {accepts : Value → Bool} {path text : String}
    {dispatched : Traced (Except ServerError String)} (h : Course d accepts path text dispatched) {request : Envelope}
    (hdecode : Envelope.decode (some d.definitions) text = .ok request) {security : Value}
    (hsecurity : request.security? = some security) : authentications dispatched.activities = [security] := by
  have hcourse := h.of_decoded hdecode
  rw [hsecurity] at hcourse
  dsimp only at hcourse
  split at hcourse
  · rw [hcourse, Traced.after, List.singleton_append, authentications_authenticated, authentications_answer]
  · rw [hcourse, authentications_authenticated, authentications_nil]

/-- A server checks what its dispatcher does. -/
theorem Server.authentications_handle {s : Server} {request : HttpRequest} (hserves : s.serves request.path = true)
    (hauthorized : s.authorizer.all (· request) = true) (hmethod : request.method = "POST") {text : String}
    (htext : s.bodyText request = .ok text) :
    authentications (s.handle request).activities =
      authentications (s.dispatcher.dispatch request.path text).activities := by
  rw [handle_eq_post hserves hauthorized hmethod, post, htext]
  show authentications (s.answerPost request text).activities = _
  unfold answerPost
  dsimp only
  split <;> simp [authentications_append]

/-! ## Requests with and without credentials -/

namespace Client

/-- The client with other credentials, or without any. -/
def withSecurity (c : Client) (security : Option (String × String)) : Client := { c with security }

/-- If there is a request without credentials, then there is one with them, which differs in its body alone. -/
theorem request_withSecurity {c : Client} {port : Port} {binding : Binding} (hbound : c.bound = .ok (port, binding))
    {method : String} {op : Operation} (hop : binding.methods.get? method = some op) {args : Value}
    {plain : SoapRequest} (hplain : (c.withSecurity none).request method args = .ok plain) :
    let written := encodeInput c.definitions binding.style op args
    let body (header : Option Markup) :=
      Envelope.render (Markup.renderAll written.1) written.2 (header.map Markup.render)
    plain.body = body none ∧ ∀ security, (c.withSecurity security).request method args =
      .ok { plain with body := body (c.withSecurity security).header } := by
  have hall : ∀ security, (c.withSecurity security).bound = .ok (port, binding) := fun _ => hbound
  have hlocation : ∀ security, (c.withSecurity security).endpoint = c.endpoint := fun _ => rfl
  rw [request_of_bound (hall none) hop, hlocation] at hplain
  -- An address is all that a request may still lack, and it does not come from the credentials.
  cases hendpoint : c.endpoint <|> port.location with
  | none =>
    rw [hendpoint] at hplain
    cases hplain
  | some endpoint =>
    rw [hendpoint] at hplain
    obtain rfl := Except.ok.inj hplain
    refine ⟨rfl, fun security => ?_⟩
    rw [request_of_bound (hall security) hop, hlocation, hendpoint]
    rfl

/-- Credentials arrive, and leave the rest alone. If a client has a request without them, then it has one with them,
to the same address, and wherever the one is decoded the other is too: to a header with the two strings, trimmed, and
to the same body. This is what an authenticator is asked about, once. Neither the strings nor the values of the
arguments matter, but what stands in tags must be names, and no double quote may stand in the namespaces that
the request declares. -/
theorem credentials_arrive (c : Client) {port : Port} {binding : Binding} (hbound : c.bound = .ok (port, binding))
    {method : String} {op : Operation} (hop : binding.methods.get? method = some op) {args : Value}
    (hnames : c.definitions.SendsNames op args)
    (hquotes : ∀ entry ∈ (encodeInput c.definitions binding.style op args).2.declarations, '"' ∉ entry.2.toList)
    {plain : SoapRequest} (hplain : (c.withSecurity none).request method args = .ok plain)
    (username password : String) :
    ∃ signed, (c.withSecurity (some (username, password))).request method args = .ok signed ∧
      signed = { plain with body := signed.body } ∧
      (∀ defs envelope, Envelope.decode defs plain.body = .ok envelope →
        Envelope.decode defs signed.body =
          .ok { header := some (.object [("Security", securityOf username password)]), body := envelope.body }) ∧
      ∀ (s : Server) (accepts : Value → Bool), s.dispatcher.authenticator = some accepts →
        (∃ envelope, Envelope.decode (some s.dispatcher.definitions) plain.body = .ok envelope) →
        (∀ path, authentications (s.dispatcher.dispatch path signed.body).activities =
          [securityOf username password]) ∧
        ∀ request : HttpRequest, s.serves request.path = true → s.authorizer.all (· request) = true →
          request.method = "POST" → s.bodyText request = .ok signed.body →
          authentications (s.handle request).activities = [securityOf username password] := by
  obtain ⟨hbody, hrequest⟩ := request_withSecurity hbound hop hplain
  have hcan := hnames.canHold binding.style
  have hroot := hcan.inUse.hasQuotedRoot hcan.prefixes hquotes
  let signed := Envelope.render (Markup.renderAll (encodeInput c.definitions binding.style op args).1)
    (encodeInput c.definitions binding.style op args).2 ((some (encodeSecurity username password)).map Markup.render)
  have hsigned : ∀ defs envelope, Envelope.decode defs plain.body = .ok envelope → Envelope.decode defs signed =
      .ok { header := some (.object [("Security", securityOf username password)]), body := envelope.body } := by
    intro defs envelope hdecode
    rw [hbody] at hdecode
    exact Envelope.decode_splice hroot hcan.bare hcan.content hdecode (readsHeader_security defs username password)
  refine ⟨{ plain with body := signed }, hrequest (some (username, password)), rfl, hsigned, ?_⟩
  -- What a server checks is what it decodes, under its own description.
  rintro s accepts haccepts ⟨envelope, hdecode⟩
  have hchecked : ∀ path, authentications (s.dispatcher.dispatch path signed).activities =
      [securityOf username password] := fun path =>
    (Dispatcher.course_dispatch haccepts path signed).authentications_eq (hsigned _ _ hdecode) rfl
  refine ⟨hchecked, fun request hserves hauthorized hmethod htext => ?_⟩
  rw [Server.authentications_handle hserves hauthorized hmethod htext]
  exact hchecked request.path

theorem sendsNames_order : orders.SendsNames placeOrder anOrder where
  prefixes := ⟨by decide, by decide, by decide⟩
  operation := by decide
  element ref href := by
    obtain rfl := Option.some.inj href
    decide
  keys := by decide

/-- Credentials that look like markup, as they are read. -/
def markedClerk : Value :=
  .object [("UsernameToken", .object [("Username", .string "<clerk>&amp;"), ("Password", .string "")])]

/-- An order is the same under credentials, with markup in the name and without a password. -/
theorem credentials_arrive_order :
    ∃ plain signed, (ordersClient.withSecurity none).request "place" anOrder = .ok plain ∧
      Envelope.decode (some orders) plain.body = .ok { header := none, body := .object [("order", anOrder)] } ∧
      (ordersClient.withSecurity (some (" <clerk>&amp; ", ""))).request "place" anOrder = .ok signed ∧
      Envelope.decode (some orders) signed.body =
        .ok { header := some (.object [("Security", markedClerk)]), body := .object [("order", anOrder)] } ∧
      authentications (guardedServer.handle (postedToOrders signed.body)).activities = [markedClerk] := by
  let plain : SoapRequest :=
    { endpoint := "http://localhost/orders", soapAction := placeOrder.soapAction
      contentType := SoapRequest.envelopeType, body := orders.documentText none ordersExchange.request anOrder }
  have hquotes : ∀ entry ∈ (encodeInput orders .document placeOrder anOrder).2.declarations, '"' ∉ entry.2.toList := by
    decide
  have hdecode : Envelope.decode (some orders) plain.body =
      .ok { header := none, body := .object [("order", anOrder)] } :=
    ordersExchange.isDocument_input.decode hasWritableSpaces_orders rfl (readsHeader_none _) conforms_order
  have hplain : (ordersClient.withSecurity none).request "place" anOrder = .ok plain := rfl
  have hname : Text.trim " <clerk>&amp; " = "<clerk>&amp;" := by decide
  have hblock : securityOf " <clerk>&amp; " "" = markedClerk := by
    rw [securityOf, hname]
    rfl
  have hbound : ordersClient.bound = .ok (ordersPort, ordersBinding) := rfl
  obtain ⟨signed, hsigned, -, harrive, hservers⟩ := credentials_arrive ordersClient hbound rfl
    sendsNames_order hquotes hplain " <clerk>&amp; " ""
  obtain ⟨-, hposted⟩ := hservers guardedServer namesClerk rfl ⟨_, hdecode⟩
  rw [hblock] at hposted
  refine ⟨plain, signed, hplain, hdecode, hsigned, ?_, ?_⟩
  · rw [harrive _ _ hdecode, hblock]
  · exact hposted _ (serves_postedToOrders _) (authorizer_postedToOrders _) rfl (bodyText_postedToOrders _)

end Client

/-! ### A namespace that closes the root -/

/-- A namespace that ends its attribute and the tag of the root where an envelope declares it, and begins a header. -/
def closingSpace : String := "urn:orders\"><soap:Header></soap:Header>"

/-- The method that places an order is called in one binding only. -/
def placeCall (style : Style) : Operation :=
  { name := "place", style, soapAction := "", input := none, output := none, inputBody := none
    outputBody := none, documentation := none }

def placesBinding : Binding :=
  { name := "Calls", transport := "http://schemas.xmlsoap.org/soap/http", style := .rpc, portType := "Orders"
    methods := [("place", placeCall .rpc)] }

def placesPort : Port := { name := "Main", location := some "http://shop/orders", binding := "Calls" }

/-- Calls that belong to this namespace. -/
def places : Definitions :=
  { name := none, targetNamespace := some closingSpace, namespaces := [("o", closingSpace)]
    schemas := { schemas := [], namespaces := [("o", closingSpace)] }
    messages := []
    portTypes := [("Orders", { name := "Orders", operations := [("place", placeCall .document)] })]
    bindings := [("Calls", placesBinding)]
    services := [("Orders", { name := "Orders", documentation := none, ports := [("Main", placesPort)] })] }

/-- The namespace as it stands in the document that describes the calls. -/
def escapedSpace : String := "urn:orders&quot;&gt;&lt;soap:Header&gt;&lt;/soap:Header&gt;"

/-- What the document holds. -/
def placesContent : List Markup :=
  [.element "portType" [("name", "Orders")] [leafMarkup "operation" [("name", "place")]],
    .element "binding" [("name", "Calls"), ("type", "Orders")]
      [leafMarkup "binding" [("style", "rpc"), ("transport", "http://schemas.xmlsoap.org/soap/http")],
        leafMarkup "operation" [("name", "place")]],
    .element "service" [("name", "Orders")]
      [.element "port" [("name", "Main"), ("binding", "Calls")]
        [leafMarkup "address" [("location", "http://shop/orders")]]]]

def placesAttributes : List (String × String) := [("xmlns:o", escapedSpace), ("targetNamespace", escapedSpace)]

/-- The document that describes the calls. -/
def placesText : String := Markup.renderAll [.element "definitions" placesAttributes placesContent]

def placesWsdl : Wsdl := { definitions := places, source := placesText, location := none }

theorem parse_places : Wsdl.parse placesText {} = .ok placesWsdl := by
  let root : Event :=
    .start (QName.parse "definitions") [("targetNamespace", closingSpace)] [("o", closingSpace)]
  have hroot : Xml.startEvent ("definitions".toList ++ placesAttributes.flatMap Xml.attributeChars) =
      .ok (QName.parse "definitions", root) := by decide +kernel
  have htag : IsTag "definitions".toList := by decide
  have hcontent : Markup.AreWritable placesContent := by decide +kernel
  have hnames : ∀ a ∈ placesAttributes, IsTag a.1.toList := by decide
  have hvalues : ∀ a ∈ placesAttributes, '"' ∉ a.2.toList := by decide +kernel
  have hreads := Markup.reads_opened htag hnames hvalues hcontent hroot
  have hevents : (Xml.read placesText).events? = _ := Markup.events?_read_renderAll hreads
  rw [Wsdl.parse, Declarations.parse, Document.parse, Document.ofReading_eq _ hevents]
  decide +kernel

/-- What is called for an order. -/
def orderNumber : Value := .object [("id", .int 7)]

def placesClient : Client :=
  { wsdl := placesWsdl, service := "Orders", port := "Main", endpoint := none, security := none }

/-- An element without attributes. -/
def taggedElement (tag : String) (declarations : OrderedMap String String) (text : Option String)
    (children : List (Xml.Element × Option String)) : Xml.Element :=
  ⟨QName.parse tag, [], declarations, text, children⟩

/-- The credentials as a reader sees them. -/
def securityTree : Xml.Element :=
  taggedElement "wsse:Security" [("wsse", securitySpace)] none
    [(taggedElement "wsse:UsernameToken" [] none
      [(taggedElement "wsse:Username" [] (some "clerk") [], none),
        (taggedElement "wsse:Password" [] (some "s3cret") [], none)], none)]

/-- The header with the credentials. -/
def securityHeader : Xml.Element := taggedElement "soap:Header" [] none [(securityTree, none)]

/-- The request as a reader sees it, with more elements behind the header that the namespace begins. -/
def closedTree (more : List (Xml.Element × Option String)) : Xml.Element :=
  taggedElement "soap:Envelope" [("soap", Envelope.space), ("o", "urn:orders")] none
    ((taggedElement "soap:Header" [] none [], some "\">") :: more ++
      [(taggedElement "soap:Body" [] none
        [(taggedElement "o:place" [] none [(taggedElement "id" [] (some "7") [], none)], none)], none)])

/-- The body of the request. -/
def orderPlaced : Value := .object [("place", .object [("id", .string "7")])]

/-- What a client writes to place an order. -/
def placesWritten : List Markup × NamespaceTable := Client.encodeInput places .rpc (placeCall .rpc) orderNumber

/-- The text that places an order, under a header. -/
def placesEnvelope (header : Option Markup) : String :=
  Envelope.render (Markup.renderAll placesWritten.1) placesWritten.2 (header.map Markup.render)

theorem placesWritten_eq : placesWritten.1 = [.plain "o:place" [.plain "id" [.text "7"]]] := rfl

/-- What the namespace makes of the envelope. -/
def closedMarkup (header : Option Markup) : List Markup :=
  [.element "soap:Envelope" [("xmlns:soap", Envelope.space), ("xmlns:o", "urn:orders")]
    (.plain "soap:Header" [] :: .text "\">" ::
      envelopeContent header [.plain "o:place" [.plain "id" [.text "7"]]])]

theorem read_placesEnvelope {header : Option Markup} (hheader : ∀ m ∈ header, m.IsWritable) :
    (Xml.read (placesEnvelope header)).events? = some (events (closedMarkup header)) := by
  have hroot : placesWritten.2.rootAttributes = [("xmlns:soap", Envelope.space)] ++
      [("xmlns:o", "urn:orders" ++ "\">" ++ Markup.renderAll [.plain "soap:Header" []])] := by
    decide +kernel
  have hreadable : Xml.AreReadable ([("xmlns:soap", Envelope.space)] ++ [("xmlns:o", "urn:orders")]) := by
    decide +kernel
  have hinjected : Markup.AreWritable [.plain "soap:Header" []] := by decide
  have hcontent : Markup.AreWritable [.plain "o:place" [.plain "id" [.text "7"]]] := by decide
  have hclosed := events?_read_closed hroot hreadable hinjected hheader hcontent
  rw [placesEnvelope, placesWritten_eq]
  exact hclosed

/-- What the envelope is decoded to is told from what a reader sees. -/
theorem decode_placesEnvelope {header : Option Markup} (hheader : ∀ m ∈ header, m.IsWritable)
    {more : List (Xml.Element × Option String)}
    (hevents : events (closedMarkup header) = (closedTree more).events) {h : Value}
    (hvalue : (closedTree more).value (some places) = .ofValue (.object [("Header", h), ("Body", orderPlaced)])) :
    Envelope.decode (some places) (placesEnvelope header) = .ok { header := some h, body := orderPlaced } := by
  have hread := read_placesEnvelope hheader
  rw [hevents] at hread
  rw [Envelope.decode_tree _ rfl hread, hvalue, Partial.resolve_ofValue]
  rfl

theorem decode_placesEnvelope_none : Envelope.decode (some places) (placesEnvelope none) =
    .ok { header := some .emptyObject, body := orderPlaced } := by
  have hevents : events (closedMarkup none) = (closedTree []).events := by decide +kernel
  exact decode_placesEnvelope (by simp) hevents rfl

theorem decode_placesEnvelope_security :
    Envelope.decode (some places) (placesEnvelope (some (encodeSecurity "clerk" "s3cret"))) =
      .ok { header := some (.list [.emptyObject, .object [("Security", securityOf "clerk" "s3cret")]])
            body := orderPlaced } := by
  have hwritable := (readsHeader_security none "clerk" "s3cret").writable
  have hevents : events (closedMarkup (some (encodeSecurity "clerk" "s3cret"))) =
    (closedTree [(securityHeader, none)]).events := by decide +kernel
  exact decode_placesEnvelope hwritable hevents rfl

/-- A dispatcher that asks for the clerk. -/
def placesDispatcher : Dispatcher := { wsdl := placesWsdl, authenticator := some namesClerk }

/-- The namespace begins a header of its own, so that credentials come in a second one, and are not found. -/
theorem Client.not_credentials_arrive :
    placesWsdl.IsLoaded ∧ Client.build placesWsdl {} = .ok placesClient ∧
    places.SendsNames (placeCall .rpc) orderNumber ∧
    ∃ plain signed, (placesClient.withSecurity none).request "place" orderNumber = .ok plain ∧
      (placesClient.withSecurity (some ("clerk", "s3cret"))).request "place" orderNumber = .ok signed ∧
      (∃ envelope, Envelope.decode (some places) plain.body = .ok envelope) ∧
      (∃ envelope, Envelope.decode (some places) signed.body = .ok envelope ∧ envelope.security? = none) ∧
      ∀ path, (placesDispatcher.dispatch path signed.body).result = .error (.auth .missingSecurityHeader) ∧
        authentications (placesDispatcher.dispatch path signed.body).activities = [] := by
  have hnames : places.SendsNames (placeCall .rpc) orderNumber :=
    { prefixes := ⟨by decide, by decide, by decide⟩
      operation := by decide
      element := fun _ href => by cases href
      keys := by decide }
  have hbound : ∀ security, (placesClient.withSecurity security).bound = .ok (placesPort, placesBinding) := fun _ => rfl
  have hplace : placesBinding.methods.get? "place" = some (placeCall .rpc) := rfl
  obtain ⟨plain, hplain, hbody⟩ := Client.request_eq (hbound none) hplace rfl orderNumber
  obtain ⟨signed, hsigned, hbody'⟩ :=
    Client.request_eq (hbound (some ("clerk", "s3cret"))) hplace rfl orderNumber
  have hplainBody : plain.body = placesEnvelope none := hbody
  have hsignedBody : signed.body = placesEnvelope (some (encodeSecurity "clerk" "s3cret")) := hbody'
  have hdecode := decode_placesEnvelope_none
  have hdecode' := decode_placesEnvelope_security
  rw [← hplainBody] at hdecode
  rw [← hsignedBody] at hdecode'
  refine ⟨.parse _ _ parse_places, rfl, hnames, plain, signed, hplain, hsigned, ⟨_, hdecode⟩, ⟨_, hdecode', rfl⟩,
    fun path => ?_⟩
  have hdefinitions : placesDispatcher.definitions = places := rfl
  unfold Dispatcher.dispatch
  rw [hdefinitions, hdecode']
  exact ⟨rfl, rfl⟩

end Soap
