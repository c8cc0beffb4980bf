import Soap.Proofs.Envelope.Root
import Soap.Proofs.Routing

/-!
# The style that messages are written in

A method has the style that its binding's settings give it, and else the style of the binding
(`Wsdl.IsLoaded.styles_declared`). Client and dispatcher do not ask the method: both write in the style of the
binding. A message that has an element of a schema is therefore written in the method's own style if the two styles
are the same, and only then (`Wsdl.IsLoaded.written_in_binding_style`).
-/

namespace Soap

open Xml (Markup)
open Xml.Markup (startTagsAll)

/-! ## Styles of messages -/

/-- The content is the value, written as a message is in a style: for a call the wrapper around elements that are
called by the fields alone, for a document the element that the message carries. -/
def IsWrittenIn (d : Definitions) (style : Style) (wrapper : String) (message : Option Message) (v : Value)
    (content : List Markup) : Prop :=
  match style with
  | .rpc => ∃ tag inside, content = [.plain tag inside] ∧ IsQualified tag wrapper ∧ inside = encodeContent v ∧
      ∀ child ∈ startTagsAll inside, child ∈ v.allKeys
  | .document => ∀ ref, message.bind Message.element? = some ref →
      content = (encodeDocument d.schemas (.ofDeclarations d.namespaces) ref.decl.name ref.decl v).1

/-- Every value is written in the style. -/
def WritesIn (d : Definitions) (style : Style) (wrapper : String) (message : Option Message)
    (write : Value → List Markup × NamespaceTable) : Prop :=
  ∀ v, IsWrittenIn d style wrapper message v (write v).1

section

variable {d : Definitions} {wrapper : String} {message : Option Message} {v : Value}

theorem isWrittenIn_encodeCall (table : NamespaceTable) (space : Option String) :
    IsWrittenIn d .rpc wrapper message v (encodeCall table wrapper space v).1 :=
  ⟨_, _, rfl, isQualified_qualify .., rfl, fun _ => startTags_encodeContent v⟩

/-- No value at all shows the style: a call has its wrapper even then, and a document has no element. -/
theorem IsWrittenIn.style_eq {style style' : Style} {content : List Markup} {ref : ElementRef}
    (href : message.bind Message.element? = some ref) (h : IsWrittenIn d style wrapper message .null content)
    (h' : IsWrittenIn d style' wrapper message .null content) : style = style' := by
  have hdocument : IsWrittenIn d .document wrapper message .null content → content = [] := fun h => h ref href
  have hcall : IsWrittenIn d .rpc wrapper message .null content → content ≠ [] := by
    rintro ⟨tag, inside, rfl, -⟩
    exact List.cons_ne_nil _ _
  cases style <;> cases style'
  · rfl
  · exact absurd (hdocument h') (hcall h)
  · exact absurd (hdocument h) (hcall h')
  · rfl

/-- What writes in one style writes in another only if it is the same. -/
theorem WritesIn.iff_style_eq {style style' : Style} {write : Value → List Markup × NamespaceTable} {ref : ElementRef}
    (h : WritesIn d style wrapper message write) (href : message.bind Message.element? = some ref) :
    WritesIn d style' wrapper message write ↔ style' = style := by
  constructor
  · intro h'
    exact IsWrittenIn.style_eq href (h' .null) (h .null)
  · rintro rfl
    exact h

end

/-! ## What client and dispatcher write -/

/-- A client writes in whichever style it is told. -/
theorem Client.writesIn_encodeInput (d : Definitions) (style : Style) (op : Operation) :
    WritesIn d style op.name op.input (encodeInput d style op) := by
  intro args
  cases style with
  | rpc => exact isWrittenIn_encodeCall _ _
  | document =>
    intro ref href
    rw [encodeInput, href]

/-- A client that is bound and knows the method has a request for it, unless there is no address to send it to. -/
theorem Client.request_of_bound {c : Client} {port : Port} {binding : Binding} (hbound : c.bound = .ok (port, binding))
    {method : String} {op : Operation} (hop : binding.methods.get? method = some op) (args : Value) :
    c.request method args =
      ((c.endpoint <|> port.location).getDM (throw (.noEndpoint port.name)) >>= fun endpoint => .ok {
        endpoint
        soapAction := op.soapAction
        contentType := SoapRequest.envelopeType
        body := Envelope.render (Markup.renderAll (encodeInput c.definitions binding.style op args).1)
          (encodeInput c.definitions binding.style op args).2 (c.header.map Markup.render) }) := by
  rw [request, hbound, ok_bind]
  dsimp only
  rw [hop, Option.getDM_some, pure_bind, header, Option.map_map]
  rfl

/-- The request for a method is what is written of the arguments, in the style of the binding. -/
theorem Client.request_eq {c : Client} {port : Port} {binding : Binding} (hbound : c.bound = .ok (port, binding))
    {method : String} {op : Operation} (hop : binding.methods.get? method = some op) {endpoint : String}
    (hendpoint : (c.endpoint <|> port.location) = some endpoint) (args : Value) :
    ∃ request, c.request method args = .ok request ∧
      request.body = Envelope.render (Markup.renderAll (encodeInput c.definitions binding.style op args).1)
        (encodeInput c.definitions binding.style op args).2 (c.header.map Markup.render) := by
  rw [request_of_bound hbound hop, hendpoint]
  exact ⟨_, rfl, rfl⟩

/-- The name of an answer: that of the method, with an ending, or of the message that the method returns. -/
theorem Dispatcher.output_of_methodFor {b : Binding} (hkeyed : b.methods.IsKeyedBy Operation.name)
    {element method : String} {output : Option String} (h : methodFor b element = .ok (method, output))
    {op : Operation} (hop : b.methods.get? method = some op) :
    match b.style with
    | .rpc => output = some (method ++ "Response")
    | .document => output = op.output.map Message.topName := by
  unfold methodFor at h
  split at h
  · next hnone =>
    have hstyle : b.style = .rpc := by
      unfold Binding.topElements? at hnone
      split at hnone
      · assumption
      · cases hnone
    rw [hstyle]
    obtain ⟨rfl, rfl⟩ := Prod.mk.inj (Except.ok.inj h)
    rfl
  · next tops htops =>
    have hstyle : b.style = .document := b.topElements?_isSome.mp (by rw [htops]; rfl)
    rw [hstyle]
    split at h
    · next top htop =>
      obtain ⟨rfl, rfl⟩ := Prod.mk.inj (Except.ok.inj h)
      obtain ⟨op', input, hop', -, -, houtput⟩ := Binding.topElement_method hkeyed htops (OrderedMap.mem_of_get? htop)
      obtain rfl := Option.some.inj (hop.symm.trans hop')
      exact houtput
    · cases h

/-- A dispatcher writes in the style of the binding that a request was routed by. -/
theorem Dispatcher.writesIn_encodeResult {d : Definitions} {route : Route}
    (hkeyed : route.binding.methods.IsKeyedBy Operation.name) {element output : String}
    (hmethod : methodFor route.binding element = .ok (route.operation.operation, some output)) {op : Operation}
    (hop : route.binding.methods.get? route.operation.operation = some op) :
    WritesIn d route.binding.style (route.operation.operation ++ "Response") op.output
      (encodeResult d route output) := by
  intro result
  have houtput := output_of_methodFor hkeyed hmethod hop
  cases hstyle : route.binding.style with
  | rpc =>
    rw [hstyle] at houtput
    obtain rfl := Option.some.inj houtput
    rw [encodeResult, hstyle]
    exact isWrittenIn_encodeCall _ _
  | document =>
    rw [hstyle] at houtput
    intro ref href
    obtain ⟨m, hm, hname⟩ := Option.map_eq_some_iff.mp houtput.symm
    have helement : m.element? = some ref := by rwa [hm, Option.bind_some] at href
    have hwritten : output = ref.decl.name := by
      rw [← hname, Message.topName, helement]
    rw [encodeResult, hstyle]
    dsimp only
    rw [hop, Option.bind_some, href, hwritten]

/-- The reply of a handler is what is written of its answer. -/
theorem Dispatcher.result_invoke {d : Dispatcher} {route : Route} {handler : Handler}
    (hhandler : d.handlers.get? route.operation = some handler) {result : Value}
    (hanswer : (handler route.args).answer? = some result) {output : String} (houtput : route.output = some output) :
    (d.invoke route).result =
      .ok (Envelope.render (Markup.renderAll (encodeResult d.definitions route output result).1)
        (encodeResult d.definitions route output result).2 none) := by
  have hreply : encodeReply d.definitions route result =
      Envelope.render (Markup.renderAll (encodeResult d.definitions route output result).1)
        (encodeResult d.definitions route output result).2 none := by
    unfold encodeReply
    rw [houtput]
  rw [invoke, hhandler]
  dsimp only
  rw [hanswer]
  exact congrArg Except.ok hreply

/-! ## Styles that are declared -/

namespace Wsdl

/-- A method has the style of the settings that the document's binding has for it, or else that of the binding, which
is that of documents unless it is declared. -/
theorem IsLoaded.styles_declared {wsdl : Wsdl} (h : wsdl.IsLoaded) {b : String × Binding}
    (hb : b ∈ wsdl.definitions.bindings) :
    ∃ strict d decl, Declarations.parse wsdl.source strict = .ok d ∧ (b.1, decl) ∈ d.bindings ∧
      b.2.style = decl.style.getD .document ∧
      ∀ op ∈ b.2.methods, op.2.style = ((decl.operations.get? op.1).bind OperationDecl.style).getD b.2.style := by
  obtain ⟨strict, d, schemas, hparse, hresolve⟩ := h.declared
  rw [hresolve] at hb
  obtain ⟨decl, hdecl, hresolved⟩ := Declarations.mem_bindings hb
  refine ⟨strict, d, decl, hparse, hdecl, ?_, ?_⟩
  · unfold Declarations.resolveBinding at hresolved
    split at hresolved
    · cases hresolved
    · rw [← Option.some.inj hresolved]
      rfl
  · intro op hop
    obtain ⟨-, p, -, hmethods⟩ := Declarations.resolveBinding_spec hresolved
    rw [hmethods] at hop
    obtain ⟨⟨name, op'⟩, -, rfl⟩ := List.mem_map.mp hop
    dsimp only
    cases decl.operations.get? name with
    | none => rfl
    | some settings => rfl

/-! ## The wire -/

/-- Whatever the style of a method, its requests and its answers are written in the style of the binding: a client that
is bound to it sends the wrapper of a call or the element of a document, and so does a dispatcher whose handler
answers. Where the message has an element, this is the style of the method, which the document declares for it, if the
two styles are the same, and otherwise not. -/
theorem IsLoaded.written_in_binding_style {wsdl : Wsdl} (h : wsdl.IsLoaded) {name : String} {binding : Binding}
    (hb : (name, binding) ∈ wsdl.definitions.bindings) {method : String} {op : Operation}
    (hop : binding.methods.get? method = some op) :
    (∃ strict d decl, Declarations.parse wsdl.source strict = .ok d ∧ (name, decl) ∈ d.bindings ∧
      binding.style = decl.style.getD .document ∧
      op.style = ((decl.operations.get? method).bind OperationDecl.style).getD binding.style) ∧
    (let write := Client.encodeInput wsdl.definitions binding.style op;
      WritesIn wsdl.definitions binding.style method op.input write ∧
      (∀ ref, op.input.bind Message.element? = some ref →
        (WritesIn wsdl.definitions op.style method op.input write ↔ op.style = binding.style)) ∧
      ∀ c : Client, c.wsdl = wsdl → ∀ port endpoint, c.bound = .ok (port, binding) →
        (c.endpoint <|> port.location) = some endpoint → ∀ args, ∃ request, c.request method args = .ok request ∧
          request.body =
            Envelope.render (Markup.renderAll (write args).1) (write args).2 (c.header.map Markup.render)) ∧
    ∀ server : Dispatcher, server.wsdl = wsdl → ∀ path request route output, server.route path request = .ok route →
      route.binding = binding → route.operation.operation = method → route.output = some output →
      let write := Dispatcher.encodeResult wsdl.definitions route output;
      WritesIn wsdl.definitions binding.style (method ++ "Response") op.output write ∧
      (∀ ref, op.output.bind Message.element? = some ref →
        (WritesIn wsdl.definitions op.style (method ++ "Response") op.output write ↔ op.style = binding.style)) ∧
      ∀ handler result, server.handlers.get? route.operation = some handler →
        (handler route.args).answer? = some result → (server.invoke route).result =
          .ok (Envelope.render (Markup.renderAll (write result).1) (write result).2 none) := by
  have hkeyed : binding.methods.IsKeyedBy Operation.name := h.isIntegral.1.methods _ hb
  have hmem : (method, op) ∈ binding.methods := OrderedMap.mem_of_get? hop
  refine ⟨?_, ?_, ?_⟩
  · obtain ⟨strict, d, decl, hparse, hdecl, hstyle, hmethods⟩ := h.styles_declared hb
    exact ⟨strict, d, decl, hparse, hdecl, hstyle, hmethods _ hmem⟩
  · have hwrites : WritesIn wsdl.definitions binding.style method op.input
        (Client.encodeInput wsdl.definitions binding.style op) := by
      have hwritten := Client.writesIn_encodeInput wsdl.definitions binding.style op
      rwa [hkeyed.name_eq _ hmem] at hwritten
    refine ⟨hwrites, fun ref href => hwrites.iff_style_eq href, ?_⟩
    rintro c rfl port endpoint hbound hendpoint args
    exact Client.request_eq hbound hop hendpoint args
  · rintro server rfl path request route output hroute rfl rfl houtput
    obtain ⟨bound, element, -, -, -, hmethod, -⟩ := Dispatcher.of_route_eq_ok hroute
    rw [houtput] at hmethod
    have hwrites := Dispatcher.writesIn_encodeResult (d := server.definitions) hkeyed hmethod hop
    refine ⟨hwrites, fun ref href => hwrites.iff_style_eq href, ?_⟩
    intro handler result hhandler hanswer
    exact Dispatcher.result_invoke hhandler hanswer houtput

end Wsdl

/-- An order, as it is read. -/
def orderRequest : Envelope := { header := none, body := .object [("order", anOrder)] }

/-- Orders are placed and answered with documents in a binding of documents. -/
theorem Wsdl.IsLoaded.written_in_binding_style_orders :
    WritesIn orders placeOrder.style "place" placeOrder.input (Client.encodeInput orders .document placeOrder) ∧
    (∃ request, ordersClient.request "place" anOrder = .ok request ∧
      request.body = orders.documentText ordersClient.header ordersExchange.request anOrder) ∧
    ∃ route reply, ordersServer.dispatcher.route "/orders" orderRequest = .ok route ∧
      (ordersServer.dispatcher.invoke route).result = .ok reply ∧
      WritesIn orders placeOrder.style "placeResponse" placeOrder.output
        (Dispatcher.encodeResult orders route "receipt") := by
  have hloaded : ordersWsdl.IsLoaded := .parse _ _ parse_orders
  have hport : ordersServer.dispatcher.portFor? "/orders" = some ⟨"OrderService", "Main", "OrdersSoap"⟩ :=
    ordersAddress.portFor?_path hloaded.isIntegral.1 rfl rfl ordersServer.dispatcher rfl
  have hplace : ordersBinding.methods.get? "place" = some placeOrder := rfl
  have hmethod : Dispatcher.methodFor ordersBinding "order" = .ok ("place", some "receipt") := rfl
  have hroute := Dispatcher.route_eq_ok (d := ordersServer.dispatcher) orderRequest hport rfl rfl hmethod
  obtain ⟨-, ⟨-, hstyle, hrequest⟩, hserver⟩ :=
    IsLoaded.written_in_binding_style hloaded (List.mem_singleton_self ("OrdersSoap", _)) hplace
  obtain ⟨-, hanswer, hreply⟩ := hserver ordersServer.dispatcher rfl _ _ _ _ hroute rfl rfl rfl
  exact ⟨(hstyle _ rfl).mpr rfl, hrequest ordersClient rfl _ _ rfl rfl anOrder, _, _, hroute, hreply _ _ rfl rfl,
    (hanswer _ rfl).mpr rfl⟩

/-! ### An operation in two bindings -/

/-- A receipt is copied, by a method of a style. -/
def copyReceipt (style : Style) : Operation :=
  { name := "copy", style, soapAction := "", input := some receiptMessage, output := some receiptMessage
    inputBody := none, outputBody := none, documentation := none }

/-- A binding of a style, whose method has another. -/
def copyBinding (name : String) (style own : Style) : Binding :=
  { name, transport := "http://schemas.xmlsoap.org/soap/http", style, portType := "Copies"
    methods := [("copy", copyReceipt own)] }

def callsBinding : Binding := copyBinding "Calls" .rpc .document

def documentsBinding : Binding := copyBinding "Documents" .document .rpc

/-- The port of a binding. -/
def copyPort (name location : String) : Port := { name, location := some location, binding := name }

/-- A description in which the settings of a method have another style than its binding. -/
def copies : Definitions :=
  { name := none, targetNamespace := some "urn:orders", namespaces := [("o", "urn:orders")]
    schemas := {
      schemas := [("urn:orders", {
        targetNamespace := some "urn:orders", namespaces := [("o", "urn:orders")]
        elements := [("receipt", receiptDecl)] })]
      namespaces := [("o", "urn:orders")] }
    messages := [("Receipt", receiptMessage)]
    portTypes := [("Copies", { name := "Copies", operations := [("copy", copyReceipt .document)] })]
    bindings := [("Calls", callsBinding), ("Documents", documentsBinding)]
    services := [("Copies",
      { name := "Copies", documentation := none
        ports := [("Calls", copyPort "Calls" "http://copies/calls"),
          ("Documents", copyPort "Documents" "http://copies/documents")] })] }

/-- The element of a binding of a style, whose method has another. -/
def copyBindingMarkup (name style own : String) : Markup :=
  .element "binding" [("name", name), ("type", "Copies")]
    [leafMarkup "binding" [("style", style), ("transport", "http://schemas.xmlsoap.org/soap/http")],
      .element "operation" [("name", "copy")] [leafMarkup "operation" [("style", own)]]]

/-- The element of a port. -/
def copyPortMarkup (name location : String) : Markup :=
  .element "port" [("name", name), ("binding", name)] [leafMarkup "address" [("location", location)]]

/-- The document that describes the copies. -/
def copiesMarkup : Markup :=
  .element "definitions" [("xmlns:o", "urn:orders"), ("targetNamespace", "urn:orders")]
    [.plain "types" [.element "schema" [("targetNamespace", "urn:orders")]
        [leafMarkup "element" [("name", "receipt"), ("type", "xsd:int")]]],
      .element "message" [("name", "Receipt")] [leafMarkup "part" [("name", "body"), ("element", "o:receipt")]],
      .element "portType" [("name", "Copies")]
        [.element "operation" [("name", "copy")]
          [leafMarkup "input" [("message", "Receipt")], leafMarkup "output" [("message", "Receipt")]]],
      copyBindingMarkup "Calls" "rpc" "document", copyBindingMarkup "Documents" "document" "rpc",
      .element "service" [("name", "Copies")]
        [copyPortMarkup "Calls" "http://copies/calls", copyPortMarkup "Documents" "http://copies/documents"]]

/-- The loaded description of the copies. -/
def copiesWsdl : Wsdl := { definitions := copies, source := copiesMarkup.render, location := none }

theorem parse_copies : Wsdl.parse copiesMarkup.render {} = .ok copiesWsdl := by
  have hw : copiesMarkup.IsWritable := by decide +kernel
  rw [Wsdl.parse, Declarations.parse, copiesMarkup, Document.parse_render hw]
  decide +kernel

theorem isLoaded_copies : copiesWsdl.IsLoaded := .parse _ _ parse_copies

/-- A client at a port. -/
def copiesClient (port : String) : Client :=
  { wsdl := copiesWsdl, service := "Copies", port, endpoint := none, security := none }

/-- A receipt as the argument of a call. -/
def callOfReceipt : List Markup := [.plain "o:copy" [.text "7"]]

/-- A receipt as the answer to a call. -/
def answerOfReceipt : List Markup := [.plain "o:copyResponse" [.text "7"]]

/-- A receipt as a document. -/
def documentOfReceipt : List Markup := [.plain "o:receipt" [.text "7"]]

/-- The receipt in a request that was decoded. -/
def copyRequest (element : String) : Envelope := { header := none, body := .object [(element, .int 7)] }

/-- Where a request goes, whose element is answered under a name. -/
def copyRoute (binding : Binding) (output : String) : Dispatcher.Route :=
  { binding, operation := ⟨"Copies", binding.name, "copy"⟩, output := some output, args := .int 7 }

/-- The method of documents is called and answered as calls are, and the method of calls as documents are. -/
theorem not_written_in_operation_style :
    copiesWsdl.IsLoaded ∧
    (∃ op, callsBinding.methods.get? "copy" = some op ∧ op.style = .document ∧
      (∃ request table, (copiesClient "Calls").request "copy" (.int 7) = .ok request ∧
        request.body = Envelope.render (Markup.renderAll callOfReceipt) table none) ∧
      ¬ IsWrittenIn copies op.style "copy" op.input (.int 7) callOfReceipt ∧
      (∃ table, Dispatcher.route { wsdl := copiesWsdl } "/calls" (copyRequest "copy") =
          .ok (copyRoute callsBinding "copyResponse") ∧
        Dispatcher.encodeReply copies (copyRoute callsBinding "copyResponse") (.int 7) =
          Envelope.render (Markup.renderAll answerOfReceipt) table none) ∧
      ¬ IsWrittenIn copies op.style "copyResponse" op.output (.int 7) answerOfReceipt) ∧
    ∃ op, documentsBinding.methods.get? "copy" = some op ∧ op.style = .rpc ∧
      (∃ request table, (copiesClient "Documents").request "copy" (.int 7) = .ok request ∧
        request.body = Envelope.render (Markup.renderAll documentOfReceipt) table none) ∧
      ¬ IsWrittenIn copies op.style "copy" op.input (.int 7) documentOfReceipt := by
  have hport : Dispatcher.portFor? { wsdl := copiesWsdl } "/calls" = some ⟨"Copies", "Calls", "Calls"⟩ := by
    decide +kernel
  refine ⟨isLoaded_copies, ⟨_, rfl, rfl, ⟨_, _, rfl, rfl⟩, ?_, ⟨_, ?_, rfl⟩, ?_⟩, _, rfl, rfl, ⟨_, _, rfl, rfl⟩, ?_⟩
  · intro h
    have hcontent := h _ rfl
    exact absurd (congrArg startTagsAll hcontent) (by decide)
  · exact Dispatcher.route_eq_ok _ hport rfl rfl rfl
  · intro h
    have hcontent := h _ rfl
    exact absurd (congrArg startTagsAll hcontent) (by decide)
  · rintro ⟨tag, inside, hcontent, hqualified, -⟩
    obtain rfl : "o:receipt" = tag := (Markup.element.inj (List.cons.inj hcontent).1).1
    -- Behind whichever prefix, the wrapper of the method ends in another letter.
    rcases hqualified with hname | ⟨space, hname⟩
    · exact absurd hname (by decide)
    · have hlast := congrArg (fun tag => tag.toList.getLast?) hname
      have hletter : ((space ++ ":" ++ "copy").toList).getLast? = some 'y' := by
        rw [String.toList_append, List.getLast?_append]
        rfl
      exact absurd (hlast.trans hletter) (by decide)

end Soap
