import Soap.Proofs.Definitions.Naming
import Soap.Proofs.Loopback

/-!
# Where a request is routed

A client writes the arguments of a method as one element, and a server routes that element by what
the methods take. A message that has an element of a schema is written and routed under its name.
For any other message the client takes the name of the method whereas the server goes by the name of
the message (`Message.topName`), so that the request arrives only where the two are the same
(`Client.routed_iff`).
-/

namespace Soap

open Xml (Markup)

/-! ## Elements that are written -/

/-- The name of the body element that a client writes for a method of a document. -/
def Operation.requestName (op : Operation) : String :=
  (op.input.bind Message.elementName?).getD op.name

/-- `tag` is `name` behind some prefix or none. -/
def IsQualified (tag name : String) : Prop := tag = name ∨ ∃ space, tag = space ++ ":" ++ name

theorem isQualified_qualify (table : NamespaceTable) (space : Option String) (name : String) :
    IsQualified (qualify table space name).1 name := by
  cases space with
  | none => exact .inl rfl
  | some ns => exact .inr ⟨_, rfl⟩

theorem encodeDocument_object (reg : SchemaRegistry) (table : NamespaceTable) (name : String)
    (decl : ElementDecl) (fields : List (String × Value)) :
    ∃ tag inside, (encodeDocument reg table name decl (.object fields)).1 = [.plain tag inside] ∧
      IsQualified tag name := by
  rw [encodeDocument, encodeElement]
  exact ⟨_, _, rfl, isQualified_qualify ..⟩

theorem encodeCall_eq (table : NamespaceTable) (name : String) (space : Option String) (v : Value) :
    ∃ tag inside, (encodeCall table name space v).1 = [.plain tag inside] ∧ IsQualified tag name :=
  ⟨_, _, rfl, isQualified_qualify ..⟩

/-- A request for a document is one element, called as the operation asks for. -/
theorem Client.encodeInput_document (d : Definitions) (op : Operation) (fields : List (String × Value)) :
    ∃ tag inside, (encodeInput d .document op (.object fields)).1 = [.plain tag inside] ∧
      IsQualified tag op.requestName := by
  rw [encodeInput, Operation.requestName]
  cases hinput : op.input with
  | none => exact encodeCall_eq ..
  | some input =>
    rw [Option.bind_some, Option.bind_some, Message.elementName?]
    cases input.element? with
    | none => exact encodeCall_eq ..
    | some ref => exact encodeDocument_object ..

/-! ## Methods that are found -/

namespace Binding

/-- No two methods take messages that are carried by elements of one name. -/
def HasDistinctInputs (b : Binding) : Prop :=
  ∀ one ∈ b.methods, ∀ other ∈ b.methods, ∀ m m', one.2.input = some m → other.2.input = some m' →
    m.topName = m'.topName → one.1 = other.1

/-- An element leads to a method exactly if it is the one that carries what the method takes. -/
theorem routes_iff {b : Binding} (hkeyed : b.methods.IsKeyedBy Operation.name)
    (hstyle : b.style = .document) (hdistinct : b.HasDistinctInputs) {method : String}
    {op : Operation} (hop : b.methods.get? method = some op) {input : Message}
    (hinput : op.input = some input) (element : String) :
    (∃ output, Dispatcher.methodFor b element = .ok (method, output)) ↔ input.topName = element := by
  constructor
  · rintro ⟨output, h⟩
    rw [Dispatcher.methodFor] at h
    split at h
    · next hnone =>
      rw [topElements?, hstyle] at hnone
      cases hnone
    · next tops htops =>
      split at h
      · next top htop =>
        obtain ⟨op', input', hop', hinput', hname, -⟩ :=
          topElement_method hkeyed htops (OrderedMap.mem_of_get? htop)
        rw [(Prod.mk.inj (Except.ok.inj h)).1, hop] at hop'
        obtain rfl := Option.some.inj hop'
        obtain rfl := Option.some.inj (hinput.symm.trans hinput')
        exact hname
      · cases h
  · rintro rfl
    refine ⟨_, Dispatcher.methodFor_document hkeyed hstyle hop hinput ?_⟩
    intro other hother m hm hname
    exact hdistinct other hother _ (OrderedMap.mem_of_get? hop) m input hm hinput hname

end Binding

/-! ## Requests -/

/-- The name under which a client writes a message is the one it is routed by exactly if the message
has an element or is called like the method. -/
theorem Operation.topName_eq_requestName_iff {op : Operation} {input : Message}
    (hinput : op.input = some input) :
    input.topName = op.requestName ↔ (∃ ref, input.body = .element ref) ∨ input.name = op.name := by
  rw [requestName, hinput, Option.bind_some, Message.topName_eq]
  cases hname : input.elementName? with
  | some e =>
    obtain ⟨ref, hbody, -⟩ := Message.elementName?_eq_some.mp hname
    exact iff_of_true rfl (.inl ⟨ref, hbody⟩)
  | none =>
    constructor
    · exact .inr
    · rintro (⟨ref, hbody⟩ | h)
      · have hname' := Message.elementName?_eq_some.mpr ⟨ref, hbody, rfl⟩
        rw [hname] at hname'
        cases hname'
      · exact h

/-- The request for a method is one element. It is routed back to the method exactly if what the
method takes has an element of a schema, or is called like the method. -/
theorem Client.routed_iff {wsdl : Wsdl} (hwsdl : wsdl.IsLoaded) {c : Client} (hc : c.wsdl = wsdl)
    {port : Port} {binding : Binding} (hbound : c.bound = .ok (port, binding))
    (hstyle : binding.style = .document) (hdistinct : binding.HasDistinctInputs) {method : String}
    {op : Operation} (hop : binding.methods.get? method = some op) {input : Message}
    (hinput : op.input = some input) {endpoint : String}
    (hendpoint : (c.endpoint <|> port.location) = some endpoint) (fields : List (String × Value)) :
    ∃ request tag inside table, c.request method (.object fields) = .ok request ∧
      request.body =
        Envelope.render (Markup.renderAll [.plain tag inside]) table (c.header.map Markup.render) ∧
      IsQualified tag op.requestName ∧
      ((∃ output, Dispatcher.methodFor binding op.requestName = .ok (method, output)) ↔
        (∃ ref, input.body = .element ref) ∨ input.name = method) := by
  obtain rfl := hc
  have hkeyed : binding.methods.IsKeyedBy Operation.name := by
    obtain ⟨port', -, h⟩ := bind_eq_ok hbound
    obtain ⟨binding', hbinding, h⟩ := bind_eq_ok h
    obtain ⟨-, rfl⟩ := Prod.mk.inj (Except.ok.inj h)
    exact hwsdl.isIntegral.1.methods _ (OrderedMap.mem_of_get? (getDM_eq_ok hbinding))
  have hname : op.name = method := hkeyed.name_eq _ (OrderedMap.mem_of_get? hop)
  obtain ⟨tag, inside, hencode, htag⟩ := encodeInput_document c.definitions op fields
  refine ⟨{ endpoint, soapAction := op.soapAction, contentType := SoapRequest.envelopeType
            body := _ }, tag, inside, (encodeInput c.definitions .document op (.object fields)).2,
    ?_, rfl, htag, ?_⟩
  · rw [request, hbound, ok_bind]
    dsimp only
    rw [hop, Option.getDM_some, pure_bind, hendpoint, Option.getDM_some, pure_bind, hstyle, ← hencode,
      header, Option.map_map]
    rfl
  · rw [binding.routes_iff hkeyed hstyle hdistinct hop hinput,
      Operation.topName_eq_requestName_iff hinput, hname]

/-! ### Requests of the desk -/

/-- The port of the desk. -/
def deskPort : Port := { ordersPort with binding := "DeskSoap" }

/-- A client of the desk. -/
def deskClient : Client :=
  { wsdl := deskWsdl, service := "DeskService", port := "Main", endpoint := none, security := none }

theorem hasDistinctInputs_desk : deskBinding.HasDistinctInputs := by
  intro one hone other hother m m' hm hm' hname
  simp only [deskBinding, List.mem_cons, List.not_mem_nil, or_false] at hone hother
  rcases hone with rfl | rfl <;> rcases hother with rfl | rfl
  · rfl
  · obtain rfl := Option.some.inj hm
    obtain rfl := Option.some.inj hm'
    exact absurd hname (by decide)
  · obtain rfl := Option.some.inj hm
    obtain rfl := Option.some.inj hm'
    exact absurd hname (by decide)
  · rfl

/-- An order has an element, so its request is routed. -/
theorem Client.routed_order :
    ∃ request, deskClient.request "place" anOrder = .ok request ∧
      ∃ output, Dispatcher.methodFor deskBinding "order" = .ok ("place", output) := by
  have hbound : deskClient.bound = .ok (deskPort, deskBinding) := rfl
  have hplace : deskBinding.methods.get? "place" = some placeOrder := rfl
  have hinput : placeOrder.input = some orderMessage := rfl
  obtain ⟨request, _, _, _, hrequest, -, -, hrouted⟩ :=
    Client.routed_iff isLoaded_desk rfl hbound rfl hasDistinctInputs_desk hplace hinput rfl
      [("id", .int 7), ("paid", .bool true), ("line", .list [.string "a < b"])]
  exact ⟨request, hrequest, hrouted.mpr (.inl ⟨_, rfl⟩)⟩

/-- A server for the desk. -/
def deskServer : Dispatcher := { wsdl := deskWsdl }

/-- The number of the order to cancel. -/
def cancelled : Value := .object [("id", .int 7)]

/-- What the client of the desk writes of a cancellation. -/
def cancellationText : String :=
  let written := encodeCall (.ofDeclarations desk.namespaces) "cancel" none cancelled
  Envelope.render (Markup.renderAll written.1) written.2 none

theorem messageSchema_cancellation :
    messageSchema (some desk) "cancel" =
      { description := .fields [("id", .leaf "xsd:int")], typed := false } := by
  have hfind : desk.findMessage? "cancel" = some (cancelParts "Cancellation") := by decide
  rw [messageSchema_of_findMessage? hfind]
  simp [Definitions.describeMessage, cancelParts, SchemaRegistry.describeType, SchemaRegistry.describeRef,
    isPrimitive_order, Message.isTyped]

theorem decode_cancellation :
    Envelope.decode (some desk) cancellationText =
      .ok { header := none, body := .object [("cancel", cancelled.text)] } := by
  have hclean : (NamespaceTable.ofDeclarations desk.namespaces).IsClean := .ofDeclarations (by decide)
  have hspace : ∀ u ∈ (none : Option String), IsWritableUri u := by simp
  have hspells := spells_encodeCall hclean hspace "cancel" [("id", .int 7)]
  have hback : ReadBack (messageSchema (some desk) "cancel").typed (IsKeptLeaf false) Value.asText := by
    rw [messageSchema_cancellation]
    exact readBack_kept false
  have hfit : Fits (IsKeptLeaf false) (some (messageSchema (some desk) "cancel").description)
      cancelled := by
    rw [messageSchema_cancellation]
    exact FitsUntyped.kept ⟨by decide, by decide, by simp, ⟨rfl, trivial⟩, trivial⟩
  exact decode_of_spells hspells.2 (readsHeader_none _) (by decide) (by decide) hback hfit hspells.1

theorem dispatch_cancellation :
    (deskServer.dispatch "/orders" cancellationText).result = .error (.unknownElement "cancel") := by
  have hport : deskServer.portFor? "/orders" = some ⟨"DeskService", "Main", "DeskSoap"⟩ := by
    decide +kernel
  have hbinding : deskServer.definitions.bindings.get? "DeskSoap" = some deskBinding := rfl
  have hmethod : Dispatcher.methodFor deskBinding "cancel" = .error (.unknownElement "cancel") := rfl
  exact Dispatcher.dispatch_of_unrouted (d := deskServer) rfl decode_cancellation hport hbinding rfl hmethod

/-- A cancellation has no element. Its request is written under the name of the method, which no
method takes. -/
theorem not_routed_cancel :
    deskWsdl.IsLoaded ∧ deskClient.wsdl = deskWsdl ∧ deskClient.bound = .ok (deskPort, deskBinding) ∧
    deskBinding.style = .document ∧ deskBinding.HasDistinctInputs ∧
    deskBinding.methods.get? "cancel" = some cancelOrder ∧
    cancelOrder.input = some (cancelParts "Cancellation") ∧
    ∃ request, deskClient.request "cancel" cancelled = .ok request ∧
      (deskServer.dispatch "/orders" request.body).result = .error (.unknownElement "cancel") := by
  have hrequest : deskClient.request "cancel" cancelled =
      .ok { endpoint := "http://localhost/orders", soapAction := ""
            contentType := SoapRequest.envelopeType, body := cancellationText } := rfl
  exact ⟨isLoaded_desk, rfl, rfl, rfl, hasDistinctInputs_desk, rfl, rfl, _, hrequest,
    dispatch_cancellation⟩

end Soap
