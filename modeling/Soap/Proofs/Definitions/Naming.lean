import Soap.Proofs.Loopback

/-!
# The message that an element stands for

Names of messages and names of elements share one space. An element in a body stands for the message
of its name; only if there is none, for a message that carries it, and of several for the last
(`Definitions.StandsFor`, `Definitions.message?_eq_some_iff`). The decoder reads the element as this
message, whereas the server routes it to a method by what the methods take. Both find a message for
every element that is routed, and it is the same one unless the names collide
(`Wsdl.IsLoaded.reads_topElement`).
-/

namespace Soap

open Xml (Markup)

/-- The name of the element that carries a message. -/
def Message.elementName? (m : Message) : Option String := m.element?.map fun ref => ref.decl.name

theorem Message.elementName?_eq_some {m : Message} {e : String} :
    m.elementName? = some e ↔ ∃ ref, m.body = .element ref ∧ ref.decl.name = e := by
  rw [elementName?, Option.map_eq_some_iff]
  exact exists_congr fun ref => and_congr_left fun _ => Message.element?_eq_some

/-- A message is carried by an element of its schema or goes by its own name. -/
theorem Message.topName_eq (m : Message) : m.topName = m.elementName?.getD m.name := by
  rw [topName, elementName?]
  cases m.element? <;> rfl

namespace Definitions

/-- The message that an element stands for: the one of its name, or else the last that it
carries. -/
inductive StandsFor (d : Definitions) (e : String) (m : Message) : Prop where
  | named (h : d.messages.get? e = some m)
  | element (before after : OrderedMap String Message) (hnone : d.messages.get? e = none)
      (hm : d.messages = before ++ (m.name, m) :: after) (he : m.elementName? = some e)
      (hlast : ∀ other ∈ after, other.2.elementName? ≠ some e)

variable {d : Definitions} {e : String} {m : Message}

/-! ## Looking up a message -/

theorem get?_aliases (d : Definitions) (e : String) :
    d.aliases.get? e =
      (d.messages.reverse.find? fun entry => decide (entry.2.elementName? = some e)).map Prod.fst := by
  have hentries : d.aliases = OrderedMap.ofList (d.messages.filterMap fun entry =>
      entry.2.elementName?.map fun name => (name, entry.1)) := by
    simp only [aliases, Message.elementName?, Option.map_map, Function.comp_def]
  rw [hentries, OrderedMap.get?_ofList, ← List.filterMap_reverse]
  exact OrderedMap.get?_filterMap d.messages.reverse (fun entry => entry.2.elementName?) Prod.fst e

/-- The message of an alias is the last one that the element carries. -/
theorem IsKeyed.get?_aliases_eq_some (hk : d.IsKeyed) :
    (d.aliases.get? e).bind d.messages.get? = some m ↔
      ∃ before after, d.messages = before ++ (m.name, m) :: after ∧ m.elementName? = some e ∧
        ∀ other ∈ after, other.2.elementName? ≠ some e := by
  constructor
  · intro h
    obtain ⟨key, halias, hkey⟩ := Option.bind_eq_some_iff.mp h
    rw [get?_aliases, Option.map_eq_some_iff] at halias
    obtain ⟨entry, hfind, rfl⟩ := halias
    obtain ⟨hcarries, after, before, hsplit, hlast⟩ := List.find?_eq_some_iff_append.mp hfind
    have hmem : entry ∈ d.messages := List.mem_reverse.mp (List.mem_of_find?_eq_some hfind)
    obtain rfl : entry.2 = m :=
      Option.some.inj ((OrderedMap.get?_of_mem hk.messages.nodup hmem).symm.trans hkey)
    refine ⟨before.reverse, after.reverse, ?_, of_decide_eq_true hcarries, fun other hother => ?_⟩
    · rw [hk.messages.name_eq _ hmem, ← d.messages.reverse_reverse, hsplit, List.reverse_append,
        List.reverse_cons, List.append_assoc]
      rfl
    · simpa using hlast other (List.mem_reverse.mp hother)
  · rintro ⟨before, after, hsplit, hcarries, hlast⟩
    have hfind : (d.messages.reverse.find? fun entry => decide (entry.2.elementName? = some e)) =
        some (m.name, m) := by
      refine List.find?_eq_some_iff_append.mpr
        ⟨decide_eq_true hcarries, after.reverse, before.reverse, ?_, fun other hother => ?_⟩
      · rw [hsplit, List.reverse_append, List.reverse_cons, List.append_assoc]
        rfl
      · simpa using hlast other (List.mem_reverse.mp hother)
    have hmem : (m.name, m) ∈ d.messages := by rw [hsplit]; simp
    rw [get?_aliases, hfind]
    exact OrderedMap.get?_of_mem hk.messages.nodup hmem

/-- The message that is found under a name is the one that the name stands for. -/
theorem IsKeyed.message?_eq_some (hk : d.IsKeyed) : d.message? e = some m ↔ d.StandsFor e m := by
  rw [message?]
  cases hname : d.messages.get? e with
  | some found =>
    constructor
    · intro h
      exact .named (hname.trans h)
    · intro h
      cases h with
      | named h => exact hname.symm.trans h
      | element _ _ hnone _ _ _ => exact absurd (hname.symm.trans hnone) (by simp)
  | none =>
    show (d.aliases.get? e).bind d.messages.get? = some m ↔ _
    rw [hk.get?_aliases_eq_some]
    constructor
    · rintro ⟨before, after, hsplit, hcarries, hlast⟩
      exact .element before after hname hsplit hcarries hlast
    · intro h
      cases h with
      | named h => exact absurd (hname.symm.trans h) (by simp)
      | element before after _ hsplit hcarries hlast => exact ⟨before, after, hsplit, hcarries, hlast⟩

/-- The element that is to carry a declared message stands for some message. -/
theorem IsKeyed.exists_standsFor (hk : d.IsKeyed) (hm : d.messages.get? m.name = some m) :
    ∃ found, d.StandsFor m.topName found := by
  cases hname : d.messages.get? m.topName with
  | some found => exact ⟨found, .named hname⟩
  | none =>
    -- The message goes by its element, so the element has an alias, if of another message.
    have hcarries : m.elementName? = some m.topName := by
      rw [Message.topName_eq] at hname ⊢
      cases he : m.elementName? with
      | some e => rfl
      | none =>
        rw [he] at hname
        exact absurd (hm.symm.trans hname) (by simp)
    have hfind : (d.messages.reverse.find? fun entry =>
        decide (entry.2.elementName? = some m.topName)).isSome = true := by
      rw [List.find?_isSome]
      exact ⟨(m.name, m), List.mem_reverse.mpr (OrderedMap.mem_of_get? hm), decide_eq_true hcarries⟩
    obtain ⟨entry, hentry⟩ := Option.isSome_iff_exists.mp hfind
    have hmem : entry ∈ d.messages := List.mem_reverse.mp (List.mem_of_find?_eq_some hentry)
    refine ⟨entry.2, hk.message?_eq_some.mp ?_⟩
    rw [message?, hname, get?_aliases, hentry]
    exact OrderedMap.get?_of_mem hk.messages.nodup hmem

/-- A name stands for one message. -/
theorem StandsFor.unique (hk : d.IsKeyed) {m' : Message} (h : d.StandsFor e m)
    (h' : d.StandsFor e m') : m = m' :=
  Option.some.inj ((hk.message?_eq_some.mpr h).symm.trans (hk.message?_eq_some.mpr h'))

theorem StandsFor.findMessage? (hk : d.IsKeyed) (h : d.StandsFor e m) : d.findMessage? e = some m := by
  rw [Definitions.findMessage?, hk.message?_eq_some.mpr h]
  rfl

end Definitions

/-- Are the leaves of a message read by their types? Those of a call's parts are not. -/
def Message.isTyped (m : Message) : Bool :=
  match m.body with
  | .parts _ => false
  | .element _ | .unresolved _ => true

theorem messageSchema_of_findMessage? {d : Definitions} {e : String} {m : Message}
    (h : d.findMessage? e = some m) :
    messageSchema (some d) e = { description := d.describeMessage m, typed := m.isTyped } := by
  rw [messageSchema, Option.bind_some, h]
  rfl

/-! ## Loaded descriptions -/

/-- Every element that is routed stands for a message, and is read as it says. It is read as the
message that its method takes exactly if it stands for that one. A handler is called for the port at
the path of the request, with what the body's element holds, and for the method that the binding of
this port routes the element to. -/
theorem Wsdl.IsLoaded.reads_topElement {wsdl : Wsdl} (h : wsdl.IsLoaded) :
    (∀ b ∈ wsdl.definitions.bindings, ∀ tops, b.2.topElements? = some tops → ∀ top ∈ tops,
      ∃ op input found, b.2.methods.get? top.2.method = some op ∧ op.input = some input ∧
        wsdl.definitions.findMessage? top.1 = some found ∧ wsdl.definitions.StandsFor top.1 found ∧
        messageSchema (some wsdl.definitions) top.1 =
          { description := wsdl.definitions.describeMessage found, typed := found.isTyped } ∧
        (found = input ↔ wsdl.definitions.StandsFor top.1 input)) ∧
    ∀ server : Dispatcher, server.wsdl = wsdl → ∀ path text key args,
      .invoked key args ∈ (server.dispatch path text).activities →
        ∃ request bound binding element,
          Envelope.decode (some wsdl.definitions) text = .ok request ∧
          server.portFor? path = some bound ∧ key.service = bound.service ∧ key.port = bound.port ∧
          wsdl.definitions.bindings.get? bound.binding = some binding ∧
          request.bodyElement? = some (element, args) ∧
          ∀ tops, binding.topElements? = some tops →
            ∃ top, tops.get? element = some top ∧ top.method = key.operation := by
  obtain ⟨hkeyed, hintegral⟩ := h.isIntegral
  constructor
  · intro b hb tops htops top htop
    obtain ⟨op, input, hop, hinput, hname, -⟩ := hintegral.topElement_method b hb tops htops top htop
    have hdeclared : wsdl.definitions.messages.get? input.name = some input :=
      hintegral.method_carries b hb _ (OrderedMap.mem_of_get? hop) input (.inl hinput)
    obtain ⟨found, hfound⟩ := hkeyed.exists_standsFor hdeclared
    rw [hname] at hfound
    have hfind := hfound.findMessage? hkeyed
    refine ⟨op, input, found, hop, hinput, hfind, hfound, messageSchema_of_findMessage? hfind, ?_⟩
    constructor
    · rintro rfl
      exact hfound
    · exact hfound.unique hkeyed
  · rintro server rfl path text key args hinvoked
    obtain ⟨request, route, hdecode, hroute, rfl, rfl⟩ := Dispatcher.of_invoked hinvoked
    obtain ⟨bound, element, hport, hbinding, hbody, hmethod, hservice, hname⟩ := Dispatcher.of_route_eq_ok hroute
    refine ⟨request, bound, route.binding, element, hdecode, hport, hservice, hname, hbinding, hbody, ?_⟩
    intro tops htops
    rw [Dispatcher.methodFor, htops] at hmethod
    dsimp only at hmethod
    split at hmethod
    · next top htop =>
      exact ⟨top, htop, (Prod.mk.inj (Except.ok.inj hmethod)).1⟩
    · cases hmethod

/-- No message is called like the element of an order, so the element stands for the message that it
carries. It is also what the binding of the orders' port routes an order by. -/
theorem Wsdl.reads_topElement_order :
    ordersWsdl.IsLoaded ∧ orders.findMessage? "order" = some orderMessage ∧
    messageSchema (some orders) "order" =
      { description := orders.describeMessage orderMessage, typed := true } ∧
    .invoked ⟨"OrderService", "Main", "place"⟩ anOrder ∈
      (ordersServer.dispatcher.dispatch "/orders" plainOrder).activities ∧
    ∃ request element top, Envelope.decode (some orders) plainOrder = .ok request ∧
      request.bodyElement? = some (element, anOrder) ∧
      OrderedMap.get? [("order", (⟨"place", some "receipt"⟩ : TopElement))] element = some top ∧
      top.method = "place" := by
  have hloaded : ordersWsdl.IsLoaded := .parse _ _ parse_orders
  have htops : ordersBinding.topElements? = some [("order", ⟨"place", some "receipt"⟩)] := by decide
  obtain ⟨hreads, hcalls⟩ := hloaded.reads_topElement
  obtain ⟨op, input, found, hop, hinput, hfind, -, hschema, hsame⟩ :=
    hreads ("OrdersSoap", ordersBinding) (by simp [ordersWsdl, orders]) _ htops
      ("order", ⟨"place", some "receipt"⟩) (by simp)
  obtain rfl : placeOrder = op := Option.some.inj hop
  obtain rfl : orderMessage = input := Option.some.inj hinput
  have hstands : orders.StandsFor "order" orderMessage :=
    .element [] [("Receipt", receiptMessage), ("cancel", cancelMessage)] (by decide) rfl rfl (by decide)
  obtain rfl := hsame.mpr hstands
  have hport : ordersServer.dispatcher.portFor? "/orders" = some ⟨"OrderService", "Main", "OrdersSoap"⟩ := by
    decide +kernel
  have hinvoked : .invoked ⟨"OrderService", "Main", "place"⟩ anOrder ∈
      (ordersServer.dispatcher.dispatch "/orders" plainOrder).activities := by
    have hopen : ordersServer.dispatcher.authenticator = none := rfl
    have hroute := Dispatcher.route_eq_ok { header := none, body := .object [("order", anOrder)] } hport rfl rfl rfl
    have hdispatch := Dispatcher.dispatch_eq hopen decode_plainOrder hroute rfl rfl
    rw [hdispatch]
    exact List.mem_singleton_self _
  obtain ⟨request, bound, binding, element, hdecode, hbound, -, -, hbinding, hbody, hmethod⟩ :=
    hcalls ordersServer.dispatcher rfl _ _ _ _ hinvoked
  obtain rfl := Option.some.inj (hport.symm.trans hbound)
  obtain rfl : ordersBinding = binding := Option.some.inj hbinding
  obtain ⟨top, htop, hplace⟩ := hmethod _ htops
  exact ⟨hloaded, hfind, hschema, hinvoked, request, element, top, hdecode, hbody, htop, hplace⟩

/-! ## A desk where names collide -/

/-- A message of this name for a call that cancels an order. -/
def cancelParts (name : String) : Message :=
  { name, body := .parts [("id", { typeRef := "xsd:int", space := none })] }

/-- An order can be cancelled, without an answer. -/
def cancelOrder : Operation :=
  { name := "cancel", style := .document, soapAction := "", input := some (cancelParts "Cancellation")
    output := none, inputBody := none, outputBody := none, documentation := none }

/-- The binding of the desk. -/
def deskBinding : Binding :=
  { ordersBinding with name := "DeskSoap", methods := [("place", placeOrder), ("cancel", cancelOrder)] }

/-- A description that has a message of the name of an element that another message is carried
by. -/
def desk : Definitions :=
  { orders with
    messages := [("Order", orderMessage), ("Receipt", receiptMessage), ("order", cancelParts "order"),
      ("Cancellation", cancelParts "Cancellation")]
    portTypes := [("Orders",
      { name := "Orders", operations := [("place", placeOrder), ("cancel", cancelOrder)] })]
    bindings := [("DeskSoap", deskBinding)]
    services := [("DeskService",
      { name := "DeskService", ports := [("Main", { ordersPort with binding := "DeskSoap" })]
        documentation := none })] }

/-- The document that describes the desk. -/
def deskMarkup : Markup :=
  .element "definitions" [("xmlns:o", "urn:orders"), ("targetNamespace", "urn:orders")]
    [.plain "types" [ordersSchema],
      .element "message" [("name", "Order")] [leafMarkup "part" [("name", "body"), ("element", "o:order")]],
      .element "message" [("name", "Receipt")] [leafMarkup "part" [("name", "body"), ("element", "o:receipt")]],
      .element "message" [("name", "order")] [leafMarkup "part" [("name", "id"), ("type", "xsd:int")]],
      .element "message" [("name", "Cancellation")] [leafMarkup "part" [("name", "id"), ("type", "xsd:int")]],
      .element "portType" [("name", "Orders")]
        [.element "operation" [("name", "place")]
          [leafMarkup "input" [("message", "o:Order")], leafMarkup "output" [("message", "o:Receipt")]],
          .element "operation" [("name", "cancel")] [leafMarkup "input" [("message", "o:Cancellation")]]],
      .element "binding" [("name", "DeskSoap"), ("type", "o:Orders")]
        [leafMarkup "binding" [("transport", "http://schemas.xmlsoap.org/soap/http")]],
      .element "service" [("name", "DeskService")]
        [.element "port" [("name", "Main"), ("binding", "o:DeskSoap")]
          [leafMarkup "address" [("location", "http://localhost/orders")]]]]

/-- The loaded description of the desk. -/
def deskWsdl : Wsdl := { definitions := desk, source := deskMarkup.render, location := none }

/-- The document is loaded as the description of the desk. -/
theorem parse_desk : Wsdl.parse deskMarkup.render {} = .ok deskWsdl := by
  have hw : deskMarkup.IsWritable := by decide +kernel
  rw [Wsdl.parse, Declarations.parse, deskMarkup, Document.parse_render hw]
  decide +kernel

theorem isLoaded_desk : deskWsdl.IsLoaded := .parse _ _ parse_desk

/-- At the desk the element of an order is routed to the method that takes orders, but it is read as
the message that has its name, whose leaves stay text. -/
theorem not_reads_order_as_input :
    deskWsdl.IsLoaded ∧
    (messageSchema (some deskWsdl.definitions) "order").typed = false ∧
    ¬ ∀ b ∈ deskWsdl.definitions.bindings, ∀ tops, b.2.topElements? = some tops → ∀ top ∈ tops,
      ∃ op input, b.2.methods.get? top.2.method = some op ∧ op.input = some input ∧
        deskWsdl.definitions.findMessage? top.1 = some input := by
  refine ⟨isLoaded_desk, by decide, fun h => ?_⟩
  have htops : deskBinding.topElements? =
      some [("order", ⟨"place", some "receipt"⟩), ("Cancellation", ⟨"cancel", none⟩)] := by decide
  obtain ⟨op, input, hop, hinput, hfind⟩ :=
    h ("DeskSoap", deskBinding) (by simp [deskWsdl, desk]) _ htops
      ("order", ⟨"place", some "receipt"⟩) (by simp)
  obtain rfl : placeOrder = op := Option.some.inj hop
  obtain rfl : orderMessage = input := Option.some.inj hinput
  exact absurd hfind (by decide)

end Soap
