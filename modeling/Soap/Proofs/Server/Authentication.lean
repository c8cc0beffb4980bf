import Soap.Proofs.Loopback

/-!
# Nothing runs before authentication

A dispatcher with an authenticator takes one of four courses (`Dispatcher.Course`): the text is no envelope, the
envelope has no security block, its security block is rejected, or it is accepted; and only the last one goes on
to the ports, the elements and the handlers. So a handler is called after its request was accepted
(`Server.authenticates_first`), and two requests that are refused alike are answered alike, whatever else is in
them and whatever is behind the dispatcher.
-/

namespace Soap

/-! ## Calls of handlers -/

/-- The handlers that are called, with their arguments, in order. -/
def invocations (activities : List Activity) : List (OperationKey × Value) :=
  activities.filterMap fun
    | .invoked operation args => some (operation, args)
    | .authenticated _ | .logged .. => none

theorem mem_invocations {activities : List Activity} {operation : OperationKey} {args : Value} :
    (operation, args) ∈ invocations activities ↔ .invoked operation args ∈ activities := by
  unfold invocations
  rw [List.mem_filterMap]
  constructor
  · rintro ⟨activity, hmem, hactivity⟩
    cases activity with
    | invoked operation' args' =>
      obtain ⟨rfl, rfl⟩ := Prod.mk.inj (Option.some.inj hactivity)
      exact hmem
    | authenticated _ | logged _ _ => cases hactivity
  · intro hmem
    exact ⟨_, hmem, rfl⟩

theorem invocations_append (before after : List Activity) :
    invocations (before ++ after) = invocations before ++ invocations after := List.filterMap_append

@[simp] theorem invocations_nil : invocations [] = [] := rfl

@[simp] theorem invocations_logged (kind text : String) (rest : List Activity) :
    invocations (.logged kind text :: rest) = invocations rest := rfl

@[simp] theorem invocations_authenticated (security : Value) (rest : List Activity) :
    invocations (.authenticated security :: rest) = invocations rest := rfl

/-! ## Courses of a dispatch -/

namespace Dispatcher

variable {d : Dispatcher} {accepts : Value → Bool} {path text : String}

/-- What becomes of the text that was sent to a path, if credentials are checked by `accepts`. -/
inductive Course (d : Dispatcher) (accepts : Value → Bool) (path text : String) :
    Traced (Except ServerError String) → Prop where
  | undecodable {e : DecodeError} (hdecode : Envelope.decode (some d.definitions) text = .error e) :
      Course d accepts path text (.quiet (.error (.decode e)))
  | missing {request : Envelope} (hdecode : Envelope.decode (some d.definitions) text = .ok request)
      (hsecurity : request.security? = none) :
      Course d accepts path text (.quiet (.error (.auth .missingSecurityHeader)))
  | rejected {request : Envelope} {security : Value}
      (hdecode : Envelope.decode (some d.definitions) text = .ok request)
      (hsecurity : request.security? = some security) (hrejected : accepts security = false) :
      Course d accepts path text
        { activities := [.authenticated security], result := .error (.auth .invalidCredentials) }
  | accepted {request : Envelope} {security : Value}
      (hdecode : Envelope.decode (some d.definitions) text = .ok request)
      (hsecurity : request.security? = some security) (haccepted : accepts security = true) :
      Course d accepts path text ((d.answer path request).after [.authenticated security])

/-- What is accepted is answered. -/
theorem dispatch_of_accepted (h : d.authenticator = some accepts) {request : Envelope}
    (hdecode : Envelope.decode (some d.definitions) text = .ok request) {security : Value}
    (hsecurity : request.security? = some security) (haccepted : accepts security = true) :
    d.dispatch path text = (d.answer path request).after [.authenticated security] := by
  unfold dispatch
  rw [hdecode]
  simp [authenticate, h, hsecurity, haccepted]

/-- Every dispatch takes one of the courses. -/
theorem course_dispatch (h : d.authenticator = some accepts) (path text : String) :
    Course d accepts path text (d.dispatch path text) := by
  cases hdecode : Envelope.decode (some d.definitions) text with
  | error e =>
    unfold dispatch
    rw [hdecode]
    exact .undecodable hdecode
  | ok request =>
    cases hsecurity : request.security? with
    | none =>
      unfold dispatch
      rw [hdecode]
      simpa [authenticate, h, hsecurity, Traced.quiet] using Course.missing hdecode hsecurity
    | some security =>
      cases haccepts : accepts security with
      | false =>
        unfold dispatch
        rw [hdecode]
        simpa [authenticate, h, hsecurity, haccepts] using Course.rejected hdecode hsecurity haccepts
      | true =>
        rw [dispatch_of_accepted h hdecode hsecurity haccepts]
        exact .accepted hdecode hsecurity haccepts

/-- What becomes of a request that was decoded hangs on its security block. -/
theorem Course.of_decoded {dispatched : Traced (Except ServerError String)} (h : Course d accepts path text dispatched)
    {request : Envelope} (hdecode : Envelope.decode (some d.definitions) text = .ok request) :
    match request.security? with
    | none => dispatched = .quiet (.error (.auth .missingSecurityHeader))
    | some security => dispatched =
      if accepts security then (d.answer path request).after [.authenticated security]
      else { activities := [.authenticated security], result := .error (.auth .invalidCredentials) } := by
  cases h with
  | undecodable hdecode' =>
    rw [hdecode] at hdecode'
    cases hdecode'
  | missing hdecode' hsecurity =>
    obtain rfl := Except.ok.inj (hdecode.symm.trans hdecode')
    rw [hsecurity]
  | rejected hdecode' hsecurity hrejected =>
    obtain rfl := Except.ok.inj (hdecode.symm.trans hdecode')
    rw [hsecurity]
    simp [hrejected]
  | accepted hdecode' hsecurity haccepted =>
    obtain rfl := Except.ok.inj (hdecode.symm.trans hdecode')
    rw [hsecurity]
    simp [haccepted]

/-- Answering calls one handler at most. -/
theorem length_invocations_answer (d : Dispatcher) (path : String) (request : Envelope) :
    (invocations (d.answer path request).activities).length ≤ 1 := by
  unfold answer
  split
  · exact Nat.zero_le 1
  · next route _ =>
    unfold invoke
    split
    · exact Nat.zero_le 1
    · exact Nat.le_refl 1

/-- A dispatch calls one handler at most. -/
theorem Course.length_invocations {dispatched : Traced (Except ServerError String)}
    (h : Course d accepts path text dispatched) : (invocations dispatched.activities).length ≤ 1 := by
  cases h with
  | undecodable _ | missing _ _ | rejected _ _ _ => exact Nat.zero_le 1
  | accepted _ _ _ => exact length_invocations_answer d path _

/-- The text is an envelope whose security block is accepted. -/
structure Admits (d : Dispatcher) (accepts : Value → Bool) (text : String) (security : Value) : Prop where
  decoded : ∃ request, Envelope.decode (some d.definitions) text = .ok request ∧ request.security? = some security
  accepted : accepts security = true

/-- A handler is called after the security block was accepted. -/
theorem Course.of_invoked {dispatched : Traced (Except ServerError String)} (h : Course d accepts path text dispatched)
    {operation : OperationKey} {args : Value} (hinvoked : .invoked operation args ∈ dispatched.activities) :
    ∃ security later, Admits d accepts text security ∧
      dispatched.activities = .authenticated security :: later ∧ .invoked operation args ∈ later := by
  cases h with
  | undecodable _ | missing _ _ => cases hinvoked
  | rejected _ _ _ => simp at hinvoked
  | @accepted request security hdecode hsecurity haccepted =>
    refine ⟨security, (d.answer path request).activities, ⟨⟨request, hdecode, hsecurity⟩, haccepted⟩, rfl, ?_⟩
    simpa [Traced.after] using hinvoked

/-! ## Refusals -/

/-- Both requests lack a security block, or both have one that is rejected. -/
inductive RefusedAlike (accepts accepts' : Value → Bool) (request request' : Envelope) : AuthError → Prop where
  | missing (h : request.security? = none) (h' : request'.security? = none) :
      RefusedAlike accepts accepts' request request' .missingSecurityHeader
  | rejected {security security' : Value} (h : request.security? = some security)
      (hrejected : accepts security = false) (h' : request'.security? = some security')
      (hrejected' : accepts' security' = false) :
      RefusedAlike accepts accepts' request request' .invalidCredentials

theorem RefusedAlike.symm {accepts' : Value → Bool} {request request' : Envelope} {e : AuthError}
    (h : RefusedAlike accepts accepts' request request' e) : RefusedAlike accepts' accepts request' request e := by
  cases h with
  | missing h h' => exact .missing h' h
  | rejected h hrejected h' hrejected' => exact .rejected h' hrejected' h hrejected

/-- The error of a refused request tells why it was refused, and no handler is called. -/
theorem Course.refused {dispatched : Traced (Except ServerError String)} (h : Course d accepts path text dispatched)
    {request : Envelope} (hdecode : Envelope.decode (some d.definitions) text = .ok request)
    {accepts' : Value → Bool} {request' : Envelope} {e : AuthError}
    (hrefused : RefusedAlike accepts accepts' request request' e) :
    dispatched.result = .error (.auth e) ∧ invocations dispatched.activities = [] := by
  have hcourse := h.of_decoded hdecode
  cases hrefused with
  | missing hmissing _ =>
    rw [hmissing] at hcourse
    obtain rfl := hcourse
    exact ⟨rfl, rfl⟩
  | rejected hsecurity hrejected _ _ =>
    rw [hsecurity] at hcourse
    dsimp only at hcourse
    rw [hrejected] at hcourse
    obtain rfl := hcourse
    exact ⟨rfl, rfl⟩

end Dispatcher

/-! ## Requests over HTTP -/

namespace Server

variable {s : Server} {request : HttpRequest}

/-- Everything that happens besides logging happens in the dispatch of a posted text. -/
theorem activities_handle (s : Server) (request : HttpRequest) :
    (∀ activity ∈ (s.handle request).activities, ∃ kind text, activity = .logged kind text) ∨
    ∃ text kind reply, s.authorizer.all (· request) = true ∧ request.method = "POST" ∧
      s.bodyText request = .ok text ∧
      (s.handle request).activities = .logged "received" text ::
        ((s.dispatcher.dispatch request.path text).activities ++ [.logged kind reply]) := by
  unfold handle
  split
  · split
    · next hauthorized =>
      unfold respond
      split
      · exact .inl (by simp [Traced.quiet])
      · split
        · next hmethod =>
          unfold post
          split
          · next text htext =>
            right
            unfold answerPost
            dsimp only
            split
            · exact ⟨text, _, _, hauthorized, hmethod, htext, rfl⟩
            · exact ⟨text, _, _, hauthorized, hmethod, htext, rfl⟩
          · exact .inl (by simp)
        · exact .inl (by simp [Traced.quiet])
    · exact .inl (by simp [Traced.quiet])
  · exact .inl (by simp [Traced.quiet])

/-- What happens in the dispatch of a posted text happens. -/
theorem mem_answerPost {text : String} {activity : Activity}
    (h : activity ∈ (s.dispatcher.dispatch request.path text).activities) :
    activity ∈ (s.answerPost request text).activities := by
  unfold answerPost
  dsimp only
  split <;> simp [h]

/-- No handler is called where everything is logging. -/
theorem invocations_eq_nil {activities : List Activity}
    (h : ∀ activity ∈ activities, ∃ kind text, activity = .logged kind text) : invocations activities = [] := by
  rw [List.eq_nil_iff_forall_not_mem]
  rintro ⟨operation, args⟩ hmem
  obtain ⟨kind, text, hlogged⟩ := h _ (mem_invocations.mp hmem)
  cases hlogged

/-- One handler at most is called, once. -/
theorem length_invocations_handle {accepts : Value → Bool} (haccepts : s.dispatcher.authenticator = some accepts)
    (request : HttpRequest) : (invocations (s.handle request).activities).length ≤ 1 := by
  rcases s.activities_handle request with hlogged | ⟨text, kind, reply, -, -, -, hactivities⟩
  · rw [invocations_eq_nil hlogged]
    exact Nat.zero_le 1
  · have hcourse := Dispatcher.course_dispatch haccepts request.path text
    rw [hactivities, invocations_logged, invocations_append]
    simpa using hcourse.length_invocations

/-- A handler is called after its request was authorized, posted, decoded and its security block accepted. -/
theorem of_invoked_handle {authorize : HttpRequest → Bool} (hauthorizer : s.authorizer = some authorize)
    {accepts : Value → Bool} (haccepts : s.dispatcher.authenticator = some accepts) {request : HttpRequest}
    {operation : OperationKey} {args : Value} (hinvoked : .invoked operation args ∈ (s.handle request).activities) :
    authorize request = true ∧ request.method = "POST" ∧
      ∃ text security earlier later, s.bodyText request = .ok text ∧
        s.dispatcher.Admits accepts text security ∧
        (s.handle request).activities = earlier ++ .authenticated security :: later ∧
        invocations earlier = [] ∧ .invoked operation args ∈ later := by
  rcases s.activities_handle request with hlogged | ⟨text, kind, reply, hauthorized, hmethod, htext, hactivities⟩
  · rw [← mem_invocations, invocations_eq_nil hlogged] at hinvoked
    cases hinvoked
  · rw [hactivities] at hinvoked ⊢
    have hdispatched : .invoked operation args ∈ (s.dispatcher.dispatch request.path text).activities := by
      simpa using hinvoked
    have hcourse := Dispatcher.course_dispatch haccepts request.path text
    obtain ⟨security, later, hadmits, hcons, hlater⟩ := hcourse.of_invoked hdispatched
    rw [hauthorizer] at hauthorized
    -- The received text was logged before, and the reply comes after.
    refine ⟨hauthorized, hmethod, text, security, [.logged "received" text], later ++ [.logged kind reply],
      htext, hadmits, ?_, rfl, List.mem_append_left _ hlater⟩
    rw [hcons]
    rfl

/-- A server calls one handler at most for a request, once, and after the request was authorized, posted,
decoded and its security block accepted. Two requests to dispatchers that check credentials are refused with
the same error if they lack a security block both, or have one that is rejected both: neither the path, nor
the rest of the envelope, nor what the dispatchers know and whom they call makes a difference. -/
theorem authenticates_first {authorize : HttpRequest → Bool} (hauthorizer : s.authorizer = some authorize)
    {accepts : Value → Bool} (haccepts : s.dispatcher.authenticator = some accepts) :
    (∀ request, (invocations (s.handle request).activities).length ≤ 1 ∧
      ∀ operation args, .invoked operation args ∈ (s.handle request).activities →
        authorize request = true ∧ request.method = "POST" ∧
        ∃ text security earlier later, s.bodyText request = .ok text ∧
          s.dispatcher.Admits accepts text security ∧
          (s.handle request).activities = earlier ++ .authenticated security :: later ∧
          invocations earlier = [] ∧ .invoked operation args ∈ later) ∧
    ∀ (d : Dispatcher) (accepts' : Value → Bool), d.authenticator = some accepts' →
      ∀ (path path' text text' : String) (envelope envelope' : Envelope) (e : AuthError),
        Envelope.decode (some s.dispatcher.definitions) text = .ok envelope →
        Envelope.decode (some d.definitions) text' = .ok envelope' →
        Dispatcher.RefusedAlike accepts accepts' envelope envelope' e →
        (s.dispatcher.dispatch path text).result = .error (.auth e) ∧
        (d.dispatch path' text').result = .error (.auth e) ∧
        invocations (s.dispatcher.dispatch path text).activities = [] ∧
        invocations (d.dispatch path' text').activities = [] := by
  constructor
  · intro request
    exact ⟨length_invocations_handle haccepts request, fun _ _ hinvoked =>
      of_invoked_handle hauthorizer haccepts hinvoked⟩
  · intro d accepts' haccepts' path path' text text' envelope envelope' e hdecode hdecode' hrefused
    obtain ⟨hresult, hnone⟩ := (Dispatcher.course_dispatch haccepts path text).refused hdecode hrefused
    obtain ⟨hresult', hnone'⟩ := (Dispatcher.course_dispatch haccepts' path' text').refused hdecode' hrefused.symm
    exact ⟨hresult, hresult', hnone, hnone'⟩

end Server

/-! ### Orders of the clerk only -/

/-- Does a security block name the clerk? -/
def namesClerk (security : Value) : Bool :=
  ((security.get? "UsernameToken").bind (·.get? "Username")).bind Value.string? == some "clerk"

/-- A server that takes orders at its own path, and from the clerk only. -/
def guardedServer : Server :=
  { ordersServer with
    dispatcher := { ordersServer.dispatcher with authenticator := some namesClerk }
    authorizer := some fun request => request.path == "/orders" }

/-- A dispatcher without handlers that asks for the clerk, too. -/
def emptyDispatcher : Dispatcher := { wsdl := ordersWsdl, authenticator := some namesClerk }

/-- An order under credentials. -/
def signedOrder (username password : String) : String :=
  orders.documentText (some (encodeSecurity username password)) ordersExchange.request anOrder

/-- A receipt under credentials. -/
def signedReceipt (username password : String) : String :=
  orders.documentText (some (encodeSecurity username password)) ordersExchange.response (.int 7)

/-- A text that is posted to the server. -/
def postedToOrders (text : String) : HttpRequest :=
  { method := "POST", target := "/orders", headers := [], body := Utf8.encode text }

theorem decode_signedOrder (username password : String) :
    Envelope.decode (some orders) (signedOrder username password) = .ok {
      header := some (.object [("Security", securityOf username password)])
      body := .object [("order", anOrder)] } :=
  ordersExchange.isDocument_input.decode hasWritableSpaces_orders rfl
    (readsHeader_security _ username password) conforms_order

theorem decode_signedReceipt (username password : String) :
    Envelope.decode (some orders) (signedReceipt username password) = .ok {
      header := some (.object [("Security", securityOf username password)])
      body := .object [("receipt", .int 7)] } := by
  have hreceipt : Conforms (some (orders.describeMessage receiptMessage)) (.int 7) := by
    rw [describe_receipt]
    exact rfl
  exact ordersExchange.isDocument_output.decode hasWritableSpaces_orders rfl
    (readsHeader_security _ username password) hreceipt

theorem serves_postedToOrders (text : String) : guardedServer.serves (postedToOrders text).path = true := by
  show guardedServer.serves (HttpRequest.pathOf "/orders") = true
  decide +kernel

theorem authorizer_postedToOrders (text : String) : guardedServer.authorizer.all (· (postedToOrders text)) = true := by
  show (HttpRequest.pathOf "/orders" == "/orders") = true
  decide

theorem bodyText_postedToOrders (text : String) : guardedServer.bodyText (postedToOrders text) = .ok text :=
  guardedServer.bodyText_eq_ok rfl rfl

/-- What is posted to the server is answered. -/
theorem handle_postedToOrders (text : String) :
    (guardedServer.handle (postedToOrders text)).activities =
      (guardedServer.answerPost (postedToOrders text) text).activities := by
  have hmethod : (postedToOrders text).method = "POST" := rfl
  rw [Server.handle_eq_post (serves_postedToOrders text) (authorizer_postedToOrders text) hmethod, Server.post,
    bodyText_postedToOrders]

/-- What the clerk sends goes on to the ports. -/
theorem dispatch_guarded (path : String) {text : String} {request : Envelope} {security : Value}
    (hdecode : Envelope.decode (some orders) text = .ok request) (hsecurity : request.security? = some security)
    (hclerk : namesClerk security = true) :
    guardedServer.dispatcher.dispatch path text =
      (guardedServer.dispatcher.answer path request).after [.authenticated security] := by
  have haccepts : guardedServer.dispatcher.authenticator = some namesClerk := rfl
  exact Dispatcher.dispatch_of_accepted haccepts hdecode hsecurity hclerk

/-- The clerk's order reaches its handler. -/
theorem invoked_signedOrder :
    .invoked ⟨"OrderService", "Main", "place"⟩ anOrder ∈
      (guardedServer.handle (postedToOrders (signedOrder "clerk" "s3cret"))).activities := by
  let request : Envelope :=
    { header := some (.object [("Security", securityOf "clerk" "s3cret")]), body := .object [("order", anOrder)] }
  have hport : guardedServer.dispatcher.portFor? "/orders" = some ⟨"OrderService", "Main", "OrdersSoap"⟩ := by
    decide +kernel
  have hroute := Dispatcher.route_eq_ok request hport rfl rfl rfl
  have hclerk : namesClerk (securityOf "clerk" "s3cret") = true := by decide
  have hdispatch := dispatch_guarded "/orders" (decode_signedOrder "clerk" "s3cret") rfl hclerk
  have hpath : (postedToOrders (signedOrder "clerk" "s3cret")).path = "/orders" := by
    show HttpRequest.pathOf "/orders" = "/orders"
    decide
  rw [handle_postedToOrders]
  apply Server.mem_answerPost
  rw [hpath, hdispatch]
  apply List.mem_cons_of_mem
  unfold Dispatcher.answer
  rw [hroute]
  exact List.mem_singleton_self _

/-- The clerk's order is handled after the clerk was recognized. Two others are told the same, though one sends an
order to its path and the other a receipt to a path that nobody knows. -/
theorem Server.authenticates_first_guarded :
    (∃ text security earlier later, guardedServer.bodyText (postedToOrders (signedOrder "clerk" "s3cret")) = .ok text ∧
      guardedServer.dispatcher.Admits namesClerk text security ∧
      (guardedServer.handle (postedToOrders (signedOrder "clerk" "s3cret"))).activities =
        earlier ++ .authenticated security :: later ∧
      invocations earlier = [] ∧ .invoked ⟨"OrderService", "Main", "place"⟩ anOrder ∈ later) ∧
    (guardedServer.dispatcher.dispatch "/orders" (signedOrder "guest" "s3cret")).result =
      .error (.auth .invalidCredentials) ∧
    (emptyDispatcher.dispatch "/nowhere" (signedReceipt "visitor" "")).result = .error (.auth .invalidCredentials) := by
  have hguarded : guardedServer.dispatcher.authenticator = some namesClerk := rfl
  obtain ⟨hruns, hpairs⟩ := Server.authenticates_first (s := guardedServer) rfl hguarded
  obtain ⟨-, -, hadmitted⟩ := (hruns _).2 _ _ invoked_signedOrder
  have hguest : namesClerk (securityOf "guest" "s3cret") = false := by decide +kernel
  have hvisitor : namesClerk (securityOf "visitor" "") = false := by decide +kernel
  obtain ⟨hresult, hresult', -⟩ := hpairs emptyDispatcher namesClerk rfl "/orders" "/nowhere" _ _ _ _ _
    (decode_signedOrder "guest" "s3cret") (decode_signedReceipt "visitor" "") (.rejected rfl hguest rfl hvisitor)
  exact ⟨hadmitted, hresult, hresult'⟩

end Soap
