import Soap.Proofs.Definitions.Lookup
import Soap.Proofs.Text.Split
import Soap.Proofs.Text.Utf8
import Soap.Server

/-!
# Answering requests

What a server without checks answers: a request finds the port at its path
(`Dispatcher.portFor?_of_unique`) and the method of its element (`Dispatcher.methodFor_document`),
the method's handler is called with what was decoded, and the text of the answer is what was encoded
of the result (`Server.handle_post`). Whatever is checked, a handler is called for nothing but the
operation that a decoded request goes to (`Dispatcher.of_invoked`).
-/

namespace Soap

/-! ## Paths -/

/-- Of two slashes at the end, each normalization strips one; of a single one nothing is left to
strip. -/
theorem normalizePath_normalizePath {path : String} (h : ¬ ['/', '/'] <:+ path.toList) :
    normalizePath (normalizePath path) = normalizePath path := by
  cases hcut : Text.beforeTail? ['/'] path.toList with
  | none =>
    have hpath : normalizePath path = path := by rw [normalizePath, hcut]; rfl
    rw [hpath, hpath]
  | some front =>
    have hpath : normalizePath path = String.ofList front := by rw [normalizePath, hcut]; rfl
    have hfront : Text.beforeTail? ['/'] front = none := by
      rw [Option.eq_none_iff_forall_ne_some]
      intro before hbefore
      refine h ⟨before, ?_⟩
      rw [Text.beforeTail?_eq_some.mp hcut, Text.beforeTail?_eq_some.mp hbefore, List.append_assoc]
      rfl
    rw [hpath, normalizePath, String.toList_ofList, hfront]
    rfl

/-! ## Routing -/

namespace Dispatcher

/-- A port that is the only one at its path is found there. -/
theorem portFor?_of_unique {d : Dispatcher} {path : String} {bound : BoundPort}
    (h : (normalizePath path, bound) ∈ locatedPorts d.definitions)
    (honly : ∀ entry ∈ locatedPorts d.definitions, entry.1 = normalizePath path → entry.2 = bound) :
    d.portFor? path = some bound := OrderedMap.get?_ofList_of_unique h honly

/-- The element of a document leads to the only method that takes it. -/
theorem methodFor_document {binding : Binding} (hkeyed : binding.methods.IsKeyedBy Operation.name)
    (hstyle : binding.style = .document) {method : String} {operation : Operation}
    (hmethod : binding.methods.get? method = some operation) {input : Message}
    (hinput : operation.input = some input)
    (honly : ∀ other ∈ binding.methods, ∀ m, other.2.input = some m → m.topName = input.topName →
      other.1 = method) :
    methodFor binding input.topName = .ok (method, operation.output.map Message.topName) := by
  let topOf (entry : String × Operation) : Option (String × TopElement) :=
    entry.2.input.map fun m =>
      (m.topName, { method := entry.1, output := entry.2.output.map Message.topName })
  let top : TopElement := { method, output := operation.output.map Message.topName }
  have htops : binding.topElements? =
      some (OrderedMap.ofList (binding.methods.filterMap topOf)) := by
    rw [Binding.topElements?, hstyle]
  -- Later entries of the table count, but under this element all of them say the same.
  have htop : (OrderedMap.ofList (binding.methods.filterMap topOf)).get? input.topName =
      some top := by
    refine OrderedMap.get?_ofList_of_unique ?_ fun entry hentry hname => ?_
    · refine List.mem_filterMap.mpr ⟨(method, operation), OrderedMap.mem_of_get? hmethod, ?_⟩
      exact congrArg (Option.map _) hinput
    · obtain ⟨other, hother, he⟩ := List.mem_filterMap.mp hentry
      obtain ⟨m, hm, rfl⟩ := Option.map_eq_some_iff.mp he
      have hsame := OrderedMap.get?_of_mem hkeyed.nodup hother
      rw [honly other hother m hm hname, hmethod] at hsame
      rw [honly other hother m hm hname, ← Option.some.inj hsame]
  rw [methodFor, htops]
  dsimp only
  rw [htop]

/-- A request goes to the method that its element leads to, on the port at its path. -/
theorem route_eq_ok {d : Dispatcher} {path : String} {bound : BoundPort} {binding : Binding}
    (request : Envelope) {element method : String} {args : Value} {output : Option String}
    (hport : d.portFor? path = some bound)
    (hbinding : d.definitions.bindings.get? bound.binding = some binding)
    (hbody : request.bodyElement? = some (element, args))
    (hmethod : methodFor binding element = .ok (method, output)) :
    d.route path request =
      .ok { binding, operation := ⟨bound.service, bound.port, method⟩, output, args } := by
  rw [route, hport, Option.getDM_some, pure_bind, hbinding, Option.getDM_some, pure_bind, hbody,
    Option.getDM_some, pure_bind]
  dsimp only
  rw [hmethod]
  rfl

/-- Without a check, a decoded request goes to its handler, and the answer is encoded. -/
theorem dispatch_eq {d : Dispatcher} (hopen : d.authenticator = none) {path text : String}
    {request : Envelope} (hdecode : Envelope.decode (some d.definitions) text = .ok request)
    {route : Route} (hroute : d.route path request = .ok route) {handler : Handler}
    (hhandler : d.handlers.get? route.operation = some handler) {result : Value}
    (hanswer : (handler route.args).answer? = some result) :
    d.dispatch path text =
      { activities := [.invoked route.operation route.args]
        result := .ok (encodeReply d.definitions route result) } := by
  simp only [dispatch, hdecode, authenticate, hopen, Traced.quiet, Traced.after, answer, hroute,
    invoke, hhandler, hanswer, List.nil_append]

/-- Without a check, a decoded request that goes nowhere is refused. -/
theorem dispatch_of_route_error {d : Dispatcher} (hopen : d.authenticator = none) {path text : String}
    {request : Envelope} (hdecode : Envelope.decode (some d.definitions) text = .ok request) {e : ServerError}
    (hroute : d.route path request = .error e) : (d.dispatch path text).result = .error e := by
  simp only [dispatch, hdecode, authenticate, hopen, Traced.quiet, Traced.after, answer, hroute]

/-- What is sent to an element that leads to no method is refused. -/
theorem dispatch_of_unrouted {d : Dispatcher} (hopen : d.authenticator = none)
    {path text : String} {request : Envelope}
    (hdecode : Envelope.decode (some d.definitions) text = .ok request) {bound : BoundPort}
    (hport : d.portFor? path = some bound) {binding : Binding}
    (hbinding : d.definitions.bindings.get? bound.binding = some binding) {element : String}
    {args : Value} (hbody : request.bodyElement? = some (element, args)) {e : ServerError}
    (hmethod : methodFor binding element = .error e) :
    (d.dispatch path text).result = .error e := by
  have hroute : d.route path request = .error e := by
    rw [route, hport, Option.getDM_some, pure_bind, hbinding, Option.getDM_some, pure_bind, hbody,
      Option.getDM_some, pure_bind]
    dsimp only
    rw [hmethod]
    rfl
  exact dispatch_of_route_error hopen hdecode hroute

/-- Where a request goes is told by its path and by the element in its body. -/
theorem of_route_eq_ok {d : Dispatcher} {path : String} {request : Envelope} {route : Route}
    (h : d.route path request = .ok route) :
    ∃ bound element, d.portFor? path = some bound ∧
      d.definitions.bindings.get? bound.binding = some route.binding ∧
      request.bodyElement? = some (element, route.args) ∧
      methodFor route.binding element = .ok (route.operation.operation, route.output) ∧
      route.operation.service = bound.service ∧ route.operation.port = bound.port := by
  obtain ⟨bound, hbound, h⟩ := bind_eq_ok h
  obtain ⟨binding, hbinding, h⟩ := bind_eq_ok h
  obtain ⟨⟨element, args⟩, hbody, h⟩ := bind_eq_ok h
  obtain ⟨⟨method, output⟩, hmethod, h⟩ := bind_eq_ok h
  obtain rfl := Except.ok.inj h
  exact ⟨bound, element, getDM_eq_ok hbound, getDM_eq_ok hbinding, getDM_eq_ok hbody, hmethod, rfl, rfl⟩

/-- Checking credentials calls no handler. -/
theorem invoked_not_mem_authenticate (d : Dispatcher) (request : Envelope) (key : OperationKey)
    (args : Value) : .invoked key args ∉ (d.authenticate request).activities := by
  unfold authenticate
  split
  · exact List.not_mem_nil
  · split <;> simp [Traced.quiet]

/-- A handler is called for the operation that a decoded request goes to, with its arguments. -/
theorem of_invoked {d : Dispatcher} {path text : String} {key : OperationKey} {args : Value}
    (h : .invoked key args ∈ (d.dispatch path text).activities) :
    ∃ request route, Envelope.decode (some d.definitions) text = .ok request ∧
      d.route path request = .ok route ∧ route.operation = key ∧ route.args = args := by
  unfold dispatch at h
  split at h
  · cases h
  · next request hdecode =>
    have hcheck := d.invoked_not_mem_authenticate request key args
    dsimp only at h
    split at h
    · exact absurd h hcheck
    · have hanswer := (List.mem_append.mp h).resolve_left hcheck
      unfold answer at hanswer
      split at hanswer
      · cases hanswer
      · next route hroute =>
        unfold invoke at hanswer
        split at hanswer
        · cases hanswer
        · obtain ⟨hkey, hargs⟩ := Activity.invoked.inj (List.mem_singleton.mp hanswer)
          exact ⟨request, route, hdecode, hroute, hkey.symm, hargs.symm⟩

end Dispatcher

/-- All values that a handler delivers, in their order. -/
def Handling.deliveries (h : Handling) : List Value :=
  match h.outcome with
  | .ready v => h.before ++ v :: h.later
  | .pending => h.before ++ h.later

/-- Of several deliveries only the first does anything. -/
theorem Completion.completeAll_cons (c : Completion) (v : Value) (rest : List Value) :
    c.completeAll (v :: rest) = (c.complete v).1 :=
  completeAll_of_isCompleted (isCompleted_complete c v) rest

/-- The answer of a handler is the first value that it delivers. -/
theorem Handling.answer?_eq (h : Handling) : h.answer? = h.deliveries.head? := by
  obtain ⟨before, outcome, later⟩ := h
  cases before with
  | cons v rest =>
    let answered := (Completion.start.share.complete v).1
    have hlater : answered.release.completeAll later = answered.release :=
      Completion.completeAll_of_isCompleted rfl later
    -- Whatever the handler returns, it has answered by then.
    have hrun : run ⟨v :: rest, outcome, later⟩ = answered.release.release := by
      unfold run
      rw [Completion.completeAll_cons]
      cases outcome <;> exact congrArg Completion.release hlater
    rw [answer?, hrun]
    cases outcome <;> rfl
  | nil =>
    cases outcome with
    | ready w =>
      have hlater : (Completion.start.share.complete w).1.release.completeAll later =
          (Completion.start.share.complete w).1.release := Completion.completeAll_of_isCompleted rfl later
      have hrun : run ⟨[], .ready w, later⟩ = (Completion.start.share.complete w).1.release.release :=
        congrArg Completion.release hlater
      rw [answer?, hrun]
      rfl
    | pending =>
      cases later with
      | nil => rfl
      | cons v rest =>
        have hrun : run ⟨[], .pending, v :: rest⟩ = (Completion.start.share.release.complete v).1.release :=
          congrArg Completion.release (Completion.completeAll_cons _ v rest)
        rw [answer?, hrun]
        rfl

/-- A handler that returns a value and has delivered none before answers with it, whatever comes
later. -/
theorem Handling.answer?_of_ready {handling : Handling} (hbefore : handling.before = []) {v : Value}
    (hready : handling.outcome = .ready v) : handling.answer? = some v := by
  rw [answer?_eq, deliveries, hready, hbefore]
  rfl

/-! ## Requests over HTTP -/

/-- A text that is sent arrives. -/
@[simp] theorem HttpResponse.text_ofText (status : Nat) (headers : List (String × String)) (text : String) :
    (ofText status headers text).text = text := Utf8.decodeLossy_encode text

namespace Server

/-- The text of a body that is sent as it is. -/
theorem bodyText_eq_ok (s : Server) {request : HttpRequest} (hencoding : encodingOf? request = none) {text : String}
    (hbody : request.body = Utf8.encode text) : s.bodyText request = .ok text := by
  rw [bodyText, bodyBytes, hencoding, hbody]
  show (Utf8.decode (Utf8.encode text)).mapError _ = _
  rw [Utf8.decode_encode]
  rfl

/-- What is posted is answered, unless it is for another path or turned away. -/
theorem handle_eq_post {s : Server} {request : HttpRequest} (hserves : s.serves request.path = true)
    (hauthorized : s.authorizer.all (· request) = true) (hmethod : request.method = "POST") :
    s.handle request = { activities := (s.post request).activities, result := some (s.post request).result } := by
  have hget : ¬ ((request.method = "GET" ∨ request.method = "HEAD") ∧
      request.query?.any asksForDescription = true) := by
    rintro ⟨hget | hhead, -⟩
    · exact absurd (hmethod.symm.trans hget) (by decide)
    · exact absurd (hmethod.symm.trans hhead) (by decide)
  have hrespond : s.respond request = s.post request := by rw [respond, if_neg hget, if_pos hmethod]
  rw [handle, if_pos hserves, if_pos hauthorized, hrespond]

/-- A posted text is dispatched, and its reply is the text of the answer. -/
theorem handle_post {s : Server} (hauthorizer : s.authorizer = none) {request : HttpRequest}
    (hserves : s.serves request.path = true) (hmethod : request.method = "POST")
    (hencoding : encodingOf? request = none) {text : String}
    (hbody : request.body = Utf8.encode text) {activities : List Activity} {reply : String}
    (hdispatch : s.dispatcher.dispatch request.path text = { activities, result := .ok reply }) :
    ∃ response, s.handle request =
        { activities := .logged "received" text :: activities ++ [.logged "replied" reply]
          result := some response } ∧
      response.status = 200 ∧ response.text = reply := by
  let response := HttpResponse.ofText 200 [("content-type", contentType request)] reply
  have hpost : s.post request =
      { activities := .logged "received" text :: activities ++ [.logged "replied" reply],
        result := response } := by
    rw [post, s.bodyText_eq_ok hencoding hbody]
    show s.answerPost request text = _
    rw [answerPost, hdispatch]
  refine ⟨response, ?_, rfl, HttpResponse.text_ofText 200 _ reply⟩
  rw [handle_eq_post hserves (by rw [hauthorizer]; rfl) hmethod, hpost]

end Server

end Soap
