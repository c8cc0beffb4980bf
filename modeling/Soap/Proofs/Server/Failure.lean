import Soap.Proofs.Envelope.Fault
import Soap.Proofs.Loopback

/-!
# Failures as clients see them

A fault that is put into an envelope is raised by whoever decodes it, with the texts that went in, trimmed
(`Envelope.decode_fault`). Every error that a server answers with status 500 is sent in this way, so it comes out
of any client as it went into the server, whatever it quotes of the request (`Server.failures_reach_client`).
-/

namespace Soap

open Xml (Markup)
open Decoder (Frame body)

/-! ## Faults in envelopes -/

/-- The shape of a fault. -/
def faultOverlay : Option Description := body.schema.bind (·.child? "Fault")

/-- What is read of a fault. -/
def faultValue (code message : String) : Value :=
  .object [("faultcode", .string (Text.trim code)), ("faultstring", .string (Text.trim message))]

theorem isString_faultOverlay {name : String} (h : name ∈ ["faultcode", "faultstring"]) :
    IsString faultOverlay name := by
  simp only [List.mem_cons, List.not_mem_nil, or_false] at h
  rcases h with rfl | rfl
  · exact ⟨by decide, rfl, rfl⟩
  · exact ⟨by decide, rfl, rfl⟩

/-- A fault is no message: it is read by its own shape, with and without definitions. -/
theorem readsBody_fault (defs : Option Definitions) (code message : String) :
    ReadsBody defs [encodeFault code message] (.object [("Fault", faultValue code message)]) := by
  have hcode : IsTagOf "faultcode" "faultcode" := .inl rfl
  have hstring : IsTagOf "faultstring" "faultstring" := .inl rfl
  have hopen : ∀ outer, Decoder.openElement defs ⟨body :: outer, false, []⟩ "Fault" [] =
      ⟨Frame.opening "Fault" faultOverlay true :: body :: outer, false, []⟩ := fun _ => rfl
  apply readsBody_only (by decide) hopen (isTagOf_soap "Fault" (by decide)) .nil
  intro outer
  exact closesAs_strings defs "Fault" (by decide) (isString_faultOverlay (by simp)) (isString_faultOverlay (by simp))
    (by decide) hcode hstring code message outer

theorem areWritable_encodeFault (code message : String) : Markup.AreWritable [encodeFault code message] := by
  have hinside : Markup.AreWritable [.plain "faultcode" [.text code], .plain "faultstring" [.text message]] :=
    ⟨⟨by decide, by decide, trivial, trivial⟩, ⟨by decide, by decide, trivial, trivial⟩, trivial⟩
  exact areWritable_element (isTagOf_soap "Fault" (by decide)) (by decide) .nil hinside

/-- Without used entries, a table leaves no trace on the root. -/
theorem Envelope.render_of_unused {table : NamespaceTable} (h : table.used = []) (body : String)
    (header : Option String) : render body table header = render body .empty header := by
  have hdeclarations : table.declarations = NamespaceTable.empty.declarations := by
    rw [NamespaceTable.declarations, h]
    rfl
  unfold render NamespaceTable.toAttributes
  rw [hdeclarations]

/-- A rendered fault is raised with its two texts, without the blanks around them, and without details. -/
theorem Envelope.decode_fault (defs : Option Definitions) (code message : String) {table : NamespaceTable}
    (h : table.used = []) :
    decode defs (render (encodeFault code message).render table none) =
      .error (.fault { code := Text.trim code, message := Text.trim message, detail := none }) := by
  have hfault : Decoder.faultOf? (.object [("Fault", faultValue code message)]) =
      some { code := Text.trim code, message := Text.trim message, detail := none } := rfl
  have hrender : (encodeFault code message).render = Markup.renderAll [encodeFault code message] := by
    rw [Markup.renderAll, Markup.renderAll, String.append_empty]
  have hdecode := decode_render_body .empty (readsHeader_none defs) (areWritable_encodeFault code message)
    (readsBody_fault defs code message)
  rw [render_of_unused h, hrender]
  rw [hfault] at hdecode
  exact hdecode

/-! ## Answers with status 500 -/

theorem ServerError.trim_faultCode (e : ServerError) : Text.trim e.faultCode = e.faultCode := by
  unfold faultCode
  cases e.isClientFault
  · decide
  · decide

namespace Server

/-- What a posted request comes to: the envelope that answers it, or what goes wrong. -/
def outcome (s : Server) (request : HttpRequest) : Except ServerError String :=
  (s.bodyText request).bind fun text => (s.dispatcher.dispatch request.path text).result

/-- A posted request is answered with what it comes to. -/
theorem result_post (s : Server) (request : HttpRequest) :
    (s.post request).result =
      match s.outcome request with
      | .ok reply => .ofText 200 [("content-type", contentType request)] reply
      | .error e => failure request e := by
  unfold post outcome
  cases s.bodyText request with
  | error e => rfl
  | ok text =>
    show (s.answerPost request text).result = match (s.dispatcher.dispatch request.path text).result with
      | .ok reply => .ofText 200 [("content-type", contentType request)] reply
      | .error e => failure request e
    unfold answerPost
    dsimp only
    cases (s.dispatcher.dispatch request.path text).result <;> rfl

/-- A failure is a fault under status 500, unless it is about the encoding of the request. -/
theorem failure_cases (request : HttpRequest) (e : ServerError) :
    (failure request e).status = 415 ∨
    failure request e = .ofText 500 [("content-type", contentType request)]
      (Envelope.render (encodeFault e.faultCode e.message).render .empty none) := by
  unfold failure
  split
  · exact .inl rfl
  · exact .inr rfl

/-- Only what is posted is answered with status 500, and only if something goes wrong. -/
theorem of_status_500 {s : Server} {request : HttpRequest} {response : HttpResponse}
    (h : (s.handle request).result = some response) (hstatus : response.status = 500) :
    ∃ e, s.outcome request = .error e ∧ response = failure request e := by
  have hstatusOf : ∀ {code headers text}, code ≠ 500 → response ≠ .ofText code headers text := by
    rintro code headers text hcode rfl
    exact hcode hstatus
  unfold handle at h
  split at h
  · split at h
    · have hresponse : (s.respond request).result = response := Option.some.inj h
      unfold respond at hresponse
      split at hresponse
      · exact absurd hresponse.symm (hstatusOf (by decide))
      · split at hresponse
        · rw [result_post] at hresponse
          split at hresponse
          · exact absurd hresponse.symm (hstatusOf (by decide))
          · next e houtcome => exact ⟨e, houtcome, hresponse.symm⟩
        · exact absurd hresponse.symm (hstatusOf (by decide))
    · exact absurd (Option.some.inj h).symm (hstatusOf (by decide))
  · cases h

/-- What goes wrong with a request that is served and posted is answered with status 500, unless it is the encoding. -/
theorem handle_of_error {s : Server} {request : HttpRequest} (hserves : s.serves request.path = true)
    (hauthorized : s.authorizer.all (· request) = true) (hmethod : request.method = "POST") {e : ServerError}
    (he : s.outcome request = .error e) (hencoding : ∀ encoding, e ≠ .unsupportedEncoding encoding) :
    ∃ response, (s.handle request).result = some response ∧ response.status = 500 := by
  refine ⟨failure request e, ?_, ?_⟩
  · rw [handle_eq_post hserves hauthorized hmethod]
    show some (s.post request).result = _
    rw [result_post, he]
  · unfold failure
    split
    · next encoding => exact absurd rfl (hencoding encoding)
    · rfl

/-- A fault in an envelope is decoded as the fault that it is, by any decoder. So whatever a server answers with
status 500 is raised by any client, with the code of what went wrong and with its message, in which everything
that it quotes of the request is intact. -/
theorem failures_reach_client :
    (∀ (defs : Option Definitions) (code message : String) (table : NamespaceTable), table.used = [] →
      Envelope.decode defs (Envelope.render (encodeFault code message).render table none) =
        .error (.fault { code := Text.trim code, message := Text.trim message, detail := none })) ∧
    ∀ (s : Server) (request : HttpRequest) (response : HttpResponse),
      (s.handle request).result = some response → response.status = 500 →
      ∃ e, s.outcome request = .error e ∧
        ∀ c : Client, c.parseResponse response.text =
          .error (.fault { code := e.faultCode, message := Text.trim e.message, detail := none }) := by
  constructor
  · intro defs code message table h
    exact Envelope.decode_fault defs code message h
  · intro s request response h hstatus
    obtain ⟨e, he, rfl⟩ := of_status_500 h hstatus
    refine ⟨e, he, ?_⟩
    intro c
    rcases failure_cases request e with hencoding | hfailure
    · rw [hencoding] at hstatus
      cases hstatus
    · have htext : (failure request e).text =
          Envelope.render (encodeFault e.faultCode e.message).render .empty none := by
        rw [hfailure, HttpResponse.text_ofText]
      rw [Client.parseResponse_fault_iff, htext, Envelope.decode_fault _ _ _ rfl, e.trim_faultCode]

end Server

/-! ### A path that nothing is bound to -/

/-- A server at a path that none of its ports has. -/
def strayServer : Server := { ordersServer with path := some "/<&>" }

/-- A text that is posted to the server. -/
def strayRequest (text : String) : HttpRequest :=
  { method := "POST", target := "/<&>", headers := [], body := Utf8.encode text }

theorem path_strayRequest (text : String) : (strayRequest text).path = "/<&>" := by
  show HttpRequest.pathOf "/<&>" = "/<&>"
  decide

/-- What is decoded goes nowhere. -/
theorem outcome_strayRequest {text : String} {request : Envelope}
    (hdecode : Envelope.decode (some orders) text = .ok request) :
    strayServer.outcome (strayRequest text) = .error (.unknownPath "/<&>") := by
  have htext : strayServer.bodyText (strayRequest text) = .ok text := strayServer.bodyText_eq_ok rfl rfl
  have hport : strayServer.dispatcher.portFor? "/<&>" = none := by decide +kernel
  have hroute : strayServer.dispatcher.route "/<&>" request = .error (.unknownPath "/<&>") := by
    rw [Dispatcher.route, hport]
    rfl
  have hdispatch := Dispatcher.dispatch_of_route_error (d := strayServer.dispatcher) rfl hdecode hroute
  rw [Server.outcome, htext, path_strayRequest]
  exact hdispatch

theorem handle_strayRequest {text : String} {request : Envelope}
    (hdecode : Envelope.decode (some orders) text = .ok request) :
    ∃ response, (strayServer.handle (strayRequest text)).result = some response ∧ response.status = 500 := by
  have hserves : strayServer.serves (strayRequest text).path = true := by
    rw [path_strayRequest]
    decide +kernel
  apply Server.handle_of_error hserves rfl rfl (outcome_strayRequest hdecode)
  rintro encoding ⟨⟩

/-- The client is told the path, with all its special characters. -/
theorem Server.failures_reach_client_stray :
    (∃ response, (strayServer.handle (strayRequest plainOrder)).result = some response ∧ response.status = 500 ∧
      ∀ c : Client, c.parseResponse response.text = .error (.fault
        { code := "soap:Server", message := "no port bound to path '/<&>'", detail := none })) ∧
    ∀ defs, Envelope.decode defs (Envelope.render (encodeFault " <c> " "&m;").render .empty none) =
      .error (.fault { code := "<c>", message := "&m;", detail := none }) := by
  obtain ⟨hdecodes, hreach⟩ := Server.failures_reach_client
  constructor
  · obtain ⟨response, hresponse, hstatus⟩ := handle_strayRequest decode_plainOrder
    obtain ⟨e, he, hclients⟩ := hreach _ _ response hresponse hstatus
    rw [outcome_strayRequest decode_plainOrder] at he
    obtain rfl := Except.error.inj he
    have htrim : Text.trim (ServerError.unknownPath "/<&>").message = "no port bound to path '/<&>'" := by
      decide +kernel
    refine ⟨response, hresponse, hstatus, ?_⟩
    intro c
    rw [hclients c, htrim]
    rfl
  · intro defs
    have hcode : Text.trim " <c> " = "<c>" := by decide +kernel
    have hmessage : Text.trim "&m;" = "&m;" := by decide +kernel
    rw [hdecodes defs _ _ .empty rfl, hcode, hmessage]

end Soap
