import Mathlib.Data.List.Basic
import Soap.Proofs.Server
import Soap.Proofs.Server.Race

/-!
# A request completes once

Whatever the order in which a race for a completion goes, the call that takes the slot first is the only one
that is accepted, and what the dispatcher receives is its value; the error that no result came is for the case
that all clones were dropped and there was no call at all (`Race.completes_once`). What is decided stays decided
(`Race.Keeps`), and the outcome is that of the same deliveries made one after the other, which is how
`Dispatcher.invoke` counts them (`Race.IsSound.invoke_eq`). To make them so is itself one of the races
(`Race.exists_leads_run`).
-/

namespace Soap

namespace Race

variable {s s' : Race} {i : Nat} {c : Call}

/-! ## What is decided stays decided -/

/-- What was decided in the one state is decided in the other, in the same way. -/
structure Keeps (s s' : Race) : Prop where
  completed : s.completion.isCompleted = true → s'.completion.isCompleted = true
  first : ∀ i, s.arrivals.head? = some i → s'.arrivals.head? = some i
  finished : ∀ (i : Nat) (c : Call), s.calls[i]? = some c → c.stage.isFinished = true → s'.calls[i]? = some c
  result : ∀ result, s.result = some result → s'.result = some result

theorem Keeps.refl (s : Race) : s.Keeps s := ⟨id, fun _ => id, fun _ _ hcall _ => hcall, fun _ => id⟩

theorem Keeps.trans {s'' : Race} (h : s.Keeps s') (h' : s'.Keeps s'') : s.Keeps s'' where
  completed hcompleted := h'.completed (h.completed hcompleted)
  first i hi := h'.first i (h.first i hi)
  finished i c hcall hstage := h'.finished i c (h.finished i c hcall hstage) hstage
  result result hresult := h'.result result (h.result result hresult)

/-- A call that is replaced was not finished. -/
theorem finished_set (hcall : s.calls[i]? = some c) (hopen : c.stage.isFinished = false) (c' : Call) :
    ∀ (j : Nat) (d : Call), s.calls[j]? = some d → d.stage.isFinished = true → (s.calls.set i c')[j]? = some d := by
  intro j d hd hfinished
  refine (getElem?_set_eq_some hcall).mpr (.inr ⟨?_, hd⟩)
  rintro rfl
  obtain rfl := Option.some.inj (hd.symm.trans hcall)
  rw [hopen] at hfinished
  cases hfinished

theorem keeps_call (s : Race) (clone : Nat) (v : Value) : s.Keeps (s.call clone v) :=
  ⟨id, fun _ => id, fun _ _ hcall _ => calls_call.mpr (.inl hcall), fun _ => id⟩

theorem Step.keeps (hstep : Step s s') : s.Keeps s' := by
  cases hstep with
  | share _ | drop _ _ _ => exact ⟨id, fun _ => id, fun _ _ hcall _ => hcall, fun _ => id⟩
  | call _ _ v => exact keeps_call s _ v
  | handlerReturns _ outcome =>
    cases outcome with
    | ready v =>
      have hcalled := keeps_call s own v
      exact ⟨hcalled.completed, hcalled.first, hcalled.finished, hcalled.result⟩
    | pending => exact ⟨id, fun _ => id, fun _ _ hcall _ => hcall, fun _ => id⟩
  | take hcall hstage =>
    refine ⟨fun _ => rfl, ?_, finished_set hcall (by rw [hstage]; rfl) _, fun _ => id⟩
    intro i hhead
    rw [head?_take, hhead]
    rfl
  | send hcall hstage => exact ⟨id, fun _ => id, finished_set hcall (by rw [hstage]; rfl) _, fun _ => id⟩
  | receive _ hwaiting _ =>
    refine ⟨fun hcompleted => (receive_keeps s.completion).2.trans hcompleted, fun _ => id,
      fun _ _ hcall _ => hcall, ?_⟩
    intro result hresult
    rw [hwaiting] at hresult
    cases hresult

theorem Leads.keeps (h : s.Leads s') : s.Keeps s' := by
  induction h with
  | refl => exact .refl s
  | tail _ hstep ih => exact ih.trans hstep.keeps

/-! ## Results -/

/-- The result is the value of the first call, or the error that there was no call and never will be. -/
inductive IsResult (s : Race) : Except ServerError Value → Prop where
  | value {c : Call} (hwinner : s.winner? = some c) (hstage : c.stage = .returned true) : IsResult s (.ok c.value)
  | nothing (hcalls : s.calls = []) (hclones : s.clones = []) : IsResult s (.error noResult)

theorem IsSound.isResult (h : s.IsSound) {result : Except ServerError Value} (hresult : s.result = some result) :
    s.IsResult result := by
  cases h.phase with
  | «open» _ _ _ hwaiting | carrying _ _ _ hwaiting | delivered _ _ _ hwaiting =>
    rw [hwaiting] at hresult
    cases hresult
  | received hwinner hstage _ hreceived =>
    obtain rfl := Option.some.inj (hreceived.symm.trans hresult)
    exact .value hwinner hstage
  | abandoned hcalls hclones _ herror =>
    rcases herror with hwaiting | herror
    · rw [hwaiting] at hresult
      cases hresult
    · obtain rfl := Option.some.inj (herror.symm.trans hresult)
      exact .nothing hcalls hclones

/-- A dispatcher that looks for its result finds it as soon as there is one. -/
theorem IsSound.answer?_eq_some_iff (h : s.IsSound) (hwaiting : s.result = none) {result : Except ServerError Value} :
    s.answer? = some result ↔ s.IsResult result := by
  constructor
  · intro hresult
    -- What is found now would be the result.
    have hreceived := (h.receive hwaiting hresult).isResult rfl
    cases hreceived with
    | value hwinner hstage => exact .value hwinner hstage
    | nothing hcalls hclones => exact .nothing hcalls hclones
  · intro hresult
    cases h.phase with
    | «open» hnone hheld _ _ =>
      cases hresult with
      | value hwinner _ => simp [winner?, hnone] at hwinner
      | nothing _ hclones => exact absurd hclones hheld
    | carrying hwinner hcarrying _ _ =>
      cases hresult with
      | value hwinner' hstage =>
        obtain rfl := Option.some.inj (hwinner.symm.trans hwinner')
        rw [hcarrying] at hstage
        cases hstage
      | nothing hcalls _ =>
        rw [winner?_of_no_calls hcalls] at hwinner
        cases hwinner
    | delivered hwinner _ hbox _ =>
      cases hresult with
      | value hwinner' _ =>
        obtain rfl := Option.some.inj (hwinner.symm.trans hwinner')
        exact answer?_of_holding hbox
      | nothing hcalls _ =>
        rw [winner?_of_no_calls hcalls] at hwinner
        cases hwinner
    | received _ _ _ hreceived =>
      rw [hwaiting] at hreceived
      cases hreceived
    | abandoned hcalls _ hbox _ =>
      cases hresult with
      | value hwinner _ =>
        rw [winner?_of_no_calls hcalls] at hwinner
        cases hwinner
      | nothing _ _ => exact answer?_of_closed hbox

theorem IsResult.eq_error_iff {result : Except ServerError Value} (h : s.IsResult result) :
    result = .error noResult ↔ s.calls = [] ∧ s.clones = [] := by
  cases h with
  | nothing hcalls hclones => exact ⟨fun _ => ⟨hcalls, hclones⟩, fun _ => rfl⟩
  | value hwinner hstage =>
    refine ⟨nofun, ?_⟩
    rintro ⟨hcalls, -⟩
    rw [winner?_of_no_calls hcalls] at hwinner
    cases hwinner

/-- Of the calls that returned, the first to take the slot was accepted, and no other. -/
theorem IsSound.returned_iff (h : s.IsSound) (hcall : s.calls[i]? = some c) {accepted : Bool}
    (hstage : c.stage = .returned accepted) : accepted = true ↔ s.arrivals.head? = some i := by
  rw [← h.accepted i c hcall, hstage]
  cases accepted <;> simp [Stage.isAccepted]

/-- When all calls are finished, the first of them was accepted. -/
theorem IsSound.winner_returned (h : s.IsSound) (hcalls : s.calls ≠ [])
    (hfinished : ∀ c ∈ s.calls, c.stage.isFinished = true) :
    ∃ (i : Nat) (c : Call), s.arrivals.head? = some i ∧ s.calls[i]? = some c ∧ c.stage = .returned true := by
  obtain ⟨first, rest, hcons⟩ := List.exists_cons_of_ne_nil hcalls
  have hfirst : s.calls[0]? = some first := by rw [hcons]; rfl
  have harrived : 0 ∈ s.arrivals := h.mem_arrivals hfirst (hfinished first (List.mem_of_getElem? hfirst))
  obtain ⟨c, hwinner⟩ := h.exists_winner (List.ne_nil_of_mem harrived)
  obtain ⟨i, hhead, hcall⟩ := winner?_eq_some.mp hwinner
  refine ⟨i, c, hhead, hcall, ?_⟩
  have hfinished := hfinished c (List.mem_of_getElem? hcall)
  have haccepted := (h.accepted i c hcall).mpr hhead
  cases hstage : c.stage with
  | called | carrying =>
    rw [hstage] at hfinished
    cases hfinished
  | returned accepted =>
    rw [hstage] at haccepted
    cases accepted with
    | true => rfl
    | false => cases haccepted

/-- Without clones there is nothing left to wait for. -/
theorem IsSound.exists_isResult (h : s.IsSound) (hclones : s.clones = []) : ∃ result, s.IsResult result := by
  by_cases hcalls : s.calls = []
  · exact ⟨_, .nothing hcalls hclones⟩
  · obtain ⟨i, c, hhead, hcall, hstage⟩ := h.winner_returned hcalls (finished_of_no_clones hclones h.held)
    exact ⟨_, .value (winner?_eq_some.mpr ⟨i, hhead, hcall⟩) hstage⟩

/-- What a dispatcher that waits receives next is the result. -/
theorem IsSound.receives_iff (h : s.IsSound) (hdropped : own ∉ s.clones) (hwaiting : s.result = none)
    (result : Except ServerError Value) : (∃ s', s.Step s' ∧ s'.result = some result) ↔ s.IsResult result := by
  rw [← h.answer?_eq_some_iff hwaiting]
  constructor
  · rintro ⟨s', hstep, hresult⟩
    cases hstep with
    | receive _ _ hanswer => rwa [← Option.some.inj hresult]
    | handlerReturns _ outcome =>
      cases outcome <;> exact absurd (hwaiting.symm.trans hresult) nofun
    | share _ | call _ _ _ | take _ _ | send _ _ | drop _ _ _ => exact absurd (hwaiting.symm.trans hresult) nofun
  · intro hanswer
    exact ⟨_, .receive hdropped hwaiting hanswer, rfl⟩

/-- The values of the calls that have reached the slot, in that order. -/
def arrived (s : Race) : List Value := s.arrivals.filterMap fun i => s.calls[i]?.map Call.value

theorem IsSound.head?_arrived (h : s.IsSound) : s.arrived.head? = s.winner?.map Call.value := by
  unfold Race.arrived winner?
  cases harrivals : s.arrivals with
  | nil => rfl
  | cons i rest =>
    obtain ⟨c, hcall, -⟩ := (h.arrived i).mp (by rw [harrivals]; exact List.mem_cons_self)
    simp [hcall]

/-- A race ends as if its calls had been made one after the other. -/
theorem IsSound.invoke_eq (h : s.IsSound) {result : Except ServerError Value} (hresult : s.result = some result)
    {d : Dispatcher} {route : Dispatcher.Route} {handler : Handler}
    (hhandler : d.handlers.get? route.operation = some handler)
    (hdeliveries : (handler route.args).deliveries = s.arrived) :
    (d.invoke route).result = result.map (Dispatcher.encodeReply d.definitions route) := by
  simp only [Dispatcher.invoke, hhandler]
  rw [Handling.answer?_eq, hdeliveries, h.head?_arrived]
  cases h.isResult hresult with
  | value hwinner _ =>
    rw [hwinner]
    rfl
  | nothing hcalls _ =>
    rw [winner?_of_no_calls hcalls]
    rfl

/-! ## One delivery after the other -/

/-- All calls have returned. -/
def IsIdle (s : Race) : Prop := ∀ c ∈ s.calls, c.stage.isFinished = true

/-- A call that has just begun is made at once. -/
theorem deliver_call (h : s.IsSound) (hidle : s.IsIdle) (clone : Nat) (v : Value) :
    let delivered := (s.call clone v).deliver s.calls.length { clone, value := v, stage := .called }
    delivered.IsIdle ∧ delivered.arrived = s.arrived ++ [v] := by
  intro delivered
  have hcalls : delivered.calls =
      s.calls ++ [{ clone, value := v, stage := .returned (s.completion.complete v).2 }] := by
    show (s.calls ++ [_]).set s.calls.length _ = _
    rw [List.set_append_right _ _ (Nat.le_refl _), Nat.sub_self]
    rfl
  constructor
  · intro c hc
    rw [hcalls] at hc
    rcases List.mem_append.mp hc with hc | hc
    · exact hidle c hc
    · obtain rfl := List.mem_singleton.mp hc
      rfl
  · show (s.arrivals ++ [s.calls.length]).filterMap (fun i => delivered.calls[i]?.map Call.value) = _
    rw [List.filterMap_append, hcalls]
    congr 1
    · apply List.filterMap_congr
      intro i hi
      obtain ⟨c, hcall, -⟩ := (h.arrived i).mp hi
      obtain ⟨hlt, -⟩ := List.getElem?_eq_some_iff.mp hcall
      rw [List.getElem?_append_left hlt]
    · simp

/-- Values are delivered one after the other through the clone of the handler. -/
theorem exists_completeAll (h : start.Leads s) (hclone : 1 ∈ s.clones) (hidle : s.IsIdle) (values : List Value) :
    ∃ s', start.Leads s' ∧ s'.completion = s.completion.completeAll values ∧ s'.clones = s.clones ∧
      s'.returned = s.returned ∧ s'.IsIdle ∧ s'.arrived = s.arrived ++ values := by
  induction values generalizing s with
  | nil => exact ⟨s, h, rfl, rfl, rfl, hidle, (List.append_nil _).symm⟩
  | cons v rest ih =>
    have hsound : s.IsSound := IsSound.start.leads h
    have hbegun : start.Leads (s.call 1 v) := h.tail (.call hclone (by decide) v)
    have hcall : (s.call 1 v).calls[s.calls.length]? = some { clone := 1, value := v, stage := .called } :=
      calls_call.mpr (.inr ⟨rfl, rfl⟩)
    obtain ⟨hidle', harrived⟩ := deliver_call hsound hidle 1 v
    obtain ⟨s', hleads, hcompletion, hclones, hreturned, hlast, hvalues⟩ :=
      ih (hbegun.trans (leads_deliver hcall rfl)) hclone hidle'
    refine ⟨s', hleads, hcompletion, hclones, hreturned, hlast, ?_⟩
    rw [hvalues, harrived, List.append_assoc]
    rfl

/-- The handler returns, and what it returns is delivered at once. -/
theorem exists_handlerReturns (h : start.Leads s) (hrunning : s.returned = false) (hidle : s.IsIdle)
    (outcome : Outcome) :
    ∃ s', start.Leads s' ∧
      s'.completion = (match outcome with
        | .ready v => (s.completion.complete v).1
        | .pending => s.completion) ∧
      s'.clones = s.clones ∧ s'.returned = true ∧ s'.IsIdle ∧
      s'.arrived = (match outcome with
        | .ready v => s.arrived ++ [v]
        | .pending => s.arrived) := by
  have hstep : start.Leads (s.handlerReturns outcome) := h.tail (.handlerReturns hrunning outcome)
  cases outcome with
  | pending => exact ⟨_, hstep, rfl, rfl, rfl, hidle, rfl⟩
  | ready v =>
    have hcall : (s.handlerReturns (.ready v)).calls[s.calls.length]? =
        some { clone := own, value := v, stage := .called } := calls_call.mpr (.inr ⟨rfl, rfl⟩)
    obtain ⟨hidle', harrived⟩ := deliver_call (IsSound.start.leads h) hidle own v
    exact ⟨_, hstep.trans (leads_deliver hcall rfl), rfl, rfl, rfl, hidle', harrived⟩

/-- What a handler does one after the other is one of the races. -/
theorem exists_leads_run (handling : Handling) :
    ∃ s, start.Leads s ∧ s.completion = handling.run ∧ s.clones = [] ∧ s.arrived = handling.deliveries := by
  obtain ⟨before, outcome, later⟩ := handling
  obtain ⟨s, hleads, hcompletion, hclones, hrunning, hidle, harrived⟩ :=
    exists_completeAll .refl (by decide : 1 ∈ start.clones) nofun before
  obtain ⟨r, hr, hrcompletion, hrclones, hrreturned, hridle, hrarrived⟩ :=
    exists_handlerReturns hleads hrunning hidle outcome
  have hown : own ∈ r.clones := by
    rw [hrclones, hclones]
    decide
  have hdropped : start.Leads (r.drop own) :=
    hr.tail (.drop hown (fun c hc _ => hridle c hc) fun _ => hrreturned)
  have hleft : (r.drop own).clones = [1] := by
    show r.clones.erase own = [1]
    rw [hrclones, hclones]
    rfl
  obtain ⟨t, ht, htcompletion, htclones, -, htidle, htarrived⟩ :=
    exists_completeAll hdropped (hleft ▸ List.mem_cons_self) hridle later
  refine ⟨t.drop 1, ht.tail (.drop (by rw [htclones, hleft]; exact List.mem_cons_self)
    (fun c hc _ => htidle c hc) nofun), ?_, ?_, ?_⟩
  · show t.completion.release = _
    rw [htcompletion]
    show ((r.completion.release).completeAll later).release = _
    rw [hrcompletion, hcompletion]
    cases outcome <;> rfl
  · show t.clones.erase 1 = []
    rw [htclones, hleft]
    rfl
  · show t.arrived = _
    rw [htarrived]
    show r.arrived ++ later = _
    rw [hrarrived, harrived]
    cases outcome with
    | pending => rfl
    | ready v =>
      show before ++ [v] ++ later = before ++ v :: later
      rw [List.append_assoc]
      rfl

/-! ## Exactly once -/

/-- However many clones there are, whatever is delivered through them and in whichever order: of the calls that have
returned, the first to take the slot was accepted and no other, and there is one when all are finished. The
completion is completed once a call has taken the slot. What the dispatcher received is the value of that call, or
else the error that no result came, which it receives exactly if all clones are gone and there was no call; while
it waits, that is what it can receive next, and at the latest when all clones are gone there is such a result.
None of this changes later on. The outcome is that of the same deliveries made one after the other. -/
theorem completes_once {s : Race} (h : start.Leads s) :
    (∀ (i : Nat) (c : Call) (accepted : Bool), s.calls[i]? = some c → c.stage = .returned accepted →
      (accepted = true ↔ s.arrivals.head? = some i)) ∧
    (s.calls ≠ [] → (∀ c ∈ s.calls, c.stage.isFinished = true) →
      ∃ i, s.arrivals.head? = some i ∧ ∀ j, (∃ c, s.calls[j]? = some c ∧ c.stage = .returned true) ↔ j = i) ∧
    (s.completion.isCompleted = true ↔ s.arrivals ≠ []) ∧
    (∀ result, s.result = some result →
      s.IsResult result ∧ (result = .error noResult ↔ s.calls = [] ∧ s.clones = [])) ∧
    (own ∉ s.clones → s.result = none →
      ∀ result, (∃ s', s.Step s' ∧ s'.result = some result) ↔ s.IsResult result) ∧
    (s.clones = [] → ∃ result, s.IsResult result) ∧
    (∀ s', s.Leads s' → s.Keeps s') ∧
    ∀ (d : Dispatcher) (route : Dispatcher.Route) (handler : Handler) (result : Except ServerError Value),
      s.result = some result → d.handlers.get? route.operation = some handler →
      (handler route.args).deliveries = s.arrived →
      (d.invoke route).result = result.map (Dispatcher.encodeReply d.definitions route) := by
  have hs : s.IsSound := IsSound.start.leads h
  refine ⟨fun i c accepted hcall hstage => hs.returned_iff hcall hstage, ?_, hs.taken, ?_, hs.receives_iff,
    hs.exists_isResult, fun s' => Leads.keeps, ?_⟩
  · intro hcalls hfinished
    obtain ⟨i, c, hhead, hcall, hstage⟩ := hs.winner_returned hcalls hfinished
    refine ⟨i, hhead, fun j => ⟨?_, ?_⟩⟩
    · rintro ⟨d, hd, hdstage⟩
      have hfirst := (hs.returned_iff hd hdstage).mp rfl
      exact Option.some.inj (hfirst.symm.trans hhead)
    · rintro rfl
      exact ⟨c, hcall, hstage⟩
  · intro result hresult
    exact ⟨hs.isResult hresult, (hs.isResult hresult).eq_error_iff⟩
  · intro d route handler result hresult hhandler hdeliveries
    exact hs.invoke_eq hresult hhandler hdeliveries

/-! ### A contested completion -/

/-- The handler has shared its clone, and both clones are being called when it returns a value of its own. -/
def begun : Race := ((start.share.call 1 (.int 1)).call 2 (.int 2)).handlerReturns (.ready (.int 3))

/-- The second call takes the slot, and the dispatcher begins to wait before the value was sent. -/
def awaited : Race := ((begun.take 1 ⟨2, .int 2, .called⟩).take 2 ⟨own, .int 3, .called⟩).drop own

/-- The first call comes too late, and the second sends its value. -/
def contested : Race :=
  (((awaited.take 0 ⟨1, .int 1, .called⟩).drop 1).send 1 ⟨2, .int 2, .carrying⟩).receive (.ok (.int 2))

theorem leads_contested : start.Leads contested := by
  have hshared : start.Leads start.share := .single (.share (by decide : 1 ∈ start.clones))
  have hfirst : start.Leads (start.share.call 1 (.int 1)) := hshared.tail (.call (by decide) (by decide) _)
  have hsecond : start.Leads ((start.share.call 1 (.int 1)).call 2 (.int 2)) :=
    hfirst.tail (.call (by decide) (by decide) _)
  have hbegun : start.Leads begun := hsecond.tail (.handlerReturns rfl _)
  have htaken : start.Leads (begun.take 1 ⟨2, .int 2, .called⟩) := hbegun.tail (.take rfl rfl)
  have hrefused : start.Leads ((begun.take 1 ⟨2, .int 2, .called⟩).take 2 ⟨own, .int 3, .called⟩) :=
    htaken.tail (.take rfl rfl)
  have hawaited : start.Leads awaited := hrefused.tail (.drop (by decide) (by decide) (fun _ => rfl))
  have hlate : start.Leads (awaited.take 0 ⟨1, .int 1, .called⟩) := hawaited.tail (.take rfl rfl)
  have hdropped : start.Leads ((awaited.take 0 ⟨1, .int 1, .called⟩).drop 1) :=
    hlate.tail (.drop (by decide) (by decide) nofun)
  have hsent : start.Leads (((awaited.take 0 ⟨1, .int 1, .called⟩).drop 1).send 1 ⟨2, .int 2, .carrying⟩) :=
    hdropped.tail (.send rfl rfl)
  exact hsent.tail (.receive (by decide) rfl rfl)

/-- The call that came first wins, though it was neither begun nor finished first. -/
theorem completes_once_contested :
    start.Leads contested ∧ contested.calls.map Call.stage = [.returned false, .returned true, .returned false] ∧
    (∀ j, (∃ c, contested.calls[j]? = some c ∧ c.stage = .returned true) ↔ j = 1) ∧
    contested.IsResult (.ok (.int 2)) ∧ ∀ s', contested.Leads s' → s'.result = some (.ok (.int 2)) := by
  obtain ⟨-, hunique, -, hresult, -, -, hkeeps, -⟩ := completes_once leads_contested
  obtain ⟨i, hfirst, honly⟩ := hunique (by decide) (by decide)
  obtain rfl : 1 = i := Option.some.inj hfirst
  exact ⟨leads_contested, by decide, honly, (hresult _ rfl).1, fun s' hleads => (hkeeps s' hleads).result _ rfl⟩

end Race

end Soap
