import Mathlib.Logic.Relation
import Soap.Server.Dispatcher

/-!
# The race for a completion

A handler, the tasks that it spawned and the dispatcher itself may all deliver a result through clones of one
completion, at the same time. Nothing is assumed about the order in which they get there. A call of
`Completion.complete` is two atomic steps, since between taking the slot and sending the value anything else can
happen (`Completion.complete_eq`); cloning, dropping a clone and looking for the result are one each
(`Race.Step`).

Every race keeps the invariant `Race.IsSound` (`Race.IsSound.leads`). Its core, `Race.Phase`, says where the
value of the call that took the slot is: nowhere yet, with that call, in the mailbox, or with the dispatcher.
-/

namespace Soap

open Relation (ReflTransGen)

/-! ## The steps of a delivery -/

namespace Completion

/-- Take the slot: the completion after it, and whether the slot was still full. -/
def take (c : Completion) : Completion × Bool := ({ c with taken := true }, !c.taken)

/-- Send the value, once the slot is taken. -/
def send (c : Completion) (v : Value) : Completion := { c with mailbox := c.mailbox.put v }

/-- A delivery takes the slot and sends its value if that was full. -/
theorem complete_eq (c : Completion) (v : Value) :
    c.complete v = if c.take.2 then (c.take.1.send v, true) else (c.take.1, false) := by
  obtain ⟨holders, taken, mailbox⟩ := c
  cases taken <;> rfl

end Completion

/-! ## The parties -/

namespace Race

/-- How far a call has come. -/
inductive Stage where
  | called
  /-- It has taken the full slot, and is about to send its value. -/
  | carrying
  | returned (accepted : Bool)
deriving DecidableEq, Repr

def Stage.isFinished : Stage → Bool
  | .returned _ => true
  | .called | .carrying => false

/-- Did the call find the slot full? -/
def Stage.isAccepted : Stage → Bool
  | .carrying | .returned true => true
  | .called | .returned false => false

/-- A call that delivers `value` through the clone number `clone`. -/
structure Call where
  clone : Nat
  value : Value
  stage : Stage

/-- The number of the dispatcher's own clone. -/
def own : Nat := 0

/-- What the dispatcher reports if no result came. -/
def noResult : ServerError := .handler "handler finished without a result"

end Race

open Race (Call Stage own noResult)

/-- A handler was called, and is racing. The clones that were not dropped are listed by their numbers, the calls in
the order in which they began; `arrivals` are the calls that have reached the slot, in that order. -/
structure Race where
  completion : Completion
  clones : List Nat
  /-- The number of the next clone. -/
  next : Nat
  calls : List Call
  arrivals : List Nat
  /-- Has the handler returned? -/
  returned : Bool
  result : Option (Except ServerError Value)

namespace Race

/-- The dispatcher has a clone, and the handler was given another. -/
def start : Race :=
  { completion := Completion.start.share, clones := [own, 1], next := 2, calls := [], arrivals := []
    returned := false, result := none }

def share (s : Race) : Race :=
  { s with completion := s.completion.share, clones := s.clones ++ [s.next], next := s.next + 1 }

def call (s : Race) (clone : Nat) (value : Value) : Race :=
  { s with calls := s.calls ++ [{ clone, value, stage := .called }] }

/-- The handler returns. A value that is ready is delivered by one more call, through the dispatcher's clone. -/
def handlerReturns (s : Race) : Outcome → Race
  | .ready v => { s.call own v with returned := true }
  | .pending => { s with returned := true }

def take (s : Race) (i : Nat) (c : Call) : Race :=
  { s with
    completion := s.completion.take.1
    calls := s.calls.set i { c with stage := if s.completion.take.2 then .carrying else .returned false }
    arrivals := s.arrivals ++ [i] }

def send (s : Race) (i : Nat) (c : Call) : Race :=
  { s with
    completion := s.completion.send c.value
    calls := s.calls.set i { c with stage := .returned true } }

def drop (s : Race) (clone : Nat) : Race :=
  { s with completion := s.completion.release, clones := s.clones.erase clone }

/-- What the dispatcher finds when it looks for the result. -/
def answer? (s : Race) : Option (Except ServerError Value) :=
  match s.completion.receive.2 with
  | .value v => some (.ok v)
  | .nothing => none
  | .closed => some (.error noResult)

def receive (s : Race) (result : Except ServerError Value) : Race :=
  { s with completion := s.completion.receive.1, result := some result }

/-- One atomic step of any of the parties. -/
inductive Step (s : Race) : Race → Prop where
  | share {clone : Nat} (hclone : clone ∈ s.clones) : Step s s.share
  /-- The handler, or whoever it gave a clone to, begins to deliver a value. -/
  | call {clone : Nat} (hclone : clone ∈ s.clones) (hother : clone ≠ own) (v : Value) : Step s (s.call clone v)
  | handlerReturns (hrunning : s.returned = false) (outcome : Outcome) : Step s (s.handlerReturns outcome)
  | take {i : Nat} {c : Call} (hcall : s.calls[i]? = some c) (hstage : c.stage = .called) : Step s (s.take i c)
  | send {i : Nat} {c : Call} (hcall : s.calls[i]? = some c) (hstage : c.stage = .carrying) : Step s (s.send i c)
  /-- A clone is not dropped while it is being called. The dispatcher keeps its own until the handler has
  returned. -/
  | drop {clone : Nat} (hclone : clone ∈ s.clones)
    (hidle : ∀ c ∈ s.calls, c.clone = clone → c.stage.isFinished = true)
    (hreturned : clone = own → s.returned = true) : Step s (s.drop clone)
  /-- The dispatcher waits for its result once it has dropped its clone. -/
  | receive {result : Except ServerError Value} (hdropped : own ∉ s.clones) (hwaiting : s.result = none)
    (hresult : s.answer? = some result) : Step s (s.receive result)

/-- Any number of steps, in any order. -/
def Leads : Race → Race → Prop := ReflTransGen Step

/-- A whole delivery, made at once. -/
def deliver (s : Race) (i : Nat) (c : Call) : Race :=
  { s with
    completion := (s.completion.complete c.value).1
    calls := s.calls.set i { c with stage := .returned (s.completion.complete c.value).2 }
    arrivals := s.arrivals ++ [i] }

/-- A delivery made at once is one way in which a call can go. -/
theorem leads_deliver {s : Race} {i : Nat} {c : Call} (hcall : s.calls[i]? = some c) (hstage : c.stage = .called) :
    s.Leads (s.deliver i c) := by
  have htaken : s.Leads (s.take i c) := .single (.take hcall hstage)
  obtain ⟨hlt, -⟩ := List.getElem?_eq_some_iff.mp hcall
  unfold deliver
  rw [Completion.complete_eq]
  unfold Race.take at htaken
  cases hfull : s.completion.take.2 with
  | false => simpa [hfull] using htaken
  | true =>
    rw [hfull] at htaken
    have hsent := htaken.tail (.send (i := i) (c := { c with stage := .carrying }) (by simp [hlt]) rfl)
    simpa [Leads, Race.send] using hsent

/-- The call that took the slot first. -/
def winner? (s : Race) : Option Call := s.arrivals.head?.bind fun i => s.calls[i]?

/-! ## The invariant -/

/-- Where the value of the first call is. -/
inductive Phase (s : Race) : Prop where
  | open (hwinner : s.arrivals = []) (hclones : s.clones ≠ []) (hmailbox : s.completion.mailbox = .waiting)
    (hresult : s.result = none)
  | carrying {c : Call} (hwinner : s.winner? = some c) (hstage : c.stage = .carrying)
    (hmailbox : s.completion.mailbox = .waiting) (hresult : s.result = none)
  | delivered {c : Call} (hwinner : s.winner? = some c) (hstage : c.stage = .returned true)
    (hmailbox : s.completion.mailbox = .holding c.value) (hresult : s.result = none)
  | received {c : Call} (hwinner : s.winner? = some c) (hstage : c.stage = .returned true)
    (hmailbox : s.completion.mailbox = .closed) (hresult : s.result = some (.ok c.value))
  | abandoned (hcalls : s.calls = []) (hclones : s.clones = []) (hmailbox : s.completion.mailbox = .closed)
    (hresult : s.result = none ∨ s.result = some (.error noResult))

/-- What holds in every race. -/
structure IsSound (s : Race) : Prop where
  holders : s.completion.holders = s.clones.length
  own_held : s.returned = false → own ∈ s.clones
  held : ∀ c ∈ s.calls, c.stage.isFinished = false → c.clone ∈ s.clones
  taken : s.completion.taken = true ↔ s.arrivals ≠ []
  arrived : ∀ i, i ∈ s.arrivals ↔ ∃ c, s.calls[i]? = some c ∧ c.stage ≠ .called
  accepted : ∀ (i : Nat) (c : Call), s.calls[i]? = some c → (c.stage.isAccepted = true ↔ s.arrivals.head? = some i)
  phase : s.Phase

variable {s s' : Race} {i j : Nat} {c d : Call} {clone : Nat} {v : Value}

theorem IsSound.start : Race.start.IsSound where
  holders := rfl
  own_held _ := List.mem_cons_self
  held _ h := by cases h
  taken := by simp [Race.start, Completion.start, Completion.share]
  arrived := by simp [Race.start]
  accepted := by simp [Race.start]
  phase := .open rfl (by simp [Race.start]) rfl rfl

/-- Nothing has changed for the first call, and some clone is still there. -/
theorem Phase.congr (h : s.Phase) (hclones : s.clones ≠ []) (harrivals : s.arrivals = [] → s'.arrivals = [])
    (hwinner : ∀ c, s.winner? = some c → s'.winner? = some c)
    (hmailbox : s'.completion.mailbox = s.completion.mailbox) (hresult : s'.result = s.result)
    (hclones' : s'.clones ≠ []) : s'.Phase := by
  cases h with
  | «open» hnone _ hbox hwaiting =>
    exact .open (harrivals hnone) hclones' (hmailbox.trans hbox) (hresult.trans hwaiting)
  | carrying hfirst hstage hbox hwaiting =>
    exact .carrying (hwinner _ hfirst) hstage (hmailbox.trans hbox) (hresult.trans hwaiting)
  | delivered hfirst hstage hbox hwaiting =>
    exact .delivered (hwinner _ hfirst) hstage (hmailbox.trans hbox) (hresult.trans hwaiting)
  | received hfirst hstage hbox hreceived =>
    exact .received (hwinner _ hfirst) hstage (hmailbox.trans hbox) (hresult.trans hreceived)
  | abandoned _ hnone _ _ => exact absurd hnone hclones

theorem winner?_eq_some : s.winner? = some c ↔ ∃ i, s.arrivals.head? = some i ∧ s.calls[i]? = some c :=
  Option.bind_eq_some_iff

theorem winner?_of_no_calls (h : s.calls = []) : s.winner? = none := by
  unfold winner?
  rw [h]
  cases s.arrivals.head? <;> rfl

theorem IsSound.winner?_of_mem (h : s.IsSound) (hcall : s.calls[i]? = some c) (haccepted : c.stage.isAccepted = true) :
    s.winner? = some c := winner?_eq_some.mpr ⟨i, (h.accepted i c hcall).mp haccepted, hcall⟩

theorem IsSound.exists_winner (h : s.IsSound) (harrivals : s.arrivals ≠ []) : ∃ c, s.winner? = some c := by
  obtain ⟨i, rest, hcons⟩ := List.exists_cons_of_ne_nil harrivals
  obtain ⟨c, hcall, -⟩ := (h.arrived i).mp (by rw [hcons]; exact List.mem_cons_self)
  exact ⟨c, winner?_eq_some.mpr ⟨i, by rw [hcons]; rfl, hcall⟩⟩

/-- A call that is finished has reached the slot. -/
theorem IsSound.mem_arrivals (h : s.IsSound) (hcall : s.calls[i]? = some c) (hfinished : c.stage.isFinished = true) :
    i ∈ s.arrivals := by
  refine (h.arrived i).mpr ⟨c, hcall, ?_⟩
  intro hstage
  rw [hstage] at hfinished
  cases hfinished

/-- A call that did not reach the slot is not the first that did. -/
theorem IsSound.head?_ne_of_called (h : s.IsSound) (hcall : s.calls[i]? = some c) (hstage : c.stage = .called) :
    s.arrivals.head? ≠ some i := by
  intro hhead
  have haccepted := (h.accepted i c hcall).mpr hhead
  rw [hstage] at haccepted
  cases haccepted

/-! ## Steps keep the invariant -/

theorem IsSound.share (h : s.IsSound) (hclone : clone ∈ s.clones) : s.share.IsSound where
  holders := by
    show s.completion.holders + 1 = (s.clones ++ [s.next]).length
    rw [h.holders, List.length_append, List.length_singleton]
  own_held hrunning := List.mem_append_left _ (h.own_held hrunning)
  held c hc hopen := List.mem_append_left _ (h.held c hc hopen)
  taken := h.taken
  arrived := h.arrived
  accepted := h.accepted
  phase := h.phase.congr (List.ne_nil_of_mem hclone) id (fun _ => id) rfl rfl (by simp [Race.share])

/-- The calls after one more has begun. -/
theorem calls_call :
    (s.call clone v).calls[i]? = some c ↔
      s.calls[i]? = some c ∨ (i = s.calls.length ∧ c = { clone, value := v, stage := .called }) := by
  show (s.calls ++ [_])[i]? = some c ↔ _
  rcases Nat.lt_trichotomy i s.calls.length with hlt | rfl | hgt
  · rw [List.getElem?_append_left hlt]
    simp [Nat.ne_of_lt hlt]
  · rw [List.getElem?_concat_length, List.getElem?_eq_none (Nat.le_refl _)]
    simp [eq_comm]
  · have hnone : (s.calls ++ [({ clone, value := v, stage := .called } : Call)])[i]? = none :=
      List.getElem?_eq_none (by simp; omega)
    rw [hnone, List.getElem?_eq_none (Nat.le_of_lt hgt)]
    simp [Nat.ne_of_gt hgt]

theorem IsSound.call (h : s.IsSound) (hclone : clone ∈ s.clones) (v : Value) : (s.call clone v).IsSound where
  holders := h.holders
  own_held := h.own_held
  held c hc hopen := by
    rcases List.mem_append.mp hc with hc | hc
    · exact h.held c hc hopen
    · obtain rfl := List.mem_singleton.mp hc
      exact hclone
  taken := h.taken
  arrived i := by
    show i ∈ s.arrivals ↔ _
    rw [h.arrived]
    constructor
    · rintro ⟨c, hcall, hstage⟩
      exact ⟨c, calls_call.mpr (.inl hcall), hstage⟩
    · rintro ⟨c, hcall, hstage⟩
      rcases calls_call.mp hcall with hcall | ⟨-, rfl⟩
      · exact ⟨c, hcall, hstage⟩
      · exact absurd rfl hstage
  accepted i c hcall := by
    rcases calls_call.mp hcall with hcall | ⟨rfl, rfl⟩
    · exact h.accepted i c hcall
    · -- The new call was not there when others arrived.
      refine ⟨nofun, fun hhead => ?_⟩
      obtain ⟨c, hcall, -⟩ := (h.arrived _).mp (List.mem_of_mem_head? hhead)
      rw [List.getElem?_eq_none (Nat.le_refl _)] at hcall
      cases hcall
  phase := by
    refine h.phase.congr (List.ne_nil_of_mem hclone) id ?_ rfl rfl (List.ne_nil_of_mem hclone)
    intro c hwinner
    obtain ⟨i, hhead, hcall⟩ := winner?_eq_some.mp hwinner
    exact winner?_eq_some.mpr ⟨i, hhead, calls_call.mpr (.inl hcall)⟩

theorem IsSound.handlerReturns (h : s.IsSound) (hrunning : s.returned = false) (outcome : Outcome) :
    (s.handlerReturns outcome).IsSound := by
  have hclones : s.clones ≠ [] := List.ne_nil_of_mem (h.own_held hrunning)
  -- The invariant does not depend on whether the handler has returned, as long as the dispatcher has its clone.
  have hreturned : ∀ {r : Race}, r.IsSound → r.clones ≠ [] → { r with returned := true }.IsSound := by
    intro r hr hclones
    exact ⟨hr.holders, nofun, hr.held, hr.taken, hr.arrived, hr.accepted,
      hr.phase.congr hclones id (fun _ => id) rfl rfl hclones⟩
  cases outcome with
  | ready v => exact hreturned (h.call (h.own_held hrunning) v) hclones
  | pending => exact hreturned h hclones

/-- The calls after one of them was replaced. -/
theorem getElem?_set_eq_some {calls : List Call} (hcall : calls[i]? = some d) {d' : Call} :
    (calls.set i d')[j]? = some c ↔ (j = i ∧ c = d') ∨ (j ≠ i ∧ calls[j]? = some c) := by
  obtain ⟨hlt, -⟩ := List.getElem?_eq_some_iff.mp hcall
  by_cases hij : j = i
  · subst hij
    simp [hlt, eq_comm]
  · rw [List.getElem?_set_ne (Ne.symm hij)]
    simp [hij]

/-- A call that goes on holds its clone, if others did. -/
theorem held_set (h : ∀ c ∈ s.calls, c.stage.isFinished = false → c.clone ∈ s.clones) (hcall : s.calls[i]? = some c)
    (hopen : c.stage.isFinished = false) (stage : Stage) :
    ∀ d ∈ s.calls.set i { c with stage }, d.stage.isFinished = false → d.clone ∈ s.clones := by
  intro d hd hdopen
  rcases List.mem_or_eq_of_mem_set hd with hd | rfl
  · exact h d hd hdopen
  · exact h c (List.mem_of_getElem? hcall) hopen

/-- A call that goes on has reached the slot now, and no other has. -/
theorem reached_set {calls : List Call} (hcall : calls[i]? = some c) {d : Call} (hstage : d.stage ≠ .called) :
    (∃ e, (calls.set i d)[j]? = some e ∧ e.stage ≠ .called) ↔
      (∃ e, calls[j]? = some e ∧ e.stage ≠ .called) ∨ j = i := by
  constructor
  · rintro ⟨e, he, hestage⟩
    rcases (getElem?_set_eq_some hcall).mp he with ⟨rfl, -⟩ | ⟨-, he⟩
    · exact .inr rfl
    · exact .inl ⟨e, he, hestage⟩
  · by_cases hij : j = i
    · intro _
      exact ⟨d, (getElem?_set_eq_some hcall).mpr (.inl ⟨hij, rfl⟩), hstage⟩
    · rintro (⟨e, he, hestage⟩ | heq)
      · exact ⟨e, (getElem?_set_eq_some hcall).mpr (.inr ⟨hij, he⟩), hestage⟩
      · exact absurd heq hij

/-! ### Taking the slot -/

/-- The slot is full until a call reaches it. -/
theorem IsSound.full_iff (h : s.IsSound) : s.completion.take.2 = true ↔ s.arrivals = [] := by
  show (!s.completion.taken) = true ↔ _
  rw [Bool.not_eq_true', ← Bool.not_eq_true, h.taken, Classical.not_not]

/-- After a call has reached the slot, the first is the one that was, or else this one. -/
theorem head?_take : (s.take i c).arrivals.head? = s.arrivals.head?.or (some i) := by
  show (s.arrivals ++ [i]).head? = _
  rw [List.head?_append]
  rfl

theorem IsSound.accepted_take (h : s.IsSound) (hcall : s.calls[i]? = some c) (hstage : c.stage = .called)
    (hd : (s.take i c).calls[j]? = some d) :
    d.stage.isAccepted = true ↔ (s.take i c).arrivals.head? = some j := by
  rw [head?_take]
  rcases (getElem?_set_eq_some hcall).mp hd with ⟨rfl, rfl⟩ | ⟨hne, hd⟩
  · cases hfull : s.completion.take.2 with
    | true => simp [h.full_iff.mp hfull, Stage.isAccepted]
    | false =>
      -- Somebody was there before, and it was not this call.
      have hbefore : s.arrivals ≠ [] := by
        intro hnil
        rw [h.full_iff.mpr hnil] at hfull
        cases hfull
      obtain ⟨first, rest, hcons⟩ := List.exists_cons_of_ne_nil hbefore
      have hother := h.head?_ne_of_called hcall hstage
      rw [hcons] at hother ⊢
      simpa [Stage.isAccepted] using hother
  · rw [h.accepted j d hd]
    cases s.arrivals with
    | nil => simp [Ne.symm hne]
    | cons first rest => rfl

/-- The call that takes the full slot carries its value from then on. -/
theorem IsSound.phase_take_first (h : s.IsSound) (hcall : s.calls[i]? = some c) (hnone : s.arrivals = []) :
    (s.take i c).Phase := by
  have hwinner : (s.take i c).winner? = some { c with stage := .carrying } := by
    refine winner?_eq_some.mpr ⟨i, ?_, (getElem?_set_eq_some hcall).mpr (.inl ⟨rfl, ?_⟩)⟩
    · rw [head?_take, hnone]
      rfl
    · rw [if_pos (h.full_iff.mpr hnone)]
  cases h.phase with
  | «open» _ _ hbox hwaiting => exact .carrying hwinner rfl hbox hwaiting
  | carrying hfirst _ _ _ | delivered hfirst _ _ _ | received hfirst _ _ _ =>
    simp [winner?, hnone] at hfirst
  | abandoned hcalls _ _ _ =>
    rw [hcalls] at hcall
    cases hcall

theorem IsSound.take (h : s.IsSound) (hcall : s.calls[i]? = some c) (hstage : c.stage = .called) :
    (s.take i c).IsSound := by
  have hopen : c.stage.isFinished = false := by rw [hstage]; rfl
  have hheld : s.clones ≠ [] := List.ne_nil_of_mem (h.held c (List.mem_of_getElem? hcall) hopen)
  refine ⟨h.holders, h.own_held, held_set h.held hcall hopen _, ⟨fun _ => ?_, fun _ => rfl⟩, ?_,
    fun j d hd => h.accepted_take hcall hstage hd, ?_⟩
  · simp [Race.take]
  · intro j
    show j ∈ s.arrivals ++ [i] ↔ ∃ d, (s.calls.set i _)[j]? = some d ∧ _
    rw [reached_set hcall, List.mem_append, List.mem_singleton, h.arrived]
    show (if _ then Stage.carrying else .returned false) ≠ .called
    split <;> simp
  · by_cases hnone : s.arrivals = []
    · exact h.phase_take_first hcall hnone
    · refine h.phase.congr hheld (fun hnil => absurd hnil hnone) ?_ rfl rfl hheld
      intro d hwinner
      obtain ⟨j, hhead, hd⟩ := winner?_eq_some.mp hwinner
      refine winner?_eq_some.mpr ⟨j, ?_, (getElem?_set_eq_some hcall).mpr (.inr ⟨?_, hd⟩)⟩
      · rw [head?_take, hhead]
        rfl
      · rintro rfl
        exact h.head?_ne_of_called hcall hstage hhead

/-! ### Sending the value -/

/-- The value of the call that has the slot's content arrives in the mailbox. -/
theorem IsSound.phase_send (h : s.IsSound) (hcall : s.calls[i]? = some c) (hstage : c.stage = .carrying) :
    (s.send i c).Phase := by
  have haccepted : c.stage.isAccepted = true := by rw [hstage]; rfl
  have hwinner : s.winner? = some c := h.winner?_of_mem hcall haccepted
  have hsent : (s.send i c).winner? = some { c with stage := .returned true } :=
    winner?_eq_some.mpr ⟨i, (h.accepted i c hcall).mp haccepted, (getElem?_set_eq_some hcall).mpr (.inl ⟨rfl, rfl⟩)⟩
  cases h.phase with
  | carrying hfirst _ hbox hwaiting =>
    refine .delivered hsent rfl ?_ hwaiting
    show s.completion.mailbox.put c.value = .holding c.value
    rw [hbox]
    rfl
  | «open» hnone _ _ _ => simp [winner?, hnone] at hwinner
  | delivered hfirst hreturned _ _ | received hfirst hreturned _ _ =>
    -- The first call has sent its value already, and there is no other.
    obtain rfl := Option.some.inj (hfirst.symm.trans hwinner)
    rw [hstage] at hreturned
    cases hreturned
  | abandoned hcalls _ _ _ =>
    rw [hcalls] at hcall
    cases hcall

theorem IsSound.send (h : s.IsSound) (hcall : s.calls[i]? = some c) (hstage : c.stage = .carrying) :
    (s.send i c).IsSound := by
  have hopen : c.stage.isFinished = false := by rw [hstage]; rfl
  have haccepted : c.stage.isAccepted = true := by rw [hstage]; rfl
  have hhead : s.arrivals.head? = some i := (h.accepted i c hcall).mp haccepted
  refine ⟨h.holders, h.own_held, held_set h.held hcall hopen _, h.taken, ?_, ?_, h.phase_send hcall hstage⟩
  · intro j
    show j ∈ s.arrivals ↔ ∃ d, (s.calls.set i _)[j]? = some d ∧ _
    rw [reached_set hcall (d := { c with stage := .returned true }) nofun, ← h.arrived]
    constructor
    · exact .inl
    · rintro (harrived | rfl)
      · exact harrived
      · exact List.mem_of_mem_head? hhead
  · intro j d hd
    show d.stage.isAccepted = true ↔ s.arrivals.head? = some j
    rcases (getElem?_set_eq_some hcall).mp hd with ⟨rfl, rfl⟩ | ⟨-, hd⟩
    · exact ⟨fun _ => hhead, fun _ => rfl⟩
    · exact h.accepted j d hd

/-! ### Dropping a clone -/

/-- No call is under way without a clone. -/
theorem finished_of_no_clones {calls : List Call} {clones : List Nat} (hclones : clones = [])
    (hheld : ∀ c ∈ calls, c.stage.isFinished = false → c.clone ∈ clones) :
    ∀ c ∈ calls, c.stage.isFinished = true := by
  intro c hc
  cases hfinished : c.stage.isFinished with
  | true => rfl
  | false =>
    have hmem := hheld c hc hfinished
    rw [hclones] at hmem
    cases hmem

/-- A clone that is dropped while others are left changes nothing for the receiver, and the last one closes the
mailbox, unless a value is in it. -/
theorem IsSound.mailbox_drop (h : s.IsSound) (hclone : clone ∈ s.clones) :
    (s.drop clone).completion.mailbox =
      if s.clones.erase clone = [] then s.completion.mailbox.close else s.completion.mailbox := by
  have hlength : (s.clones.erase clone).length = s.clones.length - 1 := List.length_erase_of_mem hclone
  have hlast : s.completion.holders ≤ 1 ↔ s.clones.erase clone = [] := by
    rw [h.holders, ← List.length_eq_zero_iff]
    omega
  show (if s.completion.holders ≤ 1 then _ else _) = _
  simp only [hlast]

/-- With the last clone goes the hope for a result, unless a value was delivered. -/
theorem IsSound.phase_drop_last (h : s.IsSound) (hclone : clone ∈ s.clones) (hlast : s.clones.erase clone = [])
    (hfinished : ∀ c ∈ s.calls, c.stage.isFinished = true) : (s.drop clone).Phase := by
  have hmailbox : (s.drop clone).completion.mailbox = s.completion.mailbox.close := by
    rw [h.mailbox_drop hclone, if_pos hlast]
  cases h.phase with
  | «open» hnone _ hbox hwaiting =>
    refine .abandoned ?_ hlast (by rw [hmailbox, hbox]; rfl) (.inl hwaiting)
    -- A call that is finished has reached the slot, and none has.
    apply List.eq_nil_iff_forall_not_mem.mpr
    intro c hc
    obtain ⟨i, hcall⟩ := List.mem_iff_getElem?.mp hc
    have harrived := h.mem_arrivals hcall (hfinished c hc)
    rw [hnone] at harrived
    cases harrived
  | carrying hfirst hstage _ _ =>
    obtain ⟨i, -, hcall⟩ := winner?_eq_some.mp hfirst
    have hreturned := hfinished _ (List.mem_of_getElem? hcall)
    rw [hstage] at hreturned
    cases hreturned
  | delivered hfirst hstage hbox hwaiting => exact .delivered hfirst hstage (by rw [hmailbox, hbox]; rfl) hwaiting
  | received hfirst hstage hbox hreceived => exact .received hfirst hstage (by rw [hmailbox, hbox]; rfl) hreceived
  | abandoned _ hnone _ _ =>
    rw [hnone] at hclone
    cases hclone

theorem IsSound.drop (h : s.IsSound) (hclone : clone ∈ s.clones)
    (hidle : ∀ c ∈ s.calls, c.clone = clone → c.stage.isFinished = true)
    (hreturned : clone = own → s.returned = true) : (s.drop clone).IsSound := by
  have hheld : ∀ c ∈ s.calls, c.stage.isFinished = false → c.clone ∈ s.clones.erase clone := by
    intro c hc hopen
    have hne : c.clone ≠ clone := by
      intro heq
      rw [hidle c hc heq] at hopen
      cases hopen
    exact (List.mem_erase_of_ne hne).mpr (h.held c hc hopen)
  refine ⟨?_, ?_, hheld, h.taken, h.arrived, h.accepted, ?_⟩
  · show s.completion.holders - 1 = (s.clones.erase clone).length
    rw [h.holders, List.length_erase_of_mem hclone]
  · intro hrunning
    have hrunning : s.returned = false := hrunning
    have hne : own ≠ clone := by
      intro heq
      rw [hreturned heq.symm] at hrunning
      cases hrunning
    exact (List.mem_erase_of_ne hne).mpr (h.own_held hrunning)
  · by_cases hlast : s.clones.erase clone = []
    · exact h.phase_drop_last hclone hlast (finished_of_no_clones hlast hheld)
    · have hmailbox : (s.drop clone).completion.mailbox = s.completion.mailbox := by
        rw [h.mailbox_drop hclone, if_neg hlast]
      exact h.phase.congr (List.ne_nil_of_mem hclone) id (fun _ => id) hmailbox rfl hlast

/-! ### The result -/

theorem answer?_of_waiting (h : s.completion.mailbox = .waiting) : s.answer? = none := by
  simp [answer?, Completion.receive, h]

theorem answer?_of_holding (h : s.completion.mailbox = .holding v) : s.answer? = some (.ok v) := by
  simp [answer?, Completion.receive, h]

theorem answer?_of_closed (h : s.completion.mailbox = .closed) : s.answer? = some (.error noResult) := by
  simp [answer?, Completion.receive, h]

theorem receive_keeps (c : Completion) : c.receive.1.holders = c.holders ∧ c.receive.1.taken = c.taken := by
  unfold Completion.receive
  split <;> exact ⟨rfl, rfl⟩

theorem IsSound.receive (h : s.IsSound) (hwaiting : s.result = none) {result : Except ServerError Value}
    (hresult : s.answer? = some result) : (s.receive result).IsSound := by
  obtain ⟨hholders, htaken⟩ := receive_keeps s.completion
  refine ⟨hholders.trans h.holders, h.own_held, h.held, ?_, h.arrived, h.accepted, ?_⟩
  · show s.completion.receive.1.taken = true ↔ s.arrivals ≠ []
    rw [htaken, h.taken]
  · cases h.phase with
    | «open» _ _ hbox _ | carrying _ _ hbox _ =>
      rw [answer?_of_waiting hbox] at hresult
      cases hresult
    | delivered hfirst hstage hbox _ =>
      rw [answer?_of_holding hbox] at hresult
      obtain rfl := Option.some.inj hresult
      exact .received hfirst hstage (by simp [Race.receive, Completion.receive, hbox]) rfl
    | received _ _ _ hreceived =>
      rw [hwaiting] at hreceived
      cases hreceived
    | abandoned hcalls hclones hbox _ =>
      rw [answer?_of_closed hbox] at hresult
      obtain rfl := Option.some.inj hresult
      exact .abandoned hcalls hclones (by simp [Race.receive, Completion.receive, hbox]) (.inr rfl)

theorem IsSound.step (h : s.IsSound) (hstep : Step s s') : s'.IsSound := by
  cases hstep with
  | share hclone => exact h.share hclone
  | call hclone _ v => exact h.call hclone v
  | handlerReturns hrunning outcome => exact h.handlerReturns hrunning outcome
  | take hcall hstage => exact h.take hcall hstage
  | send hcall hstage => exact h.send hcall hstage
  | drop hclone hidle hreturned => exact h.drop hclone hidle hreturned
  | receive _ hwaiting hresult => exact h.receive hwaiting hresult

theorem IsSound.leads (h : s.IsSound) (hleads : s.Leads s') : s'.IsSound := by
  induction hleads with
  | refl => exact h
  | tail _ hstep ih => exact ih.step hstep

end Race

end Soap
