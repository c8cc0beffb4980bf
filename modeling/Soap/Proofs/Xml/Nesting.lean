import Soap.Proofs.Except
import Soap.Proofs.Text.Integer
import Soap.Proofs.Xml.Reading

/-!
# Tags are nested

The end tags of a document close its start tags, innermost first, and two texts never follow each
other (`Xml.nested_read`): a document that is read to its end leads from no open elements to those
that it left open. The scanner compares each end tag with the innermost open element, so this holds
of tokens first (`Xml.nested_scanFrom`) and then of the events that they are reduced to. What is read
as a text is trimmed and not empty (`Xml.isTrimmed_read`).
-/

namespace Soap.Xml

/-! ## Tokens -/

/-- The elements that are open after a token, innermost first; `none` if it closes an element that is
not the innermost. -/
def Token.lead (opened : List (List Char)) : Token → Option (List (List Char))
  | .startTag content => some (startName content :: opened)
  | .endTag name =>
    match opened with
    | [] => none
    | expected :: outer => if name = expected then some outer else none
  | .emptyTag _ | .text _ | .cdata _ | .reference _ | .other => some opened

/-- The elements that are open after several tokens. -/
def leadAll (opened : List (List Char)) (items : List Placed) : Option (List (List Char)) :=
  items.foldlM (fun opened item => item.1.lead opened) opened

theorem leadAll_append {opened opened' : List (List Char)} {a : List Placed}
    (h : leadAll opened a = some opened') (b : List Placed) :
    leadAll opened (a ++ b) = leadAll opened' b := by
  rw [leadAll, List.foldlM_append]
  show leadAll opened a >>= _ = _
  rw [h]
  rfl

@[simp] theorem leadAll_nil (opened : List (List Char)) : leadAll opened [] = some opened := rfl

theorem leadAll_textToken (opened : List (List Char)) (run : List Char) (stop : Nat) :
    leadAll opened (textToken run stop) = some opened := by
  unfold textToken
  split <;> rfl

theorem leadAll_closeTag {opened opened' : List (List Char)} {start stop : Nat} {content : List Char}
    {state : State} {items : List Placed}
    (h : closeTag opened start stop content = .next state opened' items) :
    leadAll opened items = some opened' := by
  unfold closeTag at h
  split at h
  · dsimp only at h
    split at h
    · cases h
    · next expected outer =>
      split at h
      · next hname =>
        cases h
        simp [leadAll, Token.lead, hname]
      · cases h
  · split at h <;> cases h <;> rfl

theorem leadAll_tagStep {opened opened' : List (List Char)} {start stop : Nat} {quote : Option Char}
    {content : List Char} {c : Char} {state : State} {items : List Placed}
    (h : tagStep opened start quote content c stop = .next state opened' items) :
    leadAll opened items = some opened' := by
  unfold tagStep at h
  split at h
  · exact leadAll_closeTag h
  · cases h
    rfl

/-- What a character completes leads to the elements that are open from then on. -/
theorem leadAll_step {opened opened' : List (List Char)} {pos : Nat} {state state' : State} {c : Char}
    {rest : List Char} {items : List Placed}
    (h : step opened pos state c rest = .next state' opened' items) :
    leadAll opened items = some opened' := by
  cases state with
  | text run =>
    simp only [step] at h
    split at h
    · cases h
      exact leadAll_textToken ..
    split at h
    · cases h
      exact leadAll_textToken ..
    · cases h
      rfl
  | tag start quote content => exact leadAll_tagStep h
  | markup start =>
    simp only [step] at h
    split at h
    · cases h
      rfl
    split at h
    · cases h
      rfl
    · exact leadAll_tagStep h
  | reference | instruction | bang | comment | cdata | doctype =>
    -- Whatever these complete is no tag.
    simp only [step, closeDoctype] at h
    repeat' split at h
    all_goals cases h
    all_goals rfl

theorem leadAll_finish (opened : List (List Char)) (pos : Nat) (state : State) :
    leadAll opened (finish pos state).1 = some opened := by
  unfold finish
  split <;> first | exact leadAll_textToken .. | rfl

/-- The tokens of a text are nested. -/
theorem nested_scanFrom (opened : List (List Char)) (pos : Nat) (state : State) (cs : List Char) :
    ∃ left, leadAll opened (scanFrom opened pos state cs).items = some left := by
  induction cs generalizing opened pos state with
  | nil => exact ⟨opened, leadAll_finish opened pos state⟩
  | cons c rest ih =>
    rw [scanFrom]
    split
    · exact ⟨opened, rfl⟩
    · next state' opened' items hstep =>
      obtain ⟨left, hleft⟩ := ih opened' (pos + c.utf8Size) state'
      exact ⟨left, (leadAll_append (leadAll_step hstep) _).trans hleft⟩

theorem nested_scan (cs : List Char) : ∃ left, leadAll [] (scan cs).items = some left := by
  unfold scan
  split <;> exact nested_scanFrom ..

/-! ## Events -/

/-- What is open, innermost first, and whether a text was the last event. -/
structure Nesting where
  opened : List QName
  afterText : Bool

/-- What is open after an event; `none` if it is a second text in a row or closes an element that is
not the innermost. -/
def Event.lead (p : Nesting) : Event → Option Nesting
  | .start name _ _ => some ⟨name :: p.opened, false⟩
  | .stop name =>
    match p.opened with
    | [] => none
    | expected :: outer => if name = expected then some ⟨outer, false⟩ else none
  | .text _ => if p.afterText then none else some ⟨p.opened, true⟩

/-- What is open after several events. -/
def Nesting.follow (p : Nesting) (events : List Event) : Option Nesting := events.foldlM Event.lead p

@[simp] theorem Nesting.follow_nil (p : Nesting) : p.follow [] = some p := rfl

theorem Nesting.follow_cons (p : Nesting) (event : Event) (rest : List Event) :
    p.follow (event :: rest) = (event.lead p).bind (·.follow rest) := rfl

theorem Nesting.follow_append (p : Nesting) (a b : List Event) :
    p.follow (a ++ b) = (p.follow a).bind (·.follow b) := List.foldlM_append

/-- The names of open elements, as events give them. -/
def openedNames (opened : List (List Char)) : List QName :=
  opened.map fun name => QName.parse (String.ofList name)

/-- The text in front of a tag changes nothing. -/
theorem Nesting.exists_follow_flushed (opened : List QName) (run : List Char) :
    ∃ afterText, Nesting.follow ⟨opened, false⟩ (flushed run) = some ⟨opened, afterText⟩ := by
  unfold flushed flush
  split
  · exact ⟨false, rfl⟩
  · exact ⟨true, rfl⟩

/-- An element opens inside what is open. -/
theorem Nesting.follow_start (opened : List QName) (run : List Char) (name : QName)
    (attributes declarations : OrderedMap String String) (rest : List Event) :
    Nesting.follow ⟨opened, false⟩ (flushed run ++ .start name attributes declarations :: rest) =
      Nesting.follow ⟨name :: opened, false⟩ rest := by
  obtain ⟨afterText, h⟩ := Nesting.exists_follow_flushed opened run
  rw [follow_append, h]
  rfl

/-- The innermost element closes. -/
theorem Nesting.follow_stop (opened : List QName) (run : List Char) (name : QName) (rest : List Event) :
    Nesting.follow ⟨name :: opened, false⟩ (flushed run ++ .stop name :: rest) =
      Nesting.follow ⟨opened, false⟩ rest := by
  obtain ⟨afterText, h⟩ := Nesting.exists_follow_flushed (name :: opened) run
  have hstop : Event.lead ⟨name :: opened, afterText⟩ (.stop name) = some ⟨opened, false⟩ := if_pos rfl
  rw [follow_append, h, Option.bind_some, follow_cons, hstop, Option.bind_some]

theorem startEvent_eq_ok {content : List Char} {name : QName} {event : Event}
    (h : startEvent content = .ok (name, event)) :
    name = QName.parse (String.ofList (startName content)) ∧
      ∃ attributes declarations, fileAttributes (rawAttributes content).items [] [] = .ok (attributes, declarations) ∧
        event = .start name attributes declarations := by
  obtain ⟨filed, hfiled, h⟩ := bind_eq_ok h
  dsimp only at h
  split at h
  · cases h
  · cases h
    exact ⟨rfl, _, _, mapError_eq_ok hfiled, rfl⟩

/-- Where events stand in front of a reading that came to its end, it did so by itself. -/
theorem Reading.of_events?_after {before : List Occurrence} {later : Reading} {events : List Event}
    (h : (Reading.after before later).events? = some events) :
    ∃ rest, later.events? = some rest ∧ events = before.map Prod.fst ++ rest := by
  rw [Reading.events?_after] at h
  obtain ⟨rest, hrest, rfl⟩ := Option.map_eq_some_iff.mp h
  exact ⟨rest, hrest, rfl⟩

/-- Nested tokens are reduced to nested events. -/
theorem nested_eventsFrom (ending : Ending) (run : List Char) {opened left : List (List Char)}
    {items : List Placed} (h : leadAll opened items = some left) {events : List Event}
    (hevents : (eventsFrom ending run items).events? = some events) :
    ∃ afterText, Nesting.follow ⟨openedNames opened, false⟩ events = some ⟨openedNames left, afterText⟩ := by
  induction items generalizing opened run events with
  | nil =>
    obtain rfl := Option.some.inj h
    cases ending with
    | failed _ => cases hevents
    | done pos =>
      obtain rfl := Option.some.inj hevents
      rw [eventsFrom, map_fst_flush]
      exact Nesting.exists_follow_flushed ..
  | cons item rest ih =>
    obtain ⟨token, pos⟩ := item
    obtain ⟨next, hnext, hrest⟩ := Option.bind_eq_some_iff.mp h
    cases token with
    | startTag content =>
      rw [eventsFrom] at hevents
      split at hevents
      · cases hevents
      · next name event hevent =>
        obtain ⟨rfl, attributes, declarations, -, rfl⟩ := startEvent_eq_ok hevent
        obtain rfl := Option.some.inj hnext
        obtain ⟨later, hlater, rfl⟩ := Reading.of_events?_after hevents
        obtain ⟨afterText, hfollow⟩ := ih [] hrest hlater
        rw [List.map_append, map_fst_flush, List.append_assoc]
        exact ⟨afterText, (Nesting.follow_start _ run _ _ _ later).trans hfollow⟩
    | emptyTag content =>
      rw [eventsFrom] at hevents
      split at hevents
      · cases hevents
      · next name event hevent =>
        obtain ⟨rfl, attributes, declarations, -, rfl⟩ := startEvent_eq_ok hevent
        obtain rfl := Option.some.inj hnext
        obtain ⟨later, hlater, rfl⟩ := Reading.of_events?_after hevents
        obtain ⟨afterText, hfollow⟩ := ih [] hrest hlater
        rw [List.map_append, map_fst_flush, List.append_assoc]
        exact ⟨afterText, (Nesting.follow_start _ run _ _ _ (_ :: later)).trans
          ((Nesting.follow_stop _ [] _ later).trans hfollow)⟩
    | endTag name =>
      rw [eventsFrom] at hevents
      obtain ⟨later, hlater, rfl⟩ := Reading.of_events?_after hevents
      cases opened with
      | nil => cases hnext
      | cons expected outer =>
        -- The scanner has compared the names.
        obtain ⟨rfl, hnext'⟩ := Option.ite_none_right_eq_some.mp hnext
        obtain rfl := Option.some.inj hnext'
        obtain ⟨afterText, hfollow⟩ := ih [] hrest hlater
        rw [List.map_append, map_fst_flush, List.append_assoc]
        exact ⟨afterText, (Nesting.follow_stop _ run _ later).trans hfollow⟩
    | text more => exact ih (run ++ more) h hevents
    | cdata more => exact ih (run ++ more) h hevents
    | other => exact ih run h hevents
    | reference name =>
      rw [eventsFrom] at hevents
      split at hevents
      · exact ih _ h hevents
      · cases hevents

/-- The events of a document that is read to its end are nested. -/
theorem nested_read {text : String} {events : List Event} (h : (read text).events? = some events) :
    ∃ left, Nesting.follow ⟨[], false⟩ events = some left := by
  obtain ⟨left, hleft⟩ := nested_scan text.toList
  obtain ⟨afterText, hfollow⟩ := nested_eventsFrom (scan text.toList).ending [] hleft h
  exact ⟨_, hfollow⟩

/-! ## Texts -/

/-- A text is trimmed and not empty; any other event has none. -/
def Event.IsTrimmed : Event → Prop
  | .text content => content ≠ "" ∧ Text.trim content = content
  | .start .. | .stop _ => True

theorem isTrimmed_flush (run : List Char) (pos : Nat) : ∀ e ∈ flush run pos, e.1.IsTrimmed := by
  intro e he
  unfold flush at he
  split at he
  · cases he
  · next hne =>
    obtain rfl := List.mem_singleton.mp he
    constructor
    · rw [← String.toList_inj.ne, String.toList_ofList]
      exact hne
    · rw [Text.trim, String.toList_ofList, Text.trimChars_trimChars]

/-- An opening tag is no text. -/
theorem isTrimmed_startEvent {content : List Char} {name : QName} {event : Event}
    (h : startEvent content = .ok (name, event)) : event.IsTrimmed := by
  obtain ⟨-, attributes, declarations, -, rfl⟩ := startEvent_eq_ok h
  trivial

/-- Nothing but a run that was trimmed comes to be a text. -/
theorem isTrimmed_eventsFrom (ending : Ending) (run : List Char) (items : List Placed) :
    ∀ e ∈ (eventsFrom ending run items).events, e.1.IsTrimmed := by
  have hafter : ∀ {run : List Char} {pos : Nat} {tags : List Occurrence} {later : Reading},
      (∀ e ∈ tags, e.1.IsTrimmed) → (∀ e ∈ later.events, e.1.IsTrimmed) →
        ∀ e ∈ (Reading.after (flush run pos ++ tags) later).events, e.1.IsTrimmed := by
    intro run pos tags later htags hlater e he
    rcases List.mem_append.mp he with he | he
    · rcases List.mem_append.mp he with he | he
      · exact isTrimmed_flush run pos e he
      · exact htags e he
    · exact hlater e he
  have hfail : ∀ (pos : Nat) (cause : Cause), ∀ e ∈ (Reading.fail pos cause).events, e.1.IsTrimmed := by
    intro pos cause e he
    cases he
  induction items generalizing run with
  | nil =>
    cases ending with
    | failed _ => simp [eventsFrom]
    | done pos => exact isTrimmed_flush run pos
  | cons item rest ih =>
    obtain ⟨token, pos⟩ := item
    cases token with
    | startTag content =>
      rw [eventsFrom]
      split
      · exact hfail _ _
      · next hevent =>
        apply hafter _ (ih [])
        simpa using isTrimmed_startEvent hevent
    | emptyTag content =>
      rw [eventsFrom]
      split
      · exact hfail _ _
      · next hevent =>
        apply hafter _ (ih [])
        simpa [Event.IsTrimmed] using isTrimmed_startEvent hevent
    | endTag name =>
      apply hafter _ (ih [])
      simp [Event.IsTrimmed]
    | text more | cdata more | other => exact ih _
    | reference name =>
      rw [eventsFrom]
      split
      · exact ih _
      · exact hfail _ _

/-- The texts of a document that is read to its end are trimmed and not empty. -/
theorem isTrimmed_read {text : String} {events : List Event} (h : (read text).events? = some events) :
    ∀ event ∈ events, event.IsTrimmed := by
  intro event hevent
  unfold Reading.events? at h
  split at h
  · obtain rfl := Option.some.inj h
    obtain ⟨e, he, rfl⟩ := List.mem_map.mp hevent
    exact isTrimmed_eventsFrom _ _ _ e he
  · cases h

end Soap.Xml
