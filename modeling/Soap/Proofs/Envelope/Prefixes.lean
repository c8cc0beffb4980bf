import Soap.Proofs.Definitions.Equality
import Soap.Envelope.Decoder

/-!
# Prefixes do not matter

Envelopes are read by local names. Two documents whose events differ in nothing but prefixes and declarations of
namespaces (`Xml.Reading.IsAlike`) lead a decoder through the same states (`Decoder.progress_alike`), so they are
decoded to the same envelope, or they fail alike (`Envelope.decode_alike`).
-/

namespace Soap

namespace Xml

/-! ## Errors without positions -/

def AttributeError.withoutPositions : AttributeError → AttributeError
  | .expectedEquals _ => .expectedEquals 0
  | .expectedValue _ => .expectedValue 0
  | .unquotedValue _ => .unquotedValue 0
  | .unclosedValue _ quote => .unclosedValue 0 quote
  | .duplicated _ _ => .duplicated 0 0

def UnescapeError.withoutPositions : UnescapeError → UnescapeError
  | .unknownEntity _ _ name => .unknownEntity 0 0 name
  | .unterminated _ _ => .unterminated 0 0
  | .charRef e => .charRef e

def Cause.withoutPositions : Cause → Cause
  | .attribute e => .attribute e.withoutPositions
  | .value e => .value e.withoutPositions
  | cause => cause

/-- The same is wrong with two texts, if at other places. -/
def Error.IsSameElsewhere (e e' : Error) : Prop := e.cause.withoutPositions = e'.cause.withoutPositions

/-! ## Events without prefixes -/

/-- What is left of an event without the prefixes of its names, and without its declarations of namespaces. -/
inductive LocalEvent where
  | start (name : String) (attributes : List (String × String))
  | stop (name : String)
  | text (content : String)
deriving DecidableEq, Repr

/-- The attributes under their local names. -/
def localAttributes (attributes : OrderedMap String String) : List (String × String) :=
  attributes.map fun (key, value) => (localPart key, value)

def Event.localEvent : Event → LocalEvent
  | .start name attributes _ => .start name.localName (localAttributes attributes)
  | .stop name => .stop name.localName
  | .text content => .text content

def Reading.localEvents (r : Reading) : List LocalEvent := r.events.map fun e => e.1.localEvent

/-- Two documents differ in prefixes and in declarations of namespaces only: their events are the same without
these, and both end well, or with errors that count as the same. -/
structure Reading.IsAlike (same : Error → Error → Prop) (r r' : Reading) : Prop where
  events : r.localEvents = r'.localEvents
  errors : Option.Rel same r.error? r'.error?

end Xml

namespace Decoder

variable {definitions : Option Definitions}

/-! ## Steps by local names -/

/-- The first attribute of a local name is the same, whatever the prefixes are. -/
theorem localAttribute?_eq (attributes : OrderedMap String String) (name : String) :
    localAttribute? attributes name =
      ((Xml.localAttributes attributes).find? fun entry => entry.1 == name).map Prod.snd := by
  rw [localAttribute?, Xml.localAttributes, List.find?_map, Option.map_map]
  rfl

/-- An element is opened by its local name and those of its attributes. -/
theorem openElement_alike (p : Progress) (name : String) {attributes attributes' : OrderedMap String String}
    (h : Xml.localAttributes attributes = Xml.localAttributes attributes') :
    openElement definitions p name attributes = openElement definitions p name attributes' := by
  have hlocal : ∀ wanted, localAttribute? attributes wanted = localAttribute? attributes' wanted := by
    intro wanted
    rw [localAttribute?_eq, h, ← localAttribute?_eq]
  unfold openElement
  rw [hlocal, hlocal]

/-- A step goes by local names. -/
theorem step_alike (p : Progress) {e e' : Xml.Event} (h : e.localEvent = e'.localEvent) :
    step definitions p e = step definitions p e' := by
  cases e with
  | start name attributes declarations =>
    cases e' with
    | start name' attributes' declarations' =>
      obtain ⟨hname, hattributes⟩ := Xml.LocalEvent.start.inj h
      show openElement definitions p name.localName attributes = openElement definitions p name'.localName attributes'
      rw [hname]
      exact openElement_alike p name'.localName hattributes
    | stop name' => nomatch h
    | text content' => nomatch h
  | stop name =>
    cases e' with
    | stop name' => rfl
    | start name' attributes' declarations' => nomatch h
    | text content' => nomatch h
  | text content =>
    cases e' with
    | text content' => rw [Xml.LocalEvent.text.inj h]
    | start name' attributes' declarations' => nomatch h
    | stop name' => nomatch h

/-- How far a decoder is after the first `n` events of a document. -/
def progress (definitions : Option Definitions) (r : Xml.Reading) (n : Nat) : Progress :=
  (r.events.take n).foldl (fun p e => step definitions p e.1) start

/-- Documents that are the same without prefixes are followed alike. -/
theorem foldl_step_alike {events events' : List Xml.Occurrence}
    (h : events.map (fun e => e.1.localEvent) = events'.map fun e => e.1.localEvent) (p : Progress) :
    events.foldl (fun p e => step definitions p e.1) p = events'.foldl (fun p e => step definitions p e.1) p := by
  induction events generalizing events' p with
  | nil =>
    obtain rfl := List.map_eq_nil_iff.mp h.symm
    rfl
  | cons first rest ih =>
    obtain ⟨first', rest', rfl, hfirst, hrest⟩ := List.map_eq_cons_iff.mp h.symm
    rw [List.foldl_cons, List.foldl_cons, step_alike p hfirst.symm]
    exact ih hrest.symm _

theorem progress_alike {r r' : Xml.Reading} (h : r.localEvents = r'.localEvents) (n : Nat) :
    progress definitions r n = progress definitions r' n := by
  apply foldl_step_alike
  rw [List.map_take, List.map_take]
  exact congrArg (List.take n) h

/-- What a complete document is decoded to is what its last state comes to. -/
theorem ofReading_of_complete {r : Xml.Reading} (h : r.error? = none) :
    ofReading definitions r = finish (progress definitions r r.events.length) := by
  rw [ofReading, h, progress, List.take_length]

/-- Decoding ends alike: with the same result, or because the texts cannot be read, with errors that count as the
same. -/
inductive EndsAlike (same : Xml.Error → Xml.Error → Prop) :
    Except DecodeError Envelope → Except DecodeError Envelope → Prop where
  | same (result : Except DecodeError Envelope) : EndsAlike same result result
  | unreadable {e e' : Xml.Error} (h : same e e') :
      EndsAlike same (.error (.parse (.xml e))) (.error (.parse (.xml e')))

theorem EndsAlike.eq {result result' : Except DecodeError Envelope} (h : EndsAlike Eq result result') :
    result = result' := by
  cases h with
  | same _ => rfl
  | unreadable hsame => rw [hsame]

theorem ofReading_alike {same : Xml.Error → Xml.Error → Prop} {r r' : Xml.Reading} (h : r.IsAlike same r') :
    EndsAlike same (ofReading definitions r) (ofReading definitions r') := by
  have herrors := h.errors
  generalize hr : r.error? = error?, hr' : r'.error? = error?' at herrors
  cases herrors with
  | none =>
    have hlength : r.events.length = r'.events.length := by
      simpa [Xml.Reading.localEvents] using congrArg List.length h.events
    rw [ofReading_of_complete hr, ofReading_of_complete hr', progress_alike h.events, hlength]
    exact .same _
  | some hsame =>
    rw [ofReading, ofReading, hr, hr']
    exact .unreadable hsame

end Decoder

/-- Documents that differ in prefixes and in declarations of namespaces only are decoded alike, with any definitions
or none: to the same envelope, or with the same error. An error of a text is the same as far as the errors of the
two texts are, say up to byte positions. After each event everything that the decoder knows is the same, so are
the shapes and types that it reads by, the values that it has read, and what refers to what. -/
theorem Envelope.decode_alike {same : Xml.Error → Xml.Error → Prop} {text text' : String}
    (h : (Xml.read text).IsAlike same (Xml.read text')) (definitions : Option Definitions) :
    Decoder.EndsAlike same (decode definitions text) (decode definitions text') ∧
    ∀ n, Decoder.progress definitions (Xml.read text) n = Decoder.progress definitions (Xml.read text') n :=
  ⟨Decoder.ofReading_alike h, Decoder.progress_alike h.events⟩

/-! ### An order under other prefixes -/

/-- An order whose line is called like its number. -/
def prefixedOrder : String :=
  "<soap:Envelope xmlns:soap=\"http://schemas.xmlsoap.org/soap/envelope/\"><soap:Body>" ++
    "<o:order xmlns:o=\"urn:orders\"><o:id x:id=\"n\">7</o:id><o:paid>true</o:paid><o:line x:href=\"#n\"/>" ++
    "</o:order></soap:Body></soap:Envelope>"

/-- The order with other prefixes and declarations, or none. -/
def bareOrder : String :=
  "<Envelope><Body xmlns=\"urn:orders\"><order><id id=\"n\">7</id><p:paid xmlns:p=\"urn:other\">true</p:paid>" ++
    "<line href=\"#n\"/></order></Body></Envelope>"

/-- An envelope that ends in an attribute without quotes. -/
def prefixedScrap : String := "<soap:Envelope><soap:Body soap:id=b>"

def bareScrap : String := "<Envelope><Body id=b>"

/-- Both orders are decoded to the same, and of both scraps it is told that the value is not quoted. -/
theorem Envelope.decode_alike_orders :
    (Xml.read prefixedOrder).IsAlike Eq (Xml.read bareOrder) ∧
    (Xml.read prefixedScrap).IsAlike Xml.Error.IsSameElsewhere (Xml.read bareScrap) ∧
    Envelope.decode (some orders) prefixedOrder = Envelope.decode (some orders) bareOrder ∧
    ∀ definitions, Decoder.EndsAlike Xml.Error.IsSameElsewhere (Envelope.decode definitions prefixedScrap)
      (Envelope.decode definitions bareScrap) := by
  have horders : (Xml.read prefixedOrder).IsAlike Eq (Xml.read bareOrder) := by
    have hreadings : (Xml.read prefixedOrder).localEvents = (Xml.read bareOrder).localEvents ∧
        (Xml.read prefixedOrder).error? = none ∧ (Xml.read bareOrder).error? = none := by
      decide +kernel
    obtain ⟨hevents, hcomplete, hcomplete'⟩ := hreadings
    refine ⟨hevents, ?_⟩
    rw [hcomplete, hcomplete']
    exact .none
  have hscraps : (Xml.read prefixedScrap).IsAlike Xml.Error.IsSameElsewhere (Xml.read bareScrap) := by
    have herror : (Xml.read prefixedScrap).error? = some ⟨36, .attribute (.unquotedValue 18)⟩ := by decide +kernel
    have herror' : (Xml.read bareScrap).error? = some ⟨21, .attribute (.unquotedValue 8)⟩ := by decide +kernel
    refine ⟨by decide +kernel, ?_⟩
    rw [herror, herror']
    exact .some rfl
  refine ⟨horders, hscraps, ?_, ?_⟩
  · exact (Envelope.decode_alike horders (some orders)).1.eq
  · intro definitions
    exact (Envelope.decode_alike hscraps definitions).1

end Soap
