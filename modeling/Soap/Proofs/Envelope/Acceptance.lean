import Soap.Proofs.Document.Building
import Soap.Proofs.Envelope.Fault

/-!
# Which documents are accepted as envelopes

The roots of a document are taken for the children of something around them, and the envelope for the field that
has its name. So a document is accepted exactly if one of its roots is an envelope (`Envelope.accepted_iff`): other
roots are passed over, wherever they stand, and of several envelopes none is read. A document with one root is
accepted exactly if this is an envelope. Descriptions are read differently, and must have a single root.
-/

namespace Soap

open Xml (Element Event)
open Xml.Element (called childEvents childOffers childValues documentEvents documentMessage? documentTargets
  documentValues textEvents totalSize)

/-! ## How many roots there are -/

namespace Xml.Element

/-- The number of elements that are opened outside of all others, where `depth` elements are open. -/
def rootsFrom : (depth : Nat) → List Event → Nat
  | _, [] => 0
  | depth, .start .. :: rest => (if depth = 0 then 1 else 0) + rootsFrom (depth + 1) rest
  | depth, .stop _ :: rest => rootsFrom (depth - 1) rest
  | depth, .text _ :: rest => rootsFrom depth rest

theorem rootsFrom_textEvents (depth : Nat) (text : Option String) (later : List Event) :
    rootsFrom depth (textEvents text ++ later) = rootsFrom depth later := by
  cases text <;> rfl

mutual

/-- Inside of another, an element is no root. -/
theorem rootsFrom_inside (depth : Nat) (e : Element) (later : List Event) :
    rootsFrom (depth + 1) (e.events ++ later) = rootsFrom (depth + 1) later := by
  match e with
  | ⟨name, attributes, declarations, text, children⟩ =>
    rw [events, List.cons_append, rootsFrom, if_neg (Nat.succ_ne_zero depth), Nat.zero_add, List.append_assoc,
      List.append_assoc, rootsFrom_textEvents, rootsFrom_childrenInside (depth + 1) children]
    rfl

theorem rootsFrom_childrenInside (depth : Nat) (children : List (Element × Option String)) (later : List Event) :
    rootsFrom (depth + 1) (childEvents children ++ later) = rootsFrom (depth + 1) later := by
  match children with
  | [] => rfl
  | (child, text) :: rest =>
    rw [childEvents, List.append_assoc, List.append_assoc, rootsFrom_inside depth child, rootsFrom_textEvents,
      rootsFrom_childrenInside depth rest]

end

/-- Outside of all others it is one. -/
theorem rootsFrom_root (e : Element) (later : List Event) :
    rootsFrom 0 (e.events ++ later) = 1 + rootsFrom 0 later := by
  obtain ⟨name, attributes, declarations, text, children⟩ := e
  rw [events, List.cons_append, rootsFrom, if_pos rfl, List.append_assoc, List.append_assoc, rootsFrom_textEvents,
    rootsFrom_childrenInside]
  rfl

theorem rootsFrom_documentEvents (lead : Option String) (roots : List (Element × Option String)) :
    rootsFrom 0 (documentEvents lead roots) = roots.length := by
  rw [documentEvents, rootsFrom_textEvents]
  induction roots with
  | nil => rfl
  | cons first rest ih =>
    obtain ⟨root, text⟩ := first
    rw [childEvents, List.append_assoc, rootsFrom_root, rootsFrom_textEvents, ih, List.length_cons, Nat.add_comm]

/-- What is read of a document tells the number of its roots. -/
theorem length_eq_of_documentEvents_eq {lead lead' : Option String} {roots roots' : List (Element × Option String)}
    (h : documentEvents lead roots = documentEvents lead' roots') : roots.length = roots'.length := by
  rw [← rootsFrom_documentEvents lead roots, h, rootsFrom_documentEvents]

end Xml.Element

namespace Envelope

/-! ## Roots that are envelopes -/

/-- The result is an envelope, or the fault in one. -/
def IsAccepted (result : Except DecodeError Envelope) : Prop :=
  (∃ e, result = .ok e) ∨ ∃ f, result = .error (.fault f)

theorem isAccepted_ofValue (v : Value) : IsAccepted (ofValue v) := by
  unfold ofValue
  split
  · exact .inr ⟨_, rfl⟩
  · exact .inl ⟨_, rfl⟩

theorem not_isAccepted_missingEnvelope : ¬ IsAccepted (.error .missingEnvelope) := by
  rintro (⟨_, h⟩ | ⟨_, h⟩) <;> cases h

/-- What is accepted has no fault in its text. -/
theorem IsAccepted.ne_parse {result : Except DecodeError Envelope} (h : IsAccepted result) (e : ParseError) :
    result ≠ .error (.parse e) := by
  rintro rfl
  rcases h with ⟨_, h⟩ | ⟨_, h⟩ <;> cases h

section

variable (defs : Option Definitions) {text : String} {lead : Option String} {roots : List (Element × Option String)}
  (h : (Xml.read text).events? = some (documentEvents lead roots))

include h

/-- What the roots of that name come to. -/
theorem decode_eq_gather :
    decode defs text =
      let envelopes := Partial.named "Envelope" (documentValues defs roots)
      if envelopes = [] then .error .missingEnvelope
      else ofValue ((Partial.gather false envelopes).resolve (documentTargets defs roots) []) := by
  have hrepeated : (some overlay).any (·.isRepeated "Envelope") = false := by decide
  rw [decode_document defs h, Partial.get?_collect, hrepeated]
  split <;> rename_i heq
  · split at heq
    · next hnil => rw [if_pos hnil]
    · cases heq
  · split at heq
    · cases heq
    · next hne =>
      obtain rfl := Option.some.inj heq
      rw [if_neg hne]

theorem decode_of_no_envelope (hnone : called "Envelope" roots = []) : decode defs text = .error .missingEnvelope := by
  have hnil :=
    (Element.named_childValues_eq_nil_iff defs (documentMessage? roots) .outermost "Envelope" 0 roots).mpr hnone
  rw [decode_eq_gather defs h]
  exact if_pos hnil

/-- The only envelope is read, with whatever the other roots have names for. -/
theorem decode_of_envelope {root : Element} (hone : called "Envelope" roots = [root]) :
    ∃ before trail after, roots = before ++ (root, trail) :: after ∧
      decode defs text =
        ofValue ((root.standIn (root.content defs (documentMessage? roots) (Expectation.outermost.child "Envelope")
          (totalSize before))).resolve (documentTargets defs roots) []) := by
  obtain ⟨before, trail, after, hsplit, hbefore, hafter, hname⟩ := Element.exists_split_of_called hone
  let number := 0 + totalSize before
  have hnamed : Partial.named "Envelope" (childValues defs (documentMessage? roots) .outermost 0 roots) =
      [root.standIn (root.content defs (documentMessage? roots)
        (Expectation.outermost.inside defs (documentMessage? roots) number "Envelope") number)] := by
    rw [hsplit]
    exact Element.named_childValues_of_called defs _ .outermost hbefore hafter hname 0
  have hmessage : documentMessage? roots ≠ some number := by
    intro heq
    have hmem := List.mem_of_mem_head? heq
    rw [hsplit] at hmem
    exact Element.not_mem_childOffers (by decide) 0 before root trail after hmem
  have hread : Expectation.outermost.inside defs (documentMessage? roots) number "Envelope" =
      Expectation.outermost.child "Envelope" := if_neg hmessage
  refine ⟨before, trail, after, hsplit, ?_⟩
  rw [decode_eq_gather defs h, documentValues, hnamed, hread, ← Nat.zero_add (totalSize before)]
  rfl

/-- Several envelopes are a list, which has no fields. -/
theorem decode_of_envelopes (hmany : 2 ≤ (called "Envelope" roots).length) :
    decode defs text = .ok { header := none, body := .emptyObject } := by
  rw [← Element.length_named_childValues defs (documentMessage? roots) .outermost "Envelope" 0 roots] at hmany
  rw [decode_eq_gather defs h, documentValues]
  cases hnamed : Partial.named "Envelope" (childValues defs (documentMessage? roots) .outermost 0 roots) with
  | nil => simp [hnamed] at hmany
  | cons first more =>
    cases more with
    | nil => simp [hnamed] at hmany
    | cons second rest =>
      dsimp only
      rw [if_neg (List.cons_ne_nil _ _), Partial.gather, Partial.resolve]
      · rfl
      · simp

theorem isAccepted_decode_iff : IsAccepted (decode defs text) ↔ called "Envelope" roots ≠ [] := by
  constructor
  · intro haccepted hnone
    rw [decode_of_no_envelope defs h hnone] at haccepted
    exact not_isAccepted_missingEnvelope haccepted
  · intro hne
    have hnil := Element.named_childValues_eq_nil_iff defs (documentMessage? roots) .outermost "Envelope" 0 roots
    have hnamed := mt hnil.mp hne
    rw [decode_eq_gather defs h]
    dsimp only
    rw [documentValues, if_neg hnamed]
    exact isAccepted_ofValue _

end

/-- A text is accepted exactly if it is read as a document that has an envelope among its roots. What is decoded is
the only envelope, with references followed to wherever they lead in the document, whatever roots stand before and
after it; of several envelopes it is an empty body. Where there is a single root it has to be an envelope. A text
that is a description has a single root. -/
theorem accepted_iff (defs : Option Definitions) (text : String) :
    (IsAccepted (decode defs text) ↔
      ∃ lead roots, (Xml.read text).events? = some (documentEvents lead roots) ∧ called "Envelope" roots ≠ []) ∧
    ∀ lead roots, (Xml.read text).events? = some (documentEvents lead roots) →
      (∀ root, called "Envelope" roots = [root] →
        ∃ before trail after, roots = before ++ (root, trail) :: after ∧
          decode defs text =
            ofValue ((root.standIn (root.content defs (documentMessage? roots) (Expectation.outermost.child "Envelope")
              (totalSize before))).resolve (documentTargets defs roots) [])) ∧
      (2 ≤ (called "Envelope" roots).length → decode defs text = .ok { header := none, body := .emptyObject }) ∧
      (∀ root trail, roots = [(root, trail)] → (IsAccepted (decode defs text) ↔ root.localName = "Envelope")) ∧
      ∀ strict doc, Document.parse text strict = .ok doc → roots.length = 1 := by
  refine ⟨⟨fun haccepted => ?_, ?_⟩, fun lead roots h => ⟨fun root => decode_of_envelope defs h,
    decode_of_envelopes defs h, ?_, fun strict doc hdoc => ?_⟩⟩
  · obtain ⟨lead, roots, h⟩ := Element.exists_document haccepted.ne_parse
    exact ⟨lead, roots, h, (isAccepted_decode_iff defs h).mp haccepted⟩
  · rintro ⟨lead, roots, h, hne⟩
    exact (isAccepted_decode_iff defs h).mpr hne
  · rintro root trail rfl
    rw [isAccepted_decode_iff defs h, called, List.map_singleton, List.filter_singleton]
    by_cases hname : root.localName = "Envelope"
    · simp [hname]
    · simp [hname, beq_eq_false_iff_ne.mpr hname]
  · obtain ⟨root, -, ⟨lead', trail, h'⟩, -⟩ := Document.exists_isReadAs hdoc
    exact Element.length_eq_of_documentEvents_eq (Option.some.inj (h.symm.trans h'))

/-! ### A note in front -/

/-- An envelope with a number in its body. -/
def numbered : Element := .plain "Envelope" none [.plain "Body" none [.plain "id" (some "7") []]]

def note : Element := .plain "note" none []

def notedText : String := "<note/><Envelope><Body><id>7</id></Body></Envelope>"

theorem read_notedText :
    (Xml.read notedText).events? = some (documentEvents none [(note, none), (numbered, none)]) := by decide +kernel

/-- The note is passed over. -/
theorem accepted_iff_noted :
    (Xml.read notedText).events? = some (documentEvents none [(note, none), (numbered, none)]) ∧
    IsAccepted (decode none notedText) ∧
    decode none notedText = .ok { header := none, body := .object [("id", .string "7")] } ∧
    ∀ strict doc, Document.parse notedText strict ≠ .ok doc := by
  obtain ⟨haccepted, hroots⟩ := accepted_iff none notedText
  obtain ⟨hone, -, -, hdescription⟩ := hroots _ _ read_notedText
  obtain ⟨before, trail, after, hsplit, hdecode⟩ := hone numbered rfl
  refine ⟨read_notedText, haccepted.mpr ⟨_, _, read_notedText, List.cons_ne_nil _ _⟩, ?_, fun strict doc hdoc => ?_⟩
  · have hgathered : Partial.gather false
        (Partial.named "Envelope" (documentValues none [(note, none), (numbered, none)])) =
          .object [("Body", .object [("id", .scalar (.string "7"))])] := rfl
    rw [decode_eq_gather none read_notedText]
    dsimp only
    rw [hgathered]
    simp [Partial.resolve, Partial.resolveFields]
    rfl
  · cases hdescription strict doc hdoc

/-- A document with another root than the envelope is accepted, and so is one with two envelopes. -/
theorem not_accepted_alone :
    (¬ ∀ (defs : Option Definitions) (text : String), IsAccepted (decode defs text) →
      ∃ root, Xml.IsReadAs text root ∧ root.localName = "Envelope") ∧
    decode none "<Envelope/><Envelope/>" = .ok { header := none, body := .emptyObject } := by
  refine ⟨fun h => ?_, ?_⟩
  · have haccepted := (isAccepted_decode_iff none read_notedText).mpr (List.cons_ne_nil _ _)
    obtain ⟨root, ⟨lead, trail, hread⟩, -⟩ := h none notedText haccepted
    cases Element.length_eq_of_documentEvents_eq (Option.some.inj (read_notedText.symm.trans hread))
  · have hread : (Xml.read "<Envelope/><Envelope/>").events? =
        some (documentEvents none [(.plain "Envelope" none [], none), (.plain "Envelope" none [], none)]) := by
      decide +kernel
    exact decode_of_envelopes none hread (le_refl 2)

end Envelope

end Soap
