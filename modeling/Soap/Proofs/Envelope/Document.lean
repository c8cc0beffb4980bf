import Soap.Proofs.Envelope.Tree
import Soap.Proofs.Value.Unfolding
import Soap.Proofs.Xml.Nesting

/-!
# Decoding whole documents

A document that is read to its end and leaves nothing open is a list of trees with texts between them
(`Xml.Element.exists_document`), and decoding follows these trees (`Envelope.decode_document`): what is
decoded is told by the values and the targets that they leave. So a statement about all documents is one
about all lists of trees.
-/

namespace Soap

open Xml (Element Event Nesting)
open Decoder (Progress step outermost)
open Xml.Element (documentEvents childValues childClosings childOffers)

namespace Decoder

/-! ## What is left open -/

theorem length_step (defs : Option Definitions) {p p' : Nesting} {event : Event} (h : event.lead p = some p')
    {s : Progress} (hs : s.opened.length = p.opened.length + 1) :
    (step defs s event).opened.length = p'.opened.length + 1 := by
  obtain ⟨opened, met, targets⟩ := s
  cases opened with
  | nil => cases hs
  | cons frame outer =>
    cases event with
    | start name attributes declarations =>
      obtain rfl := Option.some.inj h
      exact congrArg (· + 1) hs
    | text content =>
      obtain ⟨-, h⟩ := Option.ite_none_left_eq_some.mp h
      obtain rfl := Option.some.inj h
      exact hs
    | stop name =>
      obtain ⟨names, afterText⟩ := p
      cases names with
      | nil => cases h
      | cons expected names =>
        obtain ⟨-, h⟩ := Option.ite_none_right_eq_some.mp h
        obtain rfl := Option.some.inj h
        cases outer with
        | nil => cases hs
        | cons parent outer => exact Nat.succ.inj hs

/-- The decoder has as many elements open as the tags left open, and what holds the roots. -/
theorem length_follow (defs : Option Definitions) {events : List Event} {p q : Nesting}
    (h : p.follow events = some q) {s : Progress} (hs : s.opened.length = p.opened.length + 1) :
    (events.foldl (step defs) s).opened.length = q.opened.length + 1 := by
  induction events generalizing p s with
  | nil =>
    obtain rfl := Option.some.inj h
    exact hs
  | cons event rest ih =>
    obtain ⟨p', hp', hrest⟩ := Option.bind_eq_some_iff.mp h
    exact ih hrest (length_step defs hp' hs)

theorem finish_of_opened {s : Progress} (h : 1 < s.opened.length) :
    ∃ name, finish s = .error (.parse (.unexpectedEnd name)) := by
  obtain ⟨opened, met, targets⟩ := s
  have hlength : 1 < opened.reverse.length := by rwa [List.length_reverse]
  unfold finish
  dsimp only
  split
  · exact ⟨_, rfl⟩
  · next hnil =>
    rw [hnil] at hlength
    cases hlength
  · next hone =>
    rw [hone] at hlength
    cases hlength
    contradiction

end Decoder

/-- A text that is not read to its end is an error. -/
theorem ofReading_of_events?_eq_none (defs : Option Definitions) {r : Xml.Reading} (h : r.events? = none) :
    ∃ e, Decoder.ofReading defs r = .error (.parse (.xml e)) := by
  obtain ⟨occurrences, ending⟩ := r
  cases ending with
  | done _ => cases h
  | failed f => exact ⟨f.error, rfl⟩

/-- A document that is decoded without an error of its text is a list of trees. -/
theorem Xml.Element.exists_document {defs : Option Definitions} {text : String}
    (h : ∀ e, Envelope.decode defs text ≠ .error (.parse e)) :
    ∃ lead roots, (Xml.read text).events? = some (documentEvents lead roots) := by
  cases hevents : (Xml.read text).events? with
  | none =>
    obtain ⟨e, he⟩ := ofReading_of_events?_eq_none defs hevents
    exact absurd he (h _)
  | some events =>
    obtain ⟨q, hfollow⟩ := Xml.nested_read hevents
    have hlength := Decoder.length_follow defs hfollow (s := Decoder.start) rfl
    cases hopened : q.opened with
    | nil =>
      obtain ⟨lead, roots, rfl⟩ := exists_roots hfollow hopened
      exact ⟨lead, roots, rfl⟩
    | cons name outer =>
      rw [hopened, List.length_cons] at hlength
      obtain ⟨name, hfinish⟩ := Decoder.finish_of_opened (s := events.foldl (Decoder.step defs) Decoder.start) (by omega)
      rw [Envelope.decode, ofReading_eq defs hevents] at h
      exact absurd hfinish (h _)


/-! ## Fields of what is read -/

/-- No leaf has fields. -/
theorem Value.get?_coerce (kind : ScalarKind) (text key : String) : (Value.coerce kind text).get? key = none := by
  cases kind with
  | integer =>
    rw [Value.coerce]
    cases Text.leadingInt64? text.toList <;> rfl
  | dateTime =>
    rw [Value.coerce]
    cases Timestamp.parse? text <;> rfl
  | boolean | text => rfl

namespace Partial

variable {targets : OrderedMap String Partial} {children : List (String × Partial)}

/-- What stands in an element has the fields of its children. -/
theorem fields_content (x : Expectation) (text : Option String) :
    (x.content text children).fields = collect x.schema children := by
  cases children with
  | cons first rest => rfl
  | nil =>
    unfold Expectation.content
    cases text with
    | some text => rfl
    | none =>
      dsimp only
      split <;> rfl

/-- They are unfolded one by one. -/
theorem get?_resolve_content (x : Expectation) (text : Option String) (active : List String) (key : String) :
    ((x.content text children).resolve targets active).get? key =
      ((collect x.schema children).get? key).map (resolve targets active) := by
  cases children with
  | cons first rest => exact get?_resolve_object active _ key
  | nil =>
    unfold Expectation.content
    cases text with
    | some text =>
      dsimp only
      rw [resolve]
      exact Value.get?_coerce ..
    | none =>
      dsimp only
      split
      · rw [resolve]
        rfl
      · exact get?_resolve_object active [] key

/-! ### The body -/

/-- The body of an envelope that stands there itself; what an envelope refers to has its own. -/
def body (envelope : Partial) : Partial := (envelope.fields.get? "Body").getD envelope

theorem body_ref (id : String) : (ref id).body = .ref id := rfl

end Partial

/-! ## What a document leaves -/

namespace Xml.Element

section

variable (defs : Option Definitions) (roots : List (Element × Option String))

/-- The number of the element that carries the message of a document. -/
def documentMessage? : Option Nat := (childOffers "" 0 roots).head?

/-- What the roots of a document are. -/
def documentValues : List (String × Partial) :=
  childValues defs (documentMessage? roots) .outermost 0 roots

/-- The elements of a document that can be referred to. -/
def documentTargets : OrderedMap String Partial :=
  OrderedMap.ofList (registered (childClosings defs (documentMessage? roots) .outermost 0 roots))

end

/-- The elements of an envelope that can be referred to. -/
def targets (defs : Option Definitions) (root : Element) : OrderedMap String Partial :=
  OrderedMap.ofList (registered (root.allClosings defs))

end Xml.Element

open Xml.Element (documentMessage? documentValues documentTargets IsFirstOf totalSize textEvents)

namespace Decoder

/-- What holds the roots has a field for each name among them. -/
theorem fields_addingAll_outermost (lead : Option String) {values : List (String × Partial)}
    (hlist : ∀ child ∈ values, ∀ items, child.2 ≠ .list items) :
    ((outermost.withText lead).addingAll values).node.fields =
      Partial.collect (some Envelope.overlay) values := by
  have hfields : (outermost.withText lead).node.fields = [] := by cases lead <;> rfl
  cases values with
  | nil => exact hfields
  | cons first rest =>
    rw [Frame.addingAll_collect _ [] (first :: rest) hlist (by rw [hfields]; rfl) (by simp)]
    cases lead <;> rfl

/-- The events of a document leave nothing open, and its roots in what holds them. -/
theorem follow_document (defs : Option Definitions) (lead : Option String)
    (roots : List (Element × Option String)) :
    ∃ met closed, Follows defs start (documentEvents lead roots)
      ⟨[(outermost.withText lead).addingAll (documentValues defs roots)], met,
        documentTargets defs roots⟩ closed := by
  have h : IsFirstOf (documentMessage? roots) [] (childOffers "" 0 roots) [] 0 (0 + totalSize roots) :=
    ⟨by rw [List.nil_append, List.append_nil]; rfl, by simp, by simp⟩
  have hname : (outermost.withText lead).name = "" := Frame.withText_name outermost lead
  have hexpectation : (outermost.withText lead).expectation = .outermost :=
    Frame.withText_expectation outermost lead
  have hroots := follow_children defs roots (outermost.withText lead) [] [] (by rw [hname]; exact h)
  rw [hexpectation] at hroots
  exact ⟨_, _, (follows_text defs outermost [] false [] lead).append hroots⟩

end Decoder

namespace Envelope

/-- The body in the value of an envelope. -/
def bodyOf (envelope : Value) : Value := (envelope.get? "Body").getD .emptyObject

/-- What is handed out for the value of an envelope: a fault in its body is an error. -/
def ofValue (envelope : Value) : Except DecodeError Envelope :=
  match Decoder.faultOf? (bodyOf envelope) with
  | some f => .error (.fault f)
  | none => .ok { header := envelope.get? "Header", body := bodyOf envelope }

/-- What is decoded is what stands among the roots under the name of an envelope. -/
theorem decode_document (defs : Option Definitions) {text : String} {lead : Option String}
    {roots : List (Element × Option String)}
    (h : (Xml.read text).events? = some (documentEvents lead roots)) :
    decode defs text =
      match (Partial.collect (some overlay) (documentValues defs roots)).get? "Envelope" with
      | none => .error .missingEnvelope
      | some node => ofValue (node.resolve (documentTargets defs roots) []) := by
  obtain ⟨met, closed, hfollow⟩ := Decoder.follow_document defs lead roots
  have hfields := Decoder.fields_addingAll_outermost lead
    (Element.childValues_ne_list defs (documentMessage? roots) .outermost 0 roots)
  rw [decode, ofReading_eq defs h, hfollow.foldl_eq, Decoder.finish, List.reverse_singleton]
  dsimp only
  rw [← documentValues] at hfields
  rw [hfields]
  rfl

/-- What is handed out for a value is no error of the text. -/
theorem ofValue_ne_parse (envelope : Value) (e : ParseError) : ofValue envelope ≠ .error (.parse e) := by
  unfold ofValue
  split
  · rintro ⟨⟩
  · rintro ⟨⟩

/-- A list of trees is decoded without an error of its text. -/
theorem decode_ne_parse (defs : Option Definitions) {text : String} {lead : Option String}
    {roots : List (Element × Option String)}
    (h : (Xml.read text).events? = some (documentEvents lead roots)) (e : ParseError) :
    decode defs text ≠ .error (.parse e) := by
  rw [decode_document defs h]
  split
  · rintro ⟨⟩
  · exact ofValue_ne_parse _ e

/-- What is decoded of a single tree is its value with references followed. -/
theorem decode_tree (defs : Option Definitions) {root : Element} (hroot : root.localName = "Envelope")
    {text : String} (h : (Xml.read text).events? = some root.events) :
    decode defs text = ofValue ((root.value defs).resolve (root.targets defs) []) := by
  obtain ⟨met, hfollow⟩ := Decoder.follow_root defs root
  rw [decode, ofReading_eq defs h, hfollow.foldl_eq, hroot]
  rfl

end Envelope

end Soap
