import Soap.Document.Tree
import Soap.Proofs.Xml.Markup

/-!
# Reading rendered documents

A document that is rendered from markup is built from the events of the markup
(`Document.parse_render`).
-/

namespace Soap

open Xml (Markup Event)

namespace Document

/-- Where an event stands does not matter. -/
theorem follow_eq (strict : Bool) (p : Progress) (occurrences : List Xml.Occurrence) :
    follow strict p occurrences = (occurrences.map Prod.fst).foldlM (step strict) p := by
  induction occurrences generalizing p with
  | nil => rfl
  | cons first rest ih =>
    rw [List.map_cons, List.foldlM_cons, follow]
    exact congrArg _ (funext ih)

/-- A reading that came to its end is followed from the start. -/
theorem ofReading_eq (strict : Bool) {r : Xml.Reading} {events : List Event}
    (h : r.events? = some events) :
    ofReading strict r = events.foldlM (step strict) {} >>= finish := by
  obtain ⟨occurrences, ending⟩ := r
  cases ending with
  | failed _ => cases h
  | done _ =>
    obtain rfl := Option.some.inj h
    rw [ofReading, follow_eq]
    rfl

/-- A rendered element is read as the events of its markup. -/
theorem events?_render {tag : String} {attributes : List (String × String)} {content : List Markup}
    (hw : (Markup.element tag attributes content).IsWritable) :
    (Xml.read (Markup.render (.element tag attributes content))).events? =
      some (Xml.Markup.events [.element tag attributes content]) := by
  have hall : Markup.AreWritable [.element tag attributes content] := ⟨hw, trivial⟩
  have hone : Markup.renderAll [.element tag attributes content] =
    Markup.render (.element tag attributes content) :=
    String.append_empty
  rw [← hone]
  exact Xml.Markup.events?_read_renderAll (Xml.Markup.reads_document hall)

/-- A rendered element is built from the events of its markup. -/
theorem parse_render {tag : String} {attributes : List (String × String)} {content : List Markup}
    (hw : (Markup.element tag attributes content).IsWritable) (strict : Bool) :
    parse (Markup.render (.element tag attributes content)) strict =
      (Xml.Markup.events [.element tag attributes content]).foldlM (step strict) {} >>= finish :=
  ofReading_eq strict (events?_render hw)

end Document

end Soap
