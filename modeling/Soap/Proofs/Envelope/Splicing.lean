import Soap.Proofs.Envelope.Bare
import Soap.Proofs.Envelope.Document
import Soap.Proofs.Envelope.Root
import Soap.Proofs.Xml.Quoting

/-!
# Headers are spliced in

A header is put into an envelope as text, between the root and the body. The root is written with the namespaces as
they are, and may therefore not be readable; but without double quotes in them it stays one tag, and whether it can
be read does not depend on what follows (`decode_render_quoted`). So where an envelope without a header is decoded, the
same with a header that reads back by itself is, too: to this header, and to the same body
(`Envelope.decode_splice`).
-/

namespace Soap

open Xml (Markup Event IsTag attributeChars)
open Xml.Markup (events AreBare)
open Decoder (step)

/-! ## The start tag of the root -/

namespace NamespaceTable

variable {t : NamespaceTable}

/-- The attributes of the root declare namespaces; each stands in the tag like a quoted text. -/
structure HasQuotedRoot (t : NamespaceTable) : Prop where
  names : ∀ a ∈ t.rootAttributes, IsTag a.1.toList
  values : ∀ a ∈ t.rootAttributes, '"' ∉ a.2.toList

theorem exists_declaration {a : String × String} (h : a ∈ t.rootAttributes) : ∃ name, a.1 = "xmlns:" ++ name := by
  rcases List.mem_cons.mp h with rfl | h
  · exact ⟨"soap", by decide⟩
  · obtain ⟨entry, -, rfl⟩ := List.mem_map.mp h
    exact ⟨entry.1, rfl⟩

/-- Prefixes that are in use are bound, so they can stand in a tag if those of the table can. -/
theorem IsInUse.hasQuotedRoot (h : t.IsInUse) (hwritable : t.IsWritable)
    (hquotes : ∀ entry ∈ t.declarations, '"' ∉ entry.2.toList) : t.HasQuotedRoot := by
  constructor
  · intro a ha
    rcases List.mem_cons.mp ha with rfl | ha
    · decide
    · obtain ⟨entry, hentry, rfl⟩ := List.mem_map.mp ha
      have hlead : IsTagText "xmlns:" := by decide
      have hname := hwritable.bindings entry (h.used entry (List.mem_filter.mp hentry).1)
      exact ⟨by simp [String.toList_append], hlead.append hname⟩
  · intro a ha
    rcases List.mem_cons.mp ha with rfl | ha
    · decide +kernel
    · obtain ⟨entry, hentry, rfl⟩ := List.mem_map.mp ha
      exact hquotes entry hentry

/-- What stands in the start tag of an envelope. -/
def rootTag (t : NamespaceTable) : List Char := "soap:Envelope".toList ++ t.rootAttributes.flatMap attributeChars

/-- A root that can be read has no attributes of its own, so it opens an envelope. -/
theorem HasQuotedRoot.step_root (h : t.HasQuotedRoot) {name : QName} {event : Event}
    (hevent : Xml.startEvent t.rootTag = .ok (name, event)) (defs : Option Definitions) :
    step defs Decoder.start event = Decoder.openElement defs Decoder.start "Envelope" [] := by
  obtain ⟨declarations, rfl⟩ :=
    Xml.startEvent_declarations (by decide) h.names h.values (fun _ => exists_declaration) hevent
  rfl

end NamespaceTable

/-! ## The text of an envelope -/

section

variable {table : NamespaceTable} {header : Option Markup} {content : List Markup}

/-- An envelope whose root is read is read to its end. -/
theorem events?_read_render (h : table.HasQuotedRoot) {header : Option Markup} (hheader : ∀ m ∈ header, m.IsWritable)
    (hcontent : Markup.AreWritable content) {name : QName} {event : Event}
    (hevent : Xml.startEvent table.rootTag = .ok (name, event)) :
    (Xml.read (Envelope.render (Markup.renderAll content) table (header.map Markup.render))).events? =
      some (event :: events (envelopeContent header content) ++ [.stop (QName.parse "soap:Envelope")]) := by
  have htag : IsTag "soap:Envelope".toList := by decide
  unfold NamespaceTable.rootTag at hevent
  have hreads := Markup.reads_opened htag h.names h.values (areWritable_envelopeContent hheader hcontent) hevent
  exact events?_read_envelope hreads

/-- An envelope whose root is not read is not read at all, whatever is in it. -/
theorem events?_read_render_eq_none (h : table.HasQuotedRoot) (header : Option Markup) (content : List Markup)
    {cause : Xml.Cause} (hevent : Xml.startEvent table.rootTag = .error cause) :
    (Xml.read (Envelope.render (Markup.renderAll content) table (header.map Markup.render))).events? = none := by
  obtain ⟨body, hbody, htext⟩ := exists_toList_render table header content
  let inside := (Markup.renderAll (envelopeContent header content)).toList ++ "</soap:Envelope>".toList
  have hmarkup : (Markup.renderAll [envelopeMarkup table header content]).toList =
      '<' :: ("soap:Envelope".toList ++ table.rootAttributes.flatMap attributeChars) ++ '>' :: inside := by
    simp [envelopeMarkup, envelopeContent, inside, Markup.renderAll, Markup.render, String.toList_append,
      Xml.toList_renderAttributes]
  have hmark : (Envelope.render (Markup.renderAll content) table (header.map Markup.render)).toList.head? ≠
      some '\ufeff' := by
    rw [htext]
    simp
  have htag : IsTag "soap:Envelope".toList := by decide
  obtain ⟨stop, hinstruction⟩ :=
    Xml.readOn_instruction [] hbody [] (Markup.renderAll [envelopeMarkup table header content]).toList 0
  obtain ⟨stop', hroot⟩ := Xml.readOn_startTag [] htag h.names h.values [] inside stop
  unfold NamespaceTable.rootTag at hevent
  rw [hevent] at hroot
  rw [Xml.read_eq_readOn hmark, htext, hinstruction, hmarkup, hroot]
  rfl

/-- Whether an envelope can be decoded depends on its root, and what it is decoded to on its header and its body. -/
theorem decode_render_quoted {defs : Option Definitions} (hroot : table.HasQuotedRoot)
    {h : Option Value} (hheader : ReadsHeader defs header h) (hcontent : Markup.AreWritable content) {v : Value}
    (hbody : ReadsBody defs content v) :
    let decoded := Envelope.decode defs (Envelope.render (Markup.renderAll content) table (header.map Markup.render))
    match Xml.startEvent table.rootTag with
    | .error _ => ∃ e, decoded = .error e
    | .ok _ => decoded = (Decoder.faultOf? v).elim (.ok { header := h, body := v }) fun f => .error (.fault f) := by
  cases hevent : Xml.startEvent table.rootTag with
  | error cause =>
    obtain ⟨e, herror⟩ := ofReading_of_events?_eq_none defs (events?_read_render_eq_none hroot header content hevent)
    exact ⟨_, herror⟩
  | ok opened =>
    obtain ⟨name, event⟩ := opened
    have hevents := events?_read_render hroot hheader.writable hcontent hevent
    rw [Envelope.decode, ofReading_eq defs hevents]
    exact finish_envelope hheader hbody (hroot.step_root hevent defs) _

/-- A header that reads back by itself can be put into an envelope that is decoded without one: it is decoded to this
header then, and to the body that it had. -/
theorem Envelope.decode_splice {defs : Option Definitions} (hroot : table.HasQuotedRoot) (hbare : AreBare content)
    (hcontent : Markup.AreWritable content) {envelope : Envelope}
    (hplain : Envelope.decode defs (Envelope.render (Markup.renderAll content) table none) = .ok envelope)
    {h : Option Value} (hheader : ReadsHeader defs header h) :
    Envelope.decode defs (Envelope.render (Markup.renderAll content) table (header.map Markup.render)) =
      .ok { envelope with header := h } := by
  obtain ⟨v, hbody⟩ := exists_readsBody defs hbare
  have hwithout := decode_render_quoted hroot (readsHeader_none defs) hcontent hbody
  have hwith := decode_render_quoted hroot hheader hcontent hbody
  -- Both begin with the same root, and without a header it was read.
  cases hevent : Xml.startEvent table.rootTag with
  | error cause =>
    rw [hevent] at hwithout
    obtain ⟨e, herror⟩ := hwithout
    rw [Option.map_none, hplain] at herror
    cases herror
  | ok opened =>
    rw [hevent] at hwithout hwith
    dsimp only at hwithout hwith
    rw [Option.map_none, hplain] at hwithout
    rw [hwith]
    cases hfault : Decoder.faultOf? v with
    | some f =>
      rw [hfault] at hwithout
      cases hwithout
    | none =>
      rw [hfault] at hwithout
      obtain rfl := Except.ok.inj hwithout
      rfl

/-- What stands behind a double quote in the last namespace of the root is read as the beginning of what is in the
envelope, if it goes on with the end of a tag. -/
theorem events?_read_closed {before : List (String × String)} {name uri : String} {injected : List Markup}
    (hroot : table.rootAttributes = before ++ [(name, uri ++ "\">" ++ Markup.renderAll injected)])
    (hreadable : Xml.AreReadable (before ++ [(name, uri)])) (hinjected : Markup.AreWritable injected)
    (hheader : ∀ m ∈ header, m.IsWritable) (hcontent : Markup.AreWritable content) :
    (Xml.read (Envelope.render (Markup.renderAll content) table (header.map Markup.render))).events? =
      some (events [.element "soap:Envelope" (before ++ [(name, uri)])
        (injected ++ .text "\">" :: envelopeContent header content)]) := by
  have htag : IsTag "soap:Envelope".toList := by decide
  have hmarkup : (Markup.renderAll [envelopeMarkup table header content]).toList =
      '<' :: ("soap:Envelope".toList ++ (before ++ [(name, uri)]).flatMap attributeChars) ++
        '>' :: ((Markup.renderAll injected).toList ++
          '"' :: '>' :: ((Markup.renderAll (envelopeContent header content)).toList ++
            ('<' :: '/' :: "soap:Envelope".toList ++ ['>']))) := by
    simp [envelopeMarkup, envelopeContent, hroot, Markup.renderAll, Markup.render, String.toList_append,
      Xml.toList_renderAttributes, attributeChars]
  let run := (Markup.happenAll [] injected).2 ++ ['"'] ++ ['>']
  have hend := Xml.Reads.endTag htag (Markup.happenAll run (envelopeContent header content)).2 (Xml.Reads.done [] [])
  have hinside := Markup.reads_renderAll (areWritable_envelopeContent hheader hcontent) hend
  -- The quote and the bracket are text now.
  have hchars := Xml.Reads.char (by decide) (by decide) (Xml.Reads.char (by decide) (by decide) hinside)
  have hopen := Xml.Reads.startTag htag hreadable [] (Markup.reads_renderAll hinjected hchars)
  have hhappens : Markup.happenAll [] (injected ++ .text "\">" :: envelopeContent header content) =
      ((Markup.happenAll [] injected).1 ++ (Markup.happenAll run (envelopeContent header content)).1,
        (Markup.happenAll run (envelopeContent header content)).2) := by
    rw [Markup.happenAll_append]
    simp [Markup.happenAll, Markup.happen, run]
  have hnone : Xml.flushed [] = [] := rfl
  have hevents : events [.element "soap:Envelope" (before ++ [(name, uri)])
      (injected ++ .text "\">" :: envelopeContent header content)] =
      Xml.flushed [] ++ Xml.openEvent "soap:Envelope" (before ++ [(name, uri)]) ::
        ((Markup.happenAll [] injected).1 ++ ((Markup.happenAll run (envelopeContent header content)).1 ++
          (Xml.flushed (Markup.happenAll run (envelopeContent header content)).2 ++
            .stop (QName.parse "soap:Envelope") :: Xml.flushed []))) := by
    rw [Markup.events_element, events, hhappens, hnone]
    simp
  apply events?_read_envelope
  rw [hmarkup, hevents]
  exact hopen

end

end Soap
