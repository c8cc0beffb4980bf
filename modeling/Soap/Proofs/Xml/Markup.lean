import Soap.Proofs.Xml.Tag

/-!
# Reading rendered markup

Rendered markup reads back as the events of its tree (`Reads.render`): an element opens and closes
around what stands in it, and text is one event, trimmed, however it had to be escaped. Nothing is
asked of the texts; tags and attributes must be well-formed (`Markup.IsWritable`), because they are
written as they are.
-/

namespace Soap.Xml.Markup

mutual

/-- Tags are names, and attributes can be read. -/
def IsWritable : Markup → Prop
  | .text _ => True
  | .element tag attributes content =>
    IsTag tag.toList ∧ AreReadable attributes ∧ AreWritable content

/-- All pieces are writable. -/
def AreWritable : List Markup → Prop
  | [] => True
  | piece :: rest => IsWritable piece ∧ AreWritable rest

end

mutual

instance decidableIsWritable : (piece : Markup) → Decidable piece.IsWritable
  | .text _ => .isTrue trivial
  | .element tag attributes content =>
    have := decidableAreWritable content
    inferInstanceAs (Decidable (IsTag tag.toList ∧ AreReadable attributes ∧ AreWritable content))

instance decidableAreWritable : (content : List Markup) → Decidable (AreWritable content)
  | [] => .isTrue trivial
  | piece :: rest =>
    have := decidableIsWritable piece
    have := decidableAreWritable rest
    inferInstanceAs (Decidable (piece.IsWritable ∧ AreWritable rest))

end

mutual

/-- What happens in a piece that follows the text `run`: the events, and the text after the last
tag. -/
def happen (run : List Char) : Markup → List Event × List Char
  | .text content => ([], run ++ content.toList)
  | .element tag attributes content =>
    let inside := happenAll [] content
    (flushed run ++ openEvent tag attributes :: inside.1 ++ flushed inside.2 ++ [.stop (QName.parse tag)],
      [])

/-- What happens in several pieces. -/
def happenAll (run : List Char) : List Markup → List Event × List Char
  | [] => ([], run)
  | piece :: rest =>
    let first := happen run piece
    let later := happenAll first.2 rest
    (first.1 ++ later.1, later.2)

end

/-- The events of several pieces by themselves. -/
def events (content : List Markup) : List Event :=
  (happenAll [] content).1 ++ flushed (happenAll [] content).2

@[simp] theorem happenAll_nil (run : List Char) : happenAll run [] = ([], run) := rfl

/-- Pieces happen one after the other. -/
theorem happenAll_append (run : List Char) (a b : List Markup) :
    happenAll run (a ++ b) =
      ((happenAll run a).1 ++ (happenAll (happenAll run a).2 b).1, (happenAll (happenAll run a).2 b).2) := by
  induction a generalizing run with
  | nil => rfl
  | cons piece rest ih => simp [happenAll, ih]

theorem areWritable_append {a b : List Markup} :
    AreWritable (a ++ b) ↔ AreWritable a ∧ AreWritable b := by
  induction a with
  | nil => simp [AreWritable]
  | cons piece rest ih => simp [AreWritable, ih, and_assoc]

mutual

/-- A rendered piece reads as what happens in it. -/
theorem reads_render {piece : Markup} (hw : piece.IsWritable) {opened : List (List Char)}
    {run cs : List Char} {events : List Event} (h : Reads opened (happen run piece).2 cs events) :
    Reads opened run ((render piece).toList ++ cs) ((happen run piece).1 ++ events) := by
  match piece, hw with
  | .text content, _ =>
    rw [render, escape, String.toList_ofList]
    exact Reads.text content.toList h
  | .element tag attributes content, ⟨htag, hatt, hcontent⟩ =>
    have hclose := Reads.endTag htag (happenAll [] content).2 h
    rw [String.ofList_toList] at hclose
    have hinside := reads_renderAll hcontent hclose
    have hopen := Reads.startTag htag hatt run hinside
    simpa [render, happen, String.toList_append, toList_renderAttributes] using hopen

/-- Rendered pieces read as what happens in them. -/
theorem reads_renderAll {content : List Markup} (hw : AreWritable content)
    {opened : List (List Char)} {run cs : List Char} {events : List Event}
    (h : Reads opened (happenAll run content).2 cs events) :
    Reads opened run ((renderAll content).toList ++ cs) ((happenAll run content).1 ++ events) := by
  match content, hw with
  | [], _ => exact h
  | piece :: rest, ⟨hpiece, hrest⟩ =>
    have hfirst := reads_render hpiece (reads_renderAll hrest h)
    simpa [renderAll, happenAll, String.toList_append] using hfirst

end

/-! ## Events -/

@[simp] theorem events_nil : events [] = [] := rfl

/-- A text is at most one event. -/
theorem events_text (content : String) : events [.text content] = flushed content.toList := rfl

/-- An element opens and closes around its content. -/
theorem events_element (tag : String) (attributes : List (String × String))
    (content rest : List Markup) :
    events (.element tag attributes content :: rest) =
      openEvent tag attributes :: events content ++ .stop (QName.parse tag) :: events rest := by
  simp [events, happenAll, happen]

/-- A document reads as the events of its root. -/
theorem reads_document {content : List Markup} (hw : AreWritable content) :
    Reads [] [] (renderAll content).toList (events content) := by
  have h := reads_renderAll hw (Reads.done [] (happenAll [] content).2)
  rwa [List.append_nil] at h

/-- Markup that begins with an element is read as a text on its own. -/
theorem events?_read_renderAll {tag : String} {attributes : List (String × String)} {content rest : List Markup}
    {events : List Event} (h : Reads [] [] (renderAll (.element tag attributes content :: rest)).toList events) :
    (read (renderAll (.element tag attributes content :: rest))).events? = some events := by
  apply events?_read h
  simp [renderAll, render, String.toList_append]

/-- An element reads as what its start tag is, and then as its content, even if attributes hold references. -/
theorem reads_opened {tag : String} {attributes : List (String × String)} {content : List Markup}
    (htag : IsTag tag.toList) (hnames : ∀ a ∈ attributes, IsTag a.1.toList)
    (hvalues : ∀ a ∈ attributes, '"' ∉ a.2.toList) (hcontent : AreWritable content) {name : QName} {event : Event}
    (hevent : startEvent (tag.toList ++ attributes.flatMap attributeChars) = .ok (name, event)) :
    Reads [] [] (renderAll [.element tag attributes content]).toList
      (event :: events content ++ [.stop (QName.parse tag)]) := by
  have hclose := Reads.endTag htag (happenAll [] content).2 (Reads.done [] [])
  rw [String.ofList_toList] at hclose
  have hinside := reads_renderAll hcontent hclose
  intro pos
  obtain ⟨stop, hopen⟩ := readOn_startTag [] htag hnames hvalues []
    ((renderAll content).toList ++ ('<' :: '/' :: tag.toList ++ ['>'])) pos
  rw [hevent] at hopen
  have htext : (renderAll [.element tag attributes content]).toList =
      '<' :: (tag.toList ++ attributes.flatMap attributeChars) ++
        '>' :: ((renderAll content).toList ++ ('<' :: '/' :: tag.toList ++ ['>'])) := by
    simp [renderAll, render, String.toList_append, toList_renderAttributes]
  have hnone : flushed [] = [] := rfl
  rw [htext, hopen, events?_of_event event stop hinside, hnone]
  simp [events]

end Soap.Xml.Markup
