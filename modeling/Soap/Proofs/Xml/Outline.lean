import Soap.Proofs.Xml.Markup
import Soap.Proofs.Xml.Nesting

/-!
# Outlines

The outline of a markup tree is what is left of its events when texts are left out: the tags, and a gap
for every text. Filling the gaps with the trimmed texts gives the events back, if no two texts stand
next to each other (`IsFilled.fill_outlineAll`). So what opens and closes in a document that is written as a
tree depends on its outline alone, whatever the texts are (`IsFilled.readsAs`).
-/

namespace Soap.Xml

/-- Is it an element that opens or closes? -/
def Event.isTag : Event → Bool
  | .start .. | .stop _ => true
  | .text _ => false

theorem filter_isTag_flushed (run : List Char) : (flushed run).filter Event.isTag = [] := by
  unfold flushed flush
  split <;> rfl

/-- Put the trimmed texts in the gaps (`none`) between tags, one for each. A blank text leaves nothing. -/
def fill : List (Option Event) → List String → Option (List Event)
  | [], [] => some []
  | some tag :: rest, texts => (fill rest texts).map (tag :: ·)
  | none :: rest, text :: texts => (fill rest texts).map (flushed text.toList ++ ·)
  | [], _ :: _ | none :: _, [] => none

theorem fill_append {a b : List (Option Event)} {s t : List String} {x y : List Event} (ha : fill a s = some x)
    (hb : fill b t = some y) : fill (a ++ b) (s ++ t) = some (x ++ y) := by
  induction a generalizing s x with
  | nil =>
    cases s with
    | nil =>
      obtain rfl := Option.some.inj ha
      exact hb
    | cons _ _ => cases ha
  | cons first rest ih =>
    cases first with
    | some tag =>
      obtain ⟨later, hlater, rfl⟩ := Option.map_eq_some_iff.mp ha
      rw [List.cons_append, fill, ih hlater]
      rfl
    | none =>
      cases s with
      | nil => cases ha
      | cons text texts =>
        obtain ⟨later, hlater, rfl⟩ := Option.map_eq_some_iff.mp ha
        rw [List.cons_append, List.cons_append, fill, ih hlater, Option.map_some, List.append_assoc]

/-- Texts are no tags. -/
theorem filter_isTag_of_fill {gaps : List (Option Event)} {texts : List String} {events : List Event}
    (h : fill gaps texts = some events) : events.filter Event.isTag = (gaps.filterMap id).filter Event.isTag := by
  induction gaps generalizing texts events with
  | nil =>
    cases texts with
    | nil =>
      obtain rfl := Option.some.inj h
      rfl
    | cons _ _ => cases h
  | cons first rest ih =>
    cases first with
    | some tag =>
      obtain ⟨later, hlater, rfl⟩ := Option.map_eq_some_iff.mp h
      show _ = (tag :: rest.filterMap id).filter Event.isTag
      rw [List.filter_cons, List.filter_cons, ih hlater]
    | none =>
      cases texts with
      | nil => cases h
      | cons text texts =>
        obtain ⟨later, hlater, rfl⟩ := Option.map_eq_some_iff.mp h
        show _ = (rest.filterMap id).filter Event.isTag
        rw [List.filter_append, filter_isTag_flushed, ih hlater, List.nil_append]

namespace Markup

/-! ## Trees -/

mutual

/-- The events of the tags of a piece, and a gap for every text in it. -/
def outline : Markup → List (Option Event)
  | .text _ => [none]
  | .element tag attributes content =>
    some (openEvent tag attributes) :: outlineAll content ++ [some (.stop (QName.parse tag))]

def outlineAll : List Markup → List (Option Event)
  | [] => []
  | piece :: rest => outline piece ++ outlineAll rest

end

mutual

theorem isTag_of_mem_outline (piece : Markup) {event : Event} (h : some event ∈ piece.outline) :
    event.isTag = true := by
  match piece with
  | .text _ =>
    rw [outline, List.mem_singleton] at h
    cases h
  | .element tag attributes content =>
    rw [outline, List.cons_append, List.mem_cons, List.mem_append, List.mem_singleton] at h
    rcases h with h | h | h
    · obtain rfl := Option.some.inj h
      rfl
    · exact isTag_of_mem_outlineAll content h
    · obtain rfl := Option.some.inj h
      rfl

theorem isTag_of_mem_outlineAll (content : List Markup) {event : Event} (h : some event ∈ outlineAll content) :
    event.isTag = true := by
  match content with
  | [] => cases h
  | piece :: rest =>
    rcases List.mem_append.mp h with h | h
    · exact isTag_of_mem_outline piece h
    · exact isTag_of_mem_outlineAll rest h

end

/-- `content` is `empty` with `texts` in it, from left to right. Every element holds either one text or
elements, so that no two texts meet. -/
inductive IsFilled : (empty : List Markup) → (texts : List String) → (content : List Markup) → Prop where
  | nil : IsFilled [] [] []
  | leaf {tag : String} {attributes : List (String × String)} {empty content : List Markup} {texts : List String}
    (htag : IsTag tag.toList) (hattributes : AreReadable attributes) (text : String)
    (hrest : IsFilled empty texts content) :
    IsFilled (.element tag attributes [.text ""] :: empty) (text :: texts)
      (.element tag attributes [.text text] :: content)
  | branch {tag : String} {attributes : List (String × String)} {empty empty' content content' : List Markup}
    {texts texts' : List String} (htag : IsTag tag.toList) (hattributes : AreReadable attributes)
    (hinside : IsFilled empty texts content) (hrest : IsFilled empty' texts' content') :
    IsFilled (.element tag attributes empty :: empty') (texts ++ texts')
      (.element tag attributes content :: content')

variable {empty empty' content content' : List Markup} {texts texts' : List String}

theorem IsFilled.append (h : IsFilled empty texts content) (h' : IsFilled empty' texts' content') :
    IsFilled (empty ++ empty') (texts ++ texts') (content ++ content') := by
  induction h with
  | nil => exact h'
  | leaf htag hattributes text _ ih => exact .leaf htag hattributes text ih
  | branch htag hattributes hinside _ _ ih =>
    rw [List.append_assoc]
    exact .branch htag hattributes hinside ih

/-- An element around a filled tree. -/
theorem IsFilled.element (h : IsFilled empty texts content) {tag : String} {attributes : List (String × String)}
    (htag : IsTag tag.toList) (hattributes : AreReadable attributes) :
    IsFilled [.element tag attributes empty] texts [.element tag attributes content] := by
  have hbranch := IsFilled.branch htag hattributes h .nil
  rwa [List.append_nil] at hbranch

theorem IsFilled.areWritable (h : IsFilled empty texts content) : AreWritable content := by
  induction h with
  | nil => exact trivial
  | leaf htag hattributes _ _ ih => exact ⟨⟨htag, hattributes, trivial, trivial⟩, ih⟩
  | branch htag hattributes _ _ hinside hrest => exact ⟨⟨htag, hattributes, hinside⟩, hrest⟩

/-- The gaps in an element and those behind it are filled one after the other. -/
theorem fill_element {inside later : List Event} (tag : String) (attributes : List (String × String))
    (hinside : fill (outlineAll content) texts = some inside) (hlater : fill (outlineAll content') texts' = some later) :
    fill (outlineAll (.element tag attributes content :: content')) (texts ++ texts') =
      some (openEvent tag attributes :: inside ++ .stop (QName.parse tag) :: later) := by
  have hstop : fill [some (.stop (QName.parse tag))] [] = some [.stop (QName.parse tag)] := rfl
  have h := fill_append (fill_append hinside hstop) hlater
  rw [List.append_nil, List.append_assoc, List.append_assoc] at h
  rw [outlineAll, outline, List.cons_append, List.cons_append, List.append_assoc, fill, h]
  rfl

/-- With the texts in its gaps, the outline is what happens. -/
theorem IsFilled.fill_outlineAll (h : IsFilled empty texts content) :
    fill (outlineAll empty) texts = some (events content) := by
  induction h with
  | nil => rfl
  | @leaf tag attributes _ _ _ _ _ text _ ih =>
    have hgap : fill (outlineAll [.text ""]) [text] = some (flushed text.toList) :=
      congrArg some (List.append_nil _)
    rw [events_element, events_text]
    exact fill_element tag attributes hgap ih
  | @branch tag attributes _ _ _ _ _ _ _ _ _ _ hinside hrest =>
    rw [events_element]
    exact fill_element tag attributes hinside hrest

/-- An element whose content closes what it opens leaves open what was open before. -/
theorem follow_element (opened : List QName) (tag : String) (attributes : List (String × String))
    {inside later rest : List Event}
    (hinside : Nesting.follow ⟨QName.parse tag :: opened, false⟩ (inside ++ .stop (QName.parse tag) :: (later ++ rest)) =
      Nesting.follow ⟨opened, false⟩ (later ++ rest))
    (hlater : Nesting.follow ⟨opened, false⟩ (later ++ rest) = Nesting.follow ⟨opened, false⟩ rest) :
    Nesting.follow ⟨opened, false⟩ (openEvent tag attributes :: inside ++ .stop (QName.parse tag) :: later ++ rest) =
      Nesting.follow ⟨opened, false⟩ rest := by
  calc Nesting.follow ⟨opened, false⟩ (openEvent tag attributes :: inside ++ .stop (QName.parse tag) :: later ++ rest)
    _ = Nesting.follow ⟨opened, false⟩
          (openEvent tag attributes :: (inside ++ .stop (QName.parse tag) :: (later ++ rest))) := by simp
    _ = Nesting.follow ⟨QName.parse tag :: opened, false⟩ (inside ++ .stop (QName.parse tag) :: (later ++ rest)) :=
        Nesting.follow_start opened [] _ _ _ _
    _ = Nesting.follow ⟨opened, false⟩ (later ++ rest) := hinside
    _ = Nesting.follow ⟨opened, false⟩ rest := hlater

/-- Every element that opens is closed. -/
theorem IsFilled.follow_events (h : IsFilled empty texts content) (opened : List QName) (rest : List Event) :
    Nesting.follow ⟨opened, false⟩ (events content ++ rest) = Nesting.follow ⟨opened, false⟩ rest := by
  induction h generalizing opened rest with
  | nil => rfl
  | leaf _ _ text _ ih =>
    rw [events_element, events_text]
    apply follow_element
    · exact Nesting.follow_stop opened _ _ _
    · exact ih opened rest
  | branch _ _ _ _ hinside hrest =>
    rw [events_element]
    apply follow_element
    · rw [hinside]
      exact Nesting.follow_stop opened [] _ _
    · exact hrest opened rest

/-! ## Documents -/

/-- The text is read to its end. What happens is the outline of `empty` with `texts` in its gaps: its tags
are those of the outline, which close in order. -/
def ReadsAs (text : String) (empty : List Markup) (texts : List String) : Prop :=
  ∃ events, (read text).events? = some events ∧ fill (outlineAll empty) texts = some events ∧
    events.filter Event.isTag = (outlineAll empty).filterMap id ∧
    Nesting.follow ⟨[], false⟩ events = some ⟨[], false⟩

/-- The tags of a text that can be read. -/
def tags? (text : String) : Option (List Event) := (read text).events?.map (·.filter Event.isTag)

/-- Two texts with the same outline have the same tags. -/
theorem ReadsAs.tags?_eq {text text' : String} (h : ReadsAs text empty texts) (h' : ReadsAs text' empty texts') :
    tags? text = tags? text' := by
  obtain ⟨events, hread, -, htags, -⟩ := h
  obtain ⟨events', hread', -, htags', -⟩ := h'
  rw [tags?, tags?, hread, hread', Option.map_some, Option.map_some, htags, htags']

theorem IsFilled.head?_ne (h : IsFilled empty texts content) : (renderAll content).toList.head? ≠ some '\ufeff' := by
  cases h <;> simp [renderAll, render]

/-- What is written of a filled tree reads as the tree. -/
theorem IsFilled.readsAs (h : IsFilled empty texts content) : ReadsAs (renderAll content) empty texts := by
  have htags : ∀ event ∈ (outlineAll empty).filterMap id, event.isTag = true := by
    intro event hevent
    obtain ⟨_, hmem, rfl⟩ := List.mem_filterMap.mp hevent
    exact isTag_of_mem_outlineAll empty hmem
  have hfill := h.fill_outlineAll
  have hnested := h.follow_events [] []
  rw [List.append_nil] at hnested
  refine ⟨events content, events?_read (reads_document h.areWritable) h.head?_ne, hfill, ?_, hnested⟩
  rw [filter_isTag_of_fill hfill, List.filter_eq_self.mpr htags]

end Markup

end Soap.Xml
