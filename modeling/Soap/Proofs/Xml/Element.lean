import Soap.Proofs.Xml.Nesting

/-!
# Elements

What a reader sees of a document is an element with its children and the texts between them, and so on: a tree
(`Xml.Element`). Events that open and close everything they close and open are those of a list of trees, with
texts between them (`Xml.Element.exists_roots`).
-/

namespace Soap

open Xml (Event Nesting)

/-! ## Trees of elements -/

/-- An element: its text up to the first child or its end, and its children, each with the text that
comes after it. -/
inductive Xml.Element where
  | mk (name : QName) (attributes declarations : OrderedMap String String) (text : Option String)
      (children : List (Xml.Element × Option String))

namespace Xml.Element

def localName : Element → String
  | ⟨name, _, _, _, _⟩ => name.localName

def attributes : Element → OrderedMap String String
  | ⟨_, attributes, _, _, _⟩ => attributes

/-- The events of a text that may be missing. -/
def textEvents (text : Option String) : List Event := (text.map Event.text).toList

mutual

/-- What a reader sees of an element. -/
def events : Element → List Event
  | ⟨name, attributes, declarations, text, children⟩ =>
    .start name attributes declarations :: (textEvents text ++ childEvents children ++ [.stop name])

/-- What a reader sees of children, with the texts after them. -/
def childEvents : List (Element × Option String) → List Event
  | [] => []
  | (child, text) :: rest => child.events ++ textEvents text ++ childEvents rest

end

/-! ## Documents as trees -/

/-- What a reader sees of a document: the text before its roots, and the roots. -/
def documentEvents (lead : Option String) (roots : List (Element × Option String)) : List Event :=
  textEvents lead ++ childEvents roots

/-- Nested events are what stands in the innermost open element up to its end tag, if there is one, and
what comes after it. -/
theorem exists_children (events : List Event) {p q : Nesting} (h : p.follow events = some q)
    (hle : q.opened.length ≤ p.opened.length) :
    ∃ lead children rest, events = documentEvents lead children ++ rest ∧
      (p.afterText = true → lead = none) ∧
      (rest = [] ∧ q.opened = p.opened ∨
        ∃ name outer later, p.opened = name :: outer ∧ rest = .stop name :: later ∧
          Nesting.follow ⟨outer, false⟩ later = some q) := by
  match events with
  | [] =>
    obtain rfl := Option.some.inj h
    exact ⟨none, [], [], rfl, fun _ => rfl, .inl ⟨rfl, rfl⟩⟩
  | .stop name :: later =>
    obtain ⟨p', hp', hlater⟩ := Option.bind_eq_some_iff.mp h
    obtain ⟨opened, afterText⟩ := p
    cases opened with
    | nil => cases hp'
    | cons expected outer =>
      obtain ⟨rfl, hp⟩ := Option.ite_none_right_eq_some.mp hp'
      obtain rfl := Option.some.inj hp
      exact ⟨none, [], .stop name :: later, rfl, fun _ => rfl, .inr ⟨name, outer, later, rfl, rfl, hlater⟩⟩
  | .text text :: later =>
    obtain ⟨p', hp', hlater⟩ := Option.bind_eq_some_iff.mp h
    obtain ⟨hafter, hp⟩ := Option.ite_none_left_eq_some.mp hp'
    obtain rfl := Option.some.inj hp
    obtain ⟨lead, children, rest, hevents, hlead, hrest⟩ := exists_children later hlater hle
    obtain rfl := hlead rfl
    exact ⟨some text, children, rest, congrArg (_ :: ·) hevents, fun h => absurd h hafter, hrest⟩
  | .start name attributes declarations :: later =>
    -- What stands in the element, and then what comes after it.
    have hlater : Nesting.follow ⟨name :: p.opened, false⟩ later = some q := h
    obtain ⟨text, inside, rest, hinside, -, hrest⟩ :=
      exists_children later hlater (Nat.le_succ_of_le hle)
    rcases hrest with ⟨-, hopened⟩ | ⟨name', outer, after, hcons, hstop, hafter⟩
    · have hlength := congrArg List.length hopened
      rw [List.length_cons] at hlength
      omega
    · obtain ⟨rfl, rfl⟩ := List.cons.inj hcons
      have hlt : after.length < later.length := by
        rw [hinside, hstop, List.length_append, List.length_cons]
        omega
      obtain ⟨lead, children, rest', houtside, -, hrest'⟩ := exists_children after hafter hle
      refine ⟨none, (⟨name, attributes, declarations, text, inside⟩, lead) :: children, rest', ?_,
        fun _ => rfl, hrest'⟩
      rw [hinside, hstop, houtside]
      simp [documentEvents, childEvents, Element.events, textEvents]
termination_by events.length
decreasing_by all_goals simp only [List.length_cons]; omega

/-- Events that open and close everything they close and open are those of trees. -/
theorem exists_roots {events : List Event} {q : Nesting} (h : Nesting.follow ⟨[], false⟩ events = some q)
    (hclosed : q.opened = []) : ∃ lead roots, events = documentEvents lead roots := by
  have hle : q.opened.length ≤ 0 := Nat.le_of_eq (congrArg List.length hclosed)
  obtain ⟨lead, roots, rest, rfl, -, hrest⟩ := exists_children events h hle
  rcases hrest with ⟨rfl, -⟩ | ⟨name, outer, later, hcons, -⟩
  · exact ⟨lead, roots, List.append_nil _⟩
  · cases hcons

end Xml.Element

end Soap
