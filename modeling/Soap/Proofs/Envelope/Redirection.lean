import Soap.Proofs.Envelope.Numbering
import Soap.Proofs.Value.Exchange

/-!
# What an `href` redirects

An element with an `href` stands for the element that has the rest of it for its `id`, behind whatever
number signs it begins with. Whether there are any makes no difference, so a link to elsewhere
redirects as a reference into the document does; and as hardly any element has an address for its
`id`, what stands in the element is lost.

To say how much that matters, two documents are compared that are the same but for the attributes of
one element (`Xml.Element.Replaced`). Everything in them is the same, except where the one has the
reference and the other what stands in the element (`Xml.Element.Replaced.exchanged`). So they come to
the same envelope just if, wherever a way leads there, the reference unfolds to that
(`Envelope.decode_of_href`).
-/

namespace Soap

open Xml (Element)
open Xml.Element (childClosings childOffers childValues documentEvents documentMessage? documentTargets
  documentValues totalSize)

theorem Value.coerce_ne_null (kind : ScalarKind) (text : String) : Value.coerce kind text ≠ .null := by
  cases kind with
  | integer =>
    rw [Value.coerce]
    cases Text.leadingInt64? text.toList <;> exact Value.noConfusion
  | dateTime =>
    rw [Value.coerce]
    cases Timestamp.parse? text <;> exact Value.noConfusion
  | boolean | text => exact Value.noConfusion

/-! ## Children with other nodes -/

namespace Partial

variable {a b : Partial}

/-- Children of the same names are the same, except for exchanged nodes. -/
def ExchangedChildren (a b : Partial) : List (String × Partial) → List (String × Partial) → Prop :=
  List.Forall₂ fun child child' => child.1 = child'.1 ∧ Exchanged a b child.2 child'.2

variable {children children' : List (String × Partial)}

theorem ExchangedChildren.refl (a b : Partial) (children : List (String × Partial)) :
    ExchangedChildren a b children children :=
  List.forall₂_same.mpr fun child _ => ⟨rfl, .refl a b child.2⟩

theorem ExchangedChildren.append (h : ExchangedChildren a b children children')
    {more more' : List (String × Partial)} (hmore : ExchangedChildren a b more more') :
    ExchangedChildren a b (children ++ more) (children' ++ more') :=
  List.rel_append h hmore

namespace ExchangedChildren

variable (h : ExchangedChildren a b children children')

include h

theorem names_eq : children.map Prod.fst = children'.map Prod.fst := by
  induction h with
  | nil => rfl
  | cons hfirst _ ih => rw [List.map_cons, List.map_cons, hfirst.1, ih]

theorem named (name : String) : List.Forall₂ (Exchanged a b) (named name children) (named name children') := by
  induction h with
  | nil => exact .nil
  | @cons child child' rest rest' hfirst hrest ih =>
    unfold Partial.named at ih ⊢
    rw [List.filter_cons, List.filter_cons, ← hfirst.1]
    split
    · exact .cons hfirst.2 ih
    · exact ih

/-- Looking up a name finds a child in both or in neither. -/
theorem get? (name : String) :
    Option.Rel (Exchanged a b) (OrderedMap.get? children name) (OrderedMap.get? children' name) := by
  induction h with
  | nil => exact .none
  | @cons child child' rest rest' hfirst _ ih =>
    rw [OrderedMap.get?, OrderedMap.get?, ← hfirst.1]
    split
    · exact .some hfirst.2
    · exact ih

theorem targets : ExchangedTargets a b (OrderedMap.ofList children) (OrderedMap.ofList children') := by
  intro id
  rw [OrderedMap.get?_ofList, OrderedMap.get?_ofList]
  exact ExchangedChildren.get? (List.forall₂_reverse_iff.mpr h) id

end ExchangedChildren

theorem Exchanged.list_of_forall₂ {items items' : List Partial} (h : List.Forall₂ (Exchanged a b) items items') :
    Exchanged a b (.list items) (.list items') := by
  refine .list h.length_eq fun i item item' hitem hitem' => ?_
  obtain ⟨hi, rfl⟩ := List.getElem?_eq_some_iff.mp hitem
  obtain ⟨hi', rfl⟩ := List.getElem?_eq_some_iff.mp hitem'
  exact h.get hi hi'

theorem Exchanged.gather (repeatable : Bool) {items items' : List Partial}
    (h : List.Forall₂ (Exchanged a b) items items') :
    Exchanged a b (gather repeatable items) (gather repeatable items') := by
  cases h with
  | nil => exact .list_of_forall₂ .nil
  | cons hfirst hrest =>
    cases hrest with
    | nil =>
      cases repeatable with
      | true => exact .list_of_forall₂ (.cons hfirst .nil)
      | false => exact hfirst
    | cons hsecond hrest => exact .list_of_forall₂ (.cons hfirst (.cons hsecond hrest))

theorem ExchangedChildren.collect (h : ExchangedChildren a b children children') (schema : Option Description) :
    ExchangedChildren a b (collect schema children) (collect schema children') := by
  unfold Partial.collect
  rw [← h.names_eq, ExchangedChildren, List.forall₂_map_left_iff, List.forall₂_map_right_iff]
  exact List.forall₂_same.mpr fun name _ => ⟨rfl, .gather _ (h.named name)⟩

theorem ExchangedChildren.object (h : ExchangedChildren a b children children') :
    Exchanged a b (.object children) (.object children') := by
  refine .object h.names_eq fun i key child child' hchild hchild' => ?_
  obtain ⟨hi, he⟩ := List.getElem?_eq_some_iff.mp hchild
  obtain ⟨hi', he'⟩ := List.getElem?_eq_some_iff.mp hchild'
  have hrelated := (h.get hi hi').2
  rwa [List.get_eq_getElem, List.get_eq_getElem, he, he'] at hrelated

theorem ExchangedChildren.content (h : ExchangedChildren a b children children') (x : Expectation)
    (text : Option String) : Exchanged a b (x.content text children) (x.content text children') := by
  cases h with
  | nil => exact .refl a b _
  | cons hfirst hrest => exact (ExchangedChildren.collect (.cons hfirst hrest) x.schema).object

/-- A reference becomes something just if it leads to a target that it does not stand inside of. -/
theorem resolve_ref_eq_iff {targets : OrderedMap String Partial} {active : List String} {id : String} {v : Value}
    (hv : v ≠ .null) : (ref id).resolve targets active = v ↔
      ∃ target, targets.get? id = some target ∧ id ∉ active ∧ target.resolve targets (id :: active) = v := by
  constructor
  · intro h
    by_cases hactive : id ∈ active
    · rw [resolve_ref_of_mem hactive] at h
      exact absurd h.symm hv
    cases htarget : targets.get? id with
    | none =>
      rw [resolve_ref_of_unknown htarget] at h
      exact absurd h.symm hv
    | some target =>
      rw [resolve_ref htarget hactive] at h
      exact ⟨target, rfl, hactive, h⟩
  · rintro ⟨target, htarget, hactive, h⟩
    rw [resolve_ref htarget hactive, h]

/-- What stands in an element is something. -/
theorem resolve_content_ne_null (x : Expectation) (text : Option String) (children : List (String × Partial))
    (targets : OrderedMap String Partial) (active : List String) :
    (x.content text children).resolve targets active ≠ .null := by
  cases children with
  | cons first rest =>
    rw [Expectation.content, resolve]
    exact Value.noConfusion
  | nil =>
    unfold Expectation.content
    cases text with
    | some text =>
      dsimp only
      rw [resolve]
      exact Value.coerce_ne_null _ text
    | none =>
      dsimp only
      split
      · rw [resolve]
        exact Value.noConfusion
      · rw [resolve]
        exact Value.noConfusion

end Partial

namespace Xml.Element

/-! ## Documents with another element -/

/-- Elements that differ in their attributes only, and have the same `id`. -/
structure Alike (e e' : Element) : Prop where
  localName : e'.localName = e.localName
  id? : e'.id? = e.id?
  text : e'.text = e.text
  children : e'.children = e.children

/-- The second row of elements is the first one with `e'` in the place of `e`, somewhere inside. -/
inductive Replaced (e e' : Element) : List (Element × Option String) → List (Element × Option String) → Prop
  | here (text : Option String) (rest : List (Element × Option String)) :
    Replaced e e' ((e, text) :: rest) ((e', text) :: rest)
  | inside (parent : Element) {children' : List (Element × Option String)}
    (h : Replaced e e' parent.children children') (text : Option String) (rest : List (Element × Option String)) :
    Replaced e e' ((parent, text) :: rest) ((parent.withChildren children', text) :: rest)
  | later (first : Element × Option String) {rest rest' : List (Element × Option String)}
    (h : Replaced e e' rest rest') : Replaced e e' (first :: rest) (first :: rest')

variable {e e' : Element} {children children' : List (Element × Option String)}

theorem Alike.size_eq (h : Alike e e') : e'.size = e.size := by
  rw [Element.size_eq, Element.size_eq, h.children]

theorem Replaced.totalSize_eq (h : Replaced e e' children children') (halike : Alike e e') :
    totalSize children' = totalSize children := by
  induction h with
  | here text rest => rw [totalSize, totalSize, halike.size_eq]
  | inside parent h text rest ih =>
    rw [totalSize, totalSize, size_eq, children_withChildren, ih, ← size_eq]
  | later first h ih => rw [totalSize, totalSize, ih]

theorem Replaced.childOffers_eq (h : Replaced e e' children children') (halike : Alike e e') (parent : String)
    (n : Nat) : childOffers parent n children' = childOffers parent n children := by
  induction h generalizing parent n with
  | here text rest =>
    rw [childOffers, childOffers, halike.size_eq, offers_eq, offers_eq e, halike.localName, halike.children]
  | @inside outer children' h text rest ih =>
    have hsize : (outer.withChildren children').size = outer.size := by
      rw [size_eq, children_withChildren, h.totalSize_eq halike, ← size_eq]
    rw [childOffers, childOffers, hsize, offers_eq, offers_eq outer, localName_withChildren, children_withChildren, ih]
  | later first h ih => rw [childOffers, childOffers, ih]

section

variable (defs : Option Definitions) (message : Option Nat)

theorem Alike.content_eq (h : Alike e e') (x : Expectation) (n : Nat) :
    e'.content defs message x n = e.content defs message x n := by
  rw [Element.content_eq, Element.content_eq, h.text, h.children]

section

variable {defs message} {a b : Partial} {x : Expectation} {n : Nat} {parent : Element}
  {inside : List (Element × Option String)}

/-- What an element is to the one around it changes as what stands in it. -/
theorem standIn_exchanged {node node' : Partial} (h : Partial.Exchanged a b node node') (parent : Element)
    (inside : List (Element × Option String)) :
    Partial.Exchanged a b (parent.standIn node) ((parent.withChildren inside).standIn node') := by
  cases hhref : parent.href? with
  | some href =>
    rw [standIn_of_href? _ hhref, standIn_of_href? _ (by rw [href?_withChildren, hhref])]
    exact .ref _
  | none =>
    rw [standIn_of_href?_eq_none _ hhref, standIn_of_href?_eq_none _ (by rw [href?_withChildren, hhref])]
    exact h

theorem content_exchanged (h : Partial.ExchangedChildren a b (childValues defs message x (n + 1) parent.children)
    (childValues defs message x (n + 1) inside)) :
    Partial.Exchanged a b (parent.content defs message x n) ((parent.withChildren inside).content defs message x n) := by
  rw [content_eq, content_eq, text_withChildren, children_withChildren]
  exact h.content x parent.text

theorem closings_exchanged
    (h : Partial.ExchangedChildren a b (childValues defs message x (n + 1) parent.children)
      (childValues defs message x (n + 1) inside))
    (hregistered : Partial.ExchangedChildren a b
      (registered (childClosings defs message x (n + 1) parent.children))
      (registered (childClosings defs message x (n + 1) inside))) :
    Partial.ExchangedChildren a b (registered (parent.closings defs message x n))
      (registered ((parent.withChildren inside).closings defs message x n)) := by
  rw [closings_eq, closings_eq, registered_append, registered_append, registered_closing, registered_closing,
    children_withChildren, id?_withChildren]
  refine hregistered.append ?_
  cases parent.id? with
  | none => exact .nil
  | some id => exact .cons ⟨rfl, content_exchanged h⟩ .nil

end

/-- With another element in one place, all that is read is the same, except that the one stands in for
what it holds where the other does. -/
theorem Replaced.exchanged (h : Replaced e e' children children') (halike : Alike e e') (x : Expectation)
    (n : Nat) :
    ∃ x₀ n₀, let own := e.content defs message x₀ n₀
      Partial.ExchangedChildren (e.standIn own) (e'.standIn own)
        (childValues defs message x n children) (childValues defs message x n children') ∧
      Partial.ExchangedChildren (e.standIn own) (e'.standIn own)
        (registered (childClosings defs message x n children))
        (registered (childClosings defs message x n children')) := by
  induction h generalizing x n with
  | here text rest =>
    refine ⟨x.inside defs message n e.localName, n, ?_, ?_⟩
    · rw [childValues, childValues, halike.localName, halike.content_eq, halike.size_eq]
      exact .cons ⟨rfl, .here⟩ (Partial.ExchangedChildren.refl _ _ _)
    · have hclosings : registered (e'.closings defs message (x.inside defs message n e.localName) n) =
          registered (e.closings defs message (x.inside defs message n e.localName) n) := by
        rw [closings_eq, closings_eq, registered_append, registered_append, registered_closing, registered_closing,
          halike.children, halike.id?, halike.content_eq]
      rw [childClosings, childClosings, registered_append, registered_append, halike.localName, hclosings,
        halike.size_eq]
      exact .refl _ _ _
  | @inside parent children' h text rest ih =>
    have hsize : (parent.withChildren children').size = parent.size := by
      rw [size_eq, children_withChildren, h.totalSize_eq halike, ← size_eq]
    obtain ⟨x₀, n₀, hvalues, hregistered⟩ := ih (x.inside defs message n parent.localName) (n + 1)
    refine ⟨x₀, n₀, ?_, ?_⟩
    · rw [childValues, childValues, localName_withChildren, hsize]
      exact .cons ⟨rfl, standIn_exchanged (content_exchanged hvalues) parent children'⟩
        (Partial.ExchangedChildren.refl _ _ _)
    · rw [childClosings, childClosings, registered_append, registered_append, localName_withChildren, hsize]
      exact (closings_exchanged hvalues hregistered).append (.refl _ _ _)
  | later first h ih =>
    obtain ⟨child, text⟩ := first
    obtain ⟨x₀, n₀, hvalues, hregistered⟩ := ih x (n + child.size)
    refine ⟨x₀, n₀, ?_, ?_⟩
    · rw [childValues, childValues]
      exact .cons ⟨rfl, .refl _ _ _⟩ hvalues
    · rw [childClosings, childClosings, registered_append, registered_append]
      exact Partial.ExchangedChildren.append (.refl _ _ _) hregistered

end

/-! ## The envelope of a document -/

/-- The `id` of the element that an `href` refers to. -/
def referent (href : String) : String := String.ofList (href.toList.dropWhile (· == '#'))

section

variable (defs : Option Definitions) (roots : List (Element × Option String))

/-- The envelope among the roots, before references are followed. -/
def envelope? : Option Partial := (Partial.collect (some Envelope.overlay) (documentValues defs roots)).get? "Envelope"

/-- The envelope with references followed. -/
def envelopeValue? : Option Value := (envelope? defs roots).map (Partial.resolve (documentTargets defs roots) [])

end

/-- A way leads from the envelope of the one document to the reference to `id`, and from that of the
other to something else. It enters no target twice. -/
structure Parts (defs : Option Definitions) (roots roots' : List (Element × Option String)) (id : String)
    (way : List Partial.Step) (other : Partial) : Prop where
  reference : ∃ envelope, envelope? defs roots = some envelope ∧
    Partial.Leads (documentTargets defs roots) envelope way (.ref id)
  counterpart : ∃ envelope, envelope? defs roots' = some envelope ∧
    Partial.Leads (documentTargets defs roots') envelope way other
  ne : other ≠ .ref id
  nodup : (Partial.entered way).Nodup

/-- The envelopes and targets of documents in which one element is replaced. -/
theorem Replaced.envelope_exchanged {roots roots' : List (Element × Option String)}
    (h : Replaced e e' roots roots') (halike : Alike e e') (defs : Option Definitions) :
    ∃ x n, let own := e.content defs (documentMessage? roots) x n
      Option.Rel (Partial.Exchanged (e.standIn own) (e'.standIn own)) (envelope? defs roots) (envelope? defs roots') ∧
      Partial.ExchangedTargets (e.standIn own) (e'.standIn own)
        (documentTargets defs roots) (documentTargets defs roots') := by
  have hmessage : documentMessage? roots' = documentMessage? roots := by
    rw [documentMessage?, h.childOffers_eq halike, documentMessage?]
  obtain ⟨x, n, hvalues, hregistered⟩ := h.exchanged defs (documentMessage? roots) halike .outermost 0
  refine ⟨x, n, ?_, ?_⟩
  · rw [envelope?, envelope?, documentValues, documentValues, hmessage]
    exact (hvalues.collect _).get? "Envelope"
  · rw [documentTargets, documentTargets, hmessage]
    exact hregistered.targets

/-- Documents come to the same if the one element stands for what the other does. -/
theorem Replaced.envelopeValue?_eq {roots roots' : List (Element × Option String)} (h : Replaced e e' roots roots')
    (halike : Alike e e') (hsame : ∀ own, e'.standIn own = e.standIn own) (defs : Option Definitions) :
    envelopeValue? defs roots' = envelopeValue? defs roots := by
  obtain ⟨x, n, henvelope, htargets⟩ := h.envelope_exchanged halike defs
  have hget (id : String) : (documentTargets defs roots').get? id = (documentTargets defs roots).get? id := by
    rcases htargets.get?_eq id with ⟨hnone, hnone'⟩ | ⟨target, target', htarget, htarget', hexchanged⟩
    · rw [hnone, hnone']
    · rw [htarget, htarget', hexchanged.eq_of_same (hsame _).symm]
  rw [envelopeValue?, envelopeValue?]
  rcases Partial.none_or_some_of_rel henvelope with ⟨hnone, hnone'⟩ | ⟨envelope, envelope', hroot, hroot', hexchanged⟩
  · rw [hnone, hnone', Option.map_none, Option.map_none]
  · rw [hroot, hroot', Option.map_some, Option.map_some, hexchanged.eq_of_same (hsame _).symm,
      Partial.resolve_congr _ fun id _ => hget id]

section

variable {defs : Option Definitions} {roots roots' : List (Element × Option String)} {id : String} {own other : Partial}
  {way : List Partial.Step}
  (henvelope : Option.Rel (Partial.Exchanged (.ref id) own) (envelope? defs roots) (envelope? defs roots'))
  (htargets : Partial.ExchangedTargets (.ref id) own (documentTargets defs roots) (documentTargets defs roots'))

include henvelope htargets

/-- Documents of which one has a reference in the place of something part nowhere else. -/
theorem Parts.eq_own (h : Parts defs roots roots' id way other) : other = own := by
  obtain ⟨⟨envelope, hroot, hreference⟩, ⟨envelope', hroot', hother⟩, hne, -⟩ := h
  have hexchanged : Partial.Exchanged (.ref id) own envelope envelope' := by
    rw [hroot, hroot'] at henvelope
    cases henvelope with
    | some h => exact h
  cases hexchanged.of_leads htargets hreference hother with
  | here => rfl
  | ref => exact absurd rfl hne

/-- They come to the same just if the reference becomes what stands there, wherever they part. -/
theorem envelopeValue?_eq_iff (hown : ∀ targets active, own.resolve targets active ≠ .null)
    (hne : ∀ id, own ≠ .ref id) :
    envelopeValue? defs roots = envelopeValue? defs roots' ↔
      ∀ way other, Parts defs roots roots' id way other →
        ∃ target, (documentTargets defs roots).get? id = some target ∧ id ∉ Partial.entered way ∧
          target.resolve (documentTargets defs roots) (id :: (Partial.entered way).reverse) =
            other.resolve (documentTargets defs roots') (Partial.entered way).reverse := by
  have href (way : List Partial.Step) : (Partial.ref id).resolve (documentTargets defs roots) (Partial.entered way).reverse =
      own.resolve (documentTargets defs roots') (Partial.entered way).reverse ↔ _ :=
    Partial.resolve_ref_eq_iff (hown _ _)
  simp only [List.mem_reverse] at href
  rw [envelopeValue?, envelopeValue?]
  rcases Partial.none_or_some_of_rel henvelope with ⟨hnone, hnone'⟩ | ⟨envelope, envelope', hroot, hroot', hexchanged⟩
  · rw [hnone, hnone', Option.map_none, Option.map_none]
    refine ⟨fun _ way other hparts => ?_, fun _ => rfl⟩
    obtain ⟨envelope, hsome, -⟩ := hparts.reference
    cases hnone.symm.trans hsome
  · rw [hroot, hroot', Option.map_some, Option.map_some, Option.some.injEq, hexchanged.resolve_eq_iff htargets []]
    simp only [List.append_nil]
    constructor
    · intro hways way other hparts
      obtain rfl := hparts.eq_own henvelope htargets
      obtain ⟨⟨_, hsome, hreference⟩, ⟨_, hsome', hother⟩, -, hnodup⟩ := hparts
      obtain rfl := Option.some.inj (hroot.symm.trans hsome)
      obtain rfl := Option.some.inj (hroot'.symm.trans hsome')
      exact (href way).mp (hways way hreference hother hnodup fun _ _ => List.not_mem_nil)
    · intro hparts way hreference hother hnodup _
      exact (href way).mpr (hparts way own ⟨⟨_, hroot, hreference⟩, ⟨_, hroot', hother⟩, hne id, hnodup⟩)

end

/-- What is decoded where documents part. -/
theorem Parts.at? {defs : Option Definitions} {roots roots' : List (Element × Option String)} {id : String}
    {way : List Partial.Step} {other : Partial} (h : Parts defs roots roots' id way other) :
    (envelopeValue? defs roots).bind (Value.at? way) =
      some ((Partial.ref id).resolve (documentTargets defs roots) (Partial.entered way).reverse) ∧
    (envelopeValue? defs roots').bind (Value.at? way) =
      some (other.resolve (documentTargets defs roots') (Partial.entered way).reverse) := by
  obtain ⟨⟨envelope, hsome, hreference⟩, ⟨envelope', hsome', hother⟩, -, hnodup⟩ := h
  rw [envelopeValue?, envelopeValue?, hsome, hsome', Option.map_some, Option.map_some, Option.bind_some,
    Option.bind_some, hreference.at?_resolve hnodup fun _ _ => List.not_mem_nil,
    hother.at?_resolve hnodup fun _ _ => List.not_mem_nil, List.append_nil]
  exact ⟨rfl, rfl⟩

end Xml.Element

namespace Envelope

open Xml.Element (Alike Parts Replaced envelope? envelopeValue? referent)

/-- What is handed out for the envelope of a document. -/
def ofValue? : Option Value → Except DecodeError Envelope
  | none => .error .missingEnvelope
  | some envelope => ofValue envelope

theorem decode_eq_ofValue? (defs : Option Definitions) {text : String} {lead : Option String}
    {roots : List (Element × Option String)} (h : (Xml.read text).events? = some (documentEvents lead roots)) :
    decode defs text = ofValue? (envelopeValue? defs roots) := by
  rw [decode_document defs h, envelopeValue?, envelope?]
  cases (Partial.collect (some overlay) (documentValues defs roots)).get? "Envelope" <;> rfl

/-- An `href` redirects with and without number signs. Whatever it is, the document is decoded as one in
which it refers to the same `id` behind other signs. Against the document without it, the element becomes
what the reference does instead of what stands in it; and the envelope is the same just if, wherever a way
leads to the element, there is another with that `id` that the way has not entered, and this unfolds to
what stands in the element. -/
theorem decode_of_href (defs : Option Definitions) {e e' : Element} {href : String} (hhref : e.href? = some href)
    (halike : Alike e e') {roots roots' : List (Element × Option String)} (h : Replaced e e' roots roots')
    {lead lead' : Option String} {text text' : String}
    (htext : (Xml.read text).events? = some (documentEvents lead roots))
    (htext' : (Xml.read text').events? = some (documentEvents lead' roots')) :
    decode defs text = ofValue? (envelopeValue? defs roots) ∧
    decode defs text' = ofValue? (envelopeValue? defs roots') ∧
    (∀ href', e'.href? = some href' → referent href' = referent href → decode defs text' = decode defs text) ∧
    (e'.href? = none →
      (∀ way other, Parts defs roots roots' (referent href) way other →
        (∃ x n, other = e.content defs (documentMessage? roots) x n) ∧
        (envelopeValue? defs roots).bind (Value.at? way) =
          some ((Partial.ref (referent href)).resolve (documentTargets defs roots) (Partial.entered way).reverse) ∧
        (envelopeValue? defs roots').bind (Value.at? way) =
          some (other.resolve (documentTargets defs roots') (Partial.entered way).reverse) ∧
        other.resolve (documentTargets defs roots') (Partial.entered way).reverse ≠ .null) ∧
      (envelopeValue? defs roots = envelopeValue? defs roots' ↔
        ∀ way other, Parts defs roots roots' (referent href) way other →
          ∃ target, (documentTargets defs roots).get? (referent href) = some target ∧
            referent href ∉ Partial.entered way ∧
            target.resolve (documentTargets defs roots) (referent href :: (Partial.entered way).reverse) =
              other.resolve (documentTargets defs roots') (Partial.entered way).reverse)) := by
  have hreference (own : Partial) : e.standIn own = .ref (referent href) := e.standIn_of_href? hhref own
  have hdecode := decode_eq_ofValue? defs htext
  have hdecode' := decode_eq_ofValue? defs htext'
  refine ⟨hdecode, hdecode', fun href' hhref' hsame => ?_, fun hnone => ?_⟩
  · have hstands (own : Partial) : e'.standIn own = e.standIn own := by
      rw [hreference, e'.standIn_of_href? hhref', ← referent, hsame]
    rw [hdecode, hdecode', h.envelopeValue?_eq halike hstands]
  · obtain ⟨x, n, henvelope, htargets⟩ := h.envelope_exchanged halike defs
    rw [hreference, e'.standIn_of_href?_eq_none hnone] at henvelope htargets
    have hown (targets : OrderedMap String Partial) (active : List String) :
        (e.content defs (documentMessage? roots) x n).resolve targets active ≠ .null := by
      rw [Element.content_eq]
      exact Partial.resolve_content_ne_null _ _ _ targets active
    have hne (id : String) : e.content defs (documentMessage? roots) x n ≠ .ref id := by
      intro heq
      have hnull := hown [] []
      rw [heq, Partial.resolve_ref_of_unknown rfl] at hnull
      exact hnull rfl
    refine ⟨fun way other hparts => ?_, Element.envelopeValue?_eq_iff henvelope htargets hown hne⟩
    obtain rfl := hparts.eq_own henvelope htargets
    exact ⟨⟨x, n, rfl⟩, hparts.at?.1, hparts.at?.2, hown _ _⟩

end Envelope

/-! ### A link in a page -/

/-- An anchor with a text. -/
def anchor (attributes : OrderedMap String String) : Element := ⟨.unqualified "a", attributes, [], some "here", []⟩

/-- A document with a page in its body, which has an anchor. -/
def page (attributes : OrderedMap String String) : List (Element × Option String) :=
  [(.plain "Envelope" none [.plain "Body" none [.plain "page" none [anchor attributes]]], none)]

/-- The text of the document, with what stands in the tag of the anchor. -/
def pageText (attributes : String) : String :=
  "<Envelope><Body><page><a" ++ attributes ++ ">here</a></page></Body></Envelope>"

theorem alike_anchor (attributes : OrderedMap String String)
    (h : Decoder.localAttribute? attributes "id" = none) : (anchor [("href", "http://x")]).Alike (anchor attributes) where
  localName := rfl
  id? := h
  text := rfl
  children := rfl

theorem replaced_page (attributes : OrderedMap String String) :
    (anchor [("href", "http://x")]).Replaced (anchor attributes) (page [("href", "http://x")]) (page attributes) :=
  .inside (.plain "Envelope" none [.plain "Body" none [.plain "page" none [anchor [("href", "http://x")]]]])
    (.inside (.plain "Body" none [.plain "page" none [anchor [("href", "http://x")]]])
      (.inside (.plain "page" none [anchor [("href", "http://x")]]) (.here none []) none []) none []) none []

theorem read_linkedPage : (Xml.read (pageText " href=\"http://x\"")).events? =
    some (documentEvents none (page [("href", "http://x")])) := by decide +kernel

theorem read_signedPage : (Xml.read (pageText " href=\"#http://x\"")).events? =
    some (documentEvents none (page [("href", "#http://x")])) := by decide +kernel

theorem read_plainPage : (Xml.read (pageText "")).events? = some (documentEvents none (page [])) := by
  decide +kernel

theorem envelope_linkedPage : Element.envelope? none (page [("href", "http://x")]) =
    some (.object [("Body", .object [("page", .object [("a", .ref "http://x")])])]) := rfl

theorem envelope_plainPage : Element.envelope? none (page []) =
    some (.object [("Body", .object [("page", .object [("a", .scalar (.string "here"))])])]) := rfl

/-- The link is read as a reference to an element with that address for its `id`. There is none, so what
stands in the anchor is lost. -/
theorem Envelope.decode_of_href_page :
    (Xml.read (pageText " href=\"http://x\"")).events? = some (documentEvents none (page [("href", "http://x")])) ∧
    (Xml.read (pageText " href=\"#http://x\"")).events? = some (documentEvents none (page [("href", "#http://x")])) ∧
    (Xml.read (pageText "")).events? = some (documentEvents none (page [])) ∧
    Envelope.decode none (pageText " href=\"#http://x\"") = Envelope.decode none (pageText " href=\"http://x\"") ∧
    Element.envelopeValue? none (page [("href", "http://x")]) ≠ Element.envelopeValue? none (page []) := by
  have hhref : (anchor [("href", "http://x")]).href? = some "http://x" := rfl
  obtain ⟨-, -, hsigns, -⟩ := Envelope.decode_of_href none hhref (alike_anchor [("href", "#http://x")] rfl)
    (replaced_page _) read_linkedPage read_signedPage
  obtain ⟨-, -, -, habsent⟩ := Envelope.decode_of_href none hhref (alike_anchor [] rfl) (replaced_page []) read_linkedPage
    read_plainPage
  refine ⟨read_linkedPage, read_signedPage, read_plainPage, hsigns "#http://x" rfl (by decide), fun hsame => ?_⟩
  have hparts : Element.Parts none (page [("href", "http://x")]) (page []) "http://x" [.field 0, .field 0, .field 0]
      (.scalar (.string "here")) :=
    { reference := ⟨_, envelope_linkedPage, .field rfl (.field rfl (.field rfl (.here _)))⟩
      counterpart := ⟨_, envelope_plainPage, .field rfl (.field rfl (.field rfl (.here _)))⟩
      ne := by simp
      nodup := List.nodup_nil }
  obtain ⟨target, htarget, -⟩ := (habsent rfl).2.mp hsame _ _ hparts
  have htargets : documentTargets none (page [("href", "http://x")]) = [] := rfl
  rw [htargets] at htarget
  cases htarget

theorem decode_linkedPage : Envelope.decode none (pageText " href=\"http://x\"") =
    .ok { header := none, body := .object [("page", .object [("a", .null)])] } := by
  have htargets : documentTargets none (page [("href", "http://x")]) = [] := rfl
  rw [Envelope.decode_eq_ofValue? none read_linkedPage, Element.envelopeValue?, envelope_linkedPage, htargets]
  simp [Partial.resolve, Partial.resolveFields]
  rfl

theorem decode_plainPage : Envelope.decode none (pageText "") =
    .ok { header := none, body := .object [("page", .object [("a", .string "here")])] } := by
  have htargets : documentTargets none (page []) = [] := rfl
  rw [Envelope.decode_eq_ofValue? none read_plainPage, Element.envelopeValue?, envelope_plainPage, htargets]
  simp [Partial.resolve, Partial.resolveFields]
  rfl

/-- An `href` that does not begin with a number sign is not read as if it were absent. -/
theorem Envelope.not_decode_link_as_absent :
    ¬ ∀ (defs : Option Definitions) (e e' : Element) (href : String) (roots roots' : List (Element × Option String))
      (text text' : String), e.href? = some href → href.toList.head? ≠ some '#' → e'.href? = none → e.Alike e' →
      e.Replaced e' roots roots' → (Xml.read text).events? = some (documentEvents none roots) →
      (Xml.read text').events? = some (documentEvents none roots') →
      Envelope.decode defs text = Envelope.decode defs text' := by
  intro h
  have hsame := h none (anchor [("href", "http://x")]) (anchor []) "http://x" _ _ _ _ rfl (by decide) rfl
    (alike_anchor [] rfl) (replaced_page []) read_linkedPage read_plainPage
  rw [decode_linkedPage, decode_plainPage] at hsame
  cases hsame

end Soap
