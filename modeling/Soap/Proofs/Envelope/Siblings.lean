import Soap.Proofs.Envelope.Numbering

/-!
# Siblings of the first element of a body

References may lead to elements anywhere in an envelope, before or after they are read. So the elements
that follow the first one in a body may stand in any order, as far as this first one is concerned
(`Envelope.decode_first_of_siblings`). It carries the message, unless one before it does, and then no
sibling does; its siblings are registered under their names in whatever order; and none of them joins
it. Only the body and the envelope show the order, so the first element must not lead to them.
-/

namespace Soap

open Xml (Element)
open Xml.Element (SameMessage called childClosings childIds childOffers childValues closingsAfterMessage
  totalSize valueAfterMessage)

/-- What is around the siblings of the first element in the body of an envelope. -/
structure Surroundings where
  root : Element
  /-- The children of the root before the body, and after it. -/
  before : List (Element × Option String)
  after : List (Element × Option String)
  body : Element
  first : Element
  /-- The texts after the first element and after the body. -/
  textFirst : Option String
  textBody : Option String
  root_name : root.localName = "Envelope"
  body_name : body.localName = "Body"
  first_name : first.localName ≠ "Fault"

namespace Surroundings

variable (s : Surroundings) (siblings : List (Element × Option String))

def bodyTree : Element := s.body.withChildren ((s.first, s.textFirst) :: siblings)

/-- The envelope with these siblings. -/
def tree : Element := s.root.withChildren (s.before ++ (s.bodyTree siblings, s.textBody) :: s.after)

@[simp] theorem localName_tree : (s.tree siblings).localName = "Envelope" := by
  rw [tree, Element.localName_withChildren, s.root_name]

@[simp] theorem localName_bodyTree : (s.bodyTree siblings).localName = "Body" := by
  rw [bodyTree, Element.localName_withChildren, s.body_name]

/-! ## The message -/

/-- The number of the body. -/
def number : Nat := 1 + totalSize s.before

/-- The number of the element that carries the message: the first in the body if none before it does. -/
def message : Option Nat := (childOffers "Envelope" 1 s.before ++ [s.number + 1]).head?

theorem message?_tree : (s.tree siblings).message? = s.message := by
  have hfirst : s.first.offers "Body" (s.number + 1) =
      [s.number + 1] ++ childOffers s.first.localName (s.number + 1 + 1) s.first.children := by
    rw [Element.offers_eq, Element.ownOffer, if_pos ⟨rfl, s.first_name⟩]
  rw [Element.message?, Element.offers_eq, localName_tree, tree, Element.children_withChildren,
    Element.childOffers_append, childOffers, Element.offers_eq, localName_bodyTree, bodyTree,
    Element.children_withChildren, childOffers, Nat.zero_add, ← number, hfirst, message]
  simp [Element.ownOffer, List.head?_append]

/-- No sibling carries the message. -/
theorem message_lt {k : Nat} (h : s.message = some k) : k < s.number + 2 := by
  have hmem := List.mem_of_mem_head? h
  rcases List.mem_append.mp hmem with hbefore | hfirst
  · have := (Element.mem_childOffers s.before hbefore).2
    rw [number]
    omega
  · rw [List.mem_singleton.mp hfirst]
    omega

/-! ## What is read -/

variable (defs : Option Definitions)

/-- How the root is read. -/
def outer : Expectation := Expectation.outermost.child "Envelope"

/-- How the body is read. -/
def inner : Expectation := outer.inside defs s.message s.number "Body"

/-- What the first element is to the body. -/
def firstValue : Partial :=
  s.first.standIn (s.first.content defs s.message
    ((s.inner defs).inside defs s.message (s.number + 1) s.first.localName) (s.number + 1))

/-- What the children of the body are to it. -/
def values : List (String × Partial) :=
  (s.first.localName, s.firstValue defs) ::
    (siblings.map Prod.fst).map (valueAfterMessage defs (s.inner defs))

theorem message_lt_siblings : ∀ k, s.message = some k → k < s.number + 1 + s.first.size := by
  intro k hk
  have := s.message_lt hk
  have := s.first.size_pos
  omega

theorem childValues_body :
    childValues defs s.message (s.inner defs) (s.number + 1) (s.bodyTree siblings).children =
      s.values siblings defs := by
  rw [bodyTree, Element.children_withChildren, childValues,
    Element.childValues_after_message _ s.message_lt_siblings]
  rfl

theorem childClosings_body :
    childClosings defs s.message (s.inner defs) (s.number + 1) (s.bodyTree siblings).children =
      s.first.closings defs s.message ((s.inner defs).inside defs s.message (s.number + 1) s.first.localName)
          (s.number + 1) ++
        (siblings.map Prod.fst).flatMap (closingsAfterMessage defs (s.inner defs)) := by
  rw [bodyTree, Element.children_withChildren, childClosings,
    Element.childClosings_after_message _ s.message_lt_siblings]

/-- What the elements of the envelope are closed with, up to the root. -/
theorem exists_closings :
    ∃ content content' : Partial, (s.tree siblings).allClosings defs =
      childClosings defs s.message outer 1 s.before ++
        ((childClosings defs s.message (s.inner defs) (s.number + 1) (s.bodyTree siblings).children ++
            [(s.bodyTree siblings).closing content]) ++
          childClosings defs s.message outer (s.number + (s.bodyTree siblings).size) s.after) ++
        [(s.tree siblings).closing content'] := by
  refine ⟨(s.bodyTree siblings).content defs s.message (s.inner defs) s.number,
    (s.tree siblings).content defs s.message outer 0, ?_⟩
  rw [Element.allClosings, message?_tree, localName_tree, Element.closings_eq]
  congr 1
  rw [tree, Element.children_withChildren, Element.childClosings_append, childClosings, localName_bodyTree,
    Element.closings_eq]
  rfl

end Surroundings

namespace Surroundings

variable (s : Surroundings) {siblings siblings' : List (Element × Option String)}
  (hperm : (siblings.map Prod.fst).Perm (siblings'.map Prod.fst))

/-! ## Other orders -/

include hperm

theorem size_bodyTree_perm : (s.bodyTree siblings).size = (s.bodyTree siblings').size := by
  rw [Element.size_eq, Element.size_eq, bodyTree, bodyTree, Element.children_withChildren,
    Element.children_withChildren, totalSize, totalSize, Element.totalSize_perm hperm]

/-- The same names are given. -/
theorem ids_bodyTree_perm : (s.bodyTree siblings).ids.Perm (s.bodyTree siblings').ids := by
  rw [Element.ids_eq, Element.ids_eq, bodyTree, bodyTree, Element.children_withChildren,
    Element.children_withChildren, Element.id?_withChildren, Element.id?_withChildren, childIds, childIds,
    Element.childIds_eq_flatMap, Element.childIds_eq_flatMap]
  exact ((hperm.flatMap_right Element.ids).append_left s.first.ids).append_right _

theorem ids_tree_perm : (s.tree siblings).ids.Perm (s.tree siblings').ids := by
  rw [Element.ids_eq, Element.ids_eq, tree, tree, Element.children_withChildren,
    Element.children_withChildren, Element.id?_withChildren, Element.id?_withChildren,
    Element.childIds_append, Element.childIds_append, childIds, childIds]
  exact (((s.ids_bodyTree_perm hperm).append_right _).append_left _).append_right _

/-- What is registered under other names than those of the body and the root. -/
theorem mem_registered_perm (defs : Option Definitions) {id : String} (hroot : s.root.id? ≠ some id)
    (hbody : s.body.id? ≠ some id) (content : Partial) :
    (id, content) ∈ registered ((s.tree siblings).allClosings defs) ↔
      (id, content) ∈ registered ((s.tree siblings').allClosings defs) := by
  have hother : ∀ e : Element, e.id? ≠ some id → ∀ c, (id, content) ∉ registered [e.closing c] := by
    intro e he c hmem
    exact Element.not_mem_registered_closing he c (List.mem_map_of_mem hmem)
  have hinBody : ∀ siblings c, (id, content) ∉ registered [(s.bodyTree siblings).closing c] := by
    intro siblings
    apply hother
    rw [bodyTree, Element.id?_withChildren]
    exact hbody
  have hinRoot : ∀ siblings c, (id, content) ∉ registered [(s.tree siblings).closing c] := by
    intro siblings
    apply hother
    rw [tree, Element.id?_withChildren]
    exact hroot
  have hsiblings : (id, content) ∈ registered
        ((siblings.map Prod.fst).flatMap (closingsAfterMessage defs (s.inner defs))) ↔
      (id, content) ∈ registered
        ((siblings'.map Prod.fst).flatMap (closingsAfterMessage defs (s.inner defs))) :=
    ((hperm.flatMap_right _).filterMap _).mem_iff
  obtain ⟨c, c', hclosings⟩ := s.exists_closings siblings defs
  obtain ⟨d, d', hclosings'⟩ := s.exists_closings siblings' defs
  rw [hclosings, hclosings', childClosings_body, childClosings_body, s.size_bodyTree_perm hperm]
  simp only [registered_append, List.mem_append, hsiblings, hinBody, hinRoot, or_false]

/-- The names lead to the same, but for those of the body and the root. -/
theorem get?_targets_perm (defs : Option Definitions) (hnodup : (s.tree siblings).ids.Nodup) {id : String}
    (hroot : s.root.id? ≠ some id) (hbody : s.body.id? ≠ some id) :
    ((s.tree siblings').targets defs).get? id = ((s.tree siblings).targets defs).get? id := by
  have hnodup' : (s.tree siblings').ids.Nodup := (s.ids_tree_perm hperm).nodup_iff.mp hnodup
  apply Option.ext
  intro content
  unfold Element.targets
  rw [OrderedMap.get?_ofList_eq_some_iff, OrderedMap.get?_ofList_eq_some_iff]
  · exact (s.mem_registered_perm hperm defs hroot hbody content).symm
  · unfold Element.allClosings
    rw [Element.keys_registered_closings]
    exact hnodup
  · unfold Element.allClosings
    rw [Element.keys_registered_closings]
    exact hnodup'

end Surroundings

/-! ## The first element -/

/-- The first element of a body that stands there itself; what a body refers to has its own. -/
def Partial.first (body : Partial) : Partial := (body.fields.head?.map Prod.snd).getD body

namespace Envelope

/-- The first element of a body, or the fault in its place. -/
def firstOf (body : Value) : Except DecodeError (Option (String × Value)) :=
  match Decoder.faultOf? body with
  | some f => .error (.fault f)
  | none => .ok (body.fields?.bind List.head?)

theorem map_bodyElement?_ofValue (envelope : Value) :
    (ofValue envelope).map bodyElement? = firstOf (bodyOf envelope) := by
  unfold ofValue firstOf
  cases Decoder.faultOf? (bodyOf envelope) <;> rfl

variable (targets : OrderedMap String Partial)

/-- Several bodies have no first element. -/
theorem firstOf_list (items : List Partial) : firstOf ((Partial.list items).resolve targets []) = .ok none := by
  unfold firstOf Decoder.faultOf?
  rw [Partial.get?_resolve_list, Partial.resolve]
  rfl

/-- The first child is the first element, with the others of its name. -/
theorem firstOf_collect (schema : Option Description) {name : String} {child : Partial}
    {rest : List (String × Partial)} (hname : name ≠ "Fault") (hfault : Partial.named "Fault" rest = [])
    (hrest : Partial.named name rest = []) :
    firstOf ((Partial.object (Partial.collect schema ((name, child) :: rest))).resolve targets []) =
      .ok (some (name, (Partial.gather (schema.any (·.isRepeated name)) [child]).resolve targets [])) := by
  have hnone : Partial.named "Fault" ((name, child) :: rest) = [] := by
    rw [Partial.named, List.filter_cons_of_neg (by simpa using hname)]
    exact hfault
  have hhead := Partial.head?_collect_cons schema name child rest
  rw [hrest] at hhead
  unfold firstOf Decoder.faultOf?
  rw [Partial.get?_resolve_object, Partial.get?_collect, if_pos hnone, Partial.resolve,
    Partial.resolveFields_eq_map]
  simp only [Option.map_none, Value.fields?, Option.bind_some, List.head?_map, hhead, Option.map_some]

end Envelope

namespace Partial

theorem first_ref (id : String) : (ref id).first = .ref id := rfl

/-- Two bodies are the same reference, or several bodies each, or begin with the same element. -/
inductive SameFirst : Partial → Partial → Prop
  | ref (id : String) : SameFirst (.ref id) (.ref id)
  | list (items items' : List Partial) : SameFirst (.list items) (.list items')
  | collect (schema : Option Description) {name : String} (child : Partial)
      {rest rest' : List (String × Partial)} (hname : name ≠ "Fault")
      (hrest : named "Fault" rest = [] ∧ named name rest = [])
      (hrest' : named "Fault" rest' = [] ∧ named name rest' = []) :
      SameFirst (.object (collect schema ((name, child) :: rest)))
        (.object (collect schema ((name, child) :: rest')))

/-- They begin with the same element once references are followed, if it leads to the same targets. -/
theorem SameFirst.firstOf_eq {body body' : Partial} (h : SameFirst body body')
    {targets targets' : OrderedMap String Partial}
    (hget : ∀ id, Reaches targets body.first id → targets'.get? id = targets.get? id) :
    Envelope.firstOf (body'.resolve targets' []) = Envelope.firstOf (body.resolve targets []) := by
  cases h with
  | ref id =>
    rw [first_ref] at hget
    rw [resolve_congr _ hget]
  | list items items' => rw [Envelope.firstOf_list, Envelope.firstOf_list]
  | collect schema child hname hrest hrest' =>
    rw [first, fields, head?_collect_cons, hrest.2, Option.map_some, Option.getD_some] at hget
    rw [Envelope.firstOf_collect _ _ hname hrest.1 hrest.2, Envelope.firstOf_collect _ _ hname hrest'.1 hrest'.2,
      resolve_congr _ hget]

/-- Beside other bodies, too. -/
theorem SameFirst.gather {body body' : Partial} (h : SameFirst body body') (repeatable : Bool)
    (before after : List Partial) :
    SameFirst (gather repeatable (before ++ body :: after)) (Partial.gather repeatable (before ++ body' :: after)) := by
  cases before with
  | nil =>
    cases after with
    | nil =>
      cases repeatable with
      | false => exact h
      | true => exact .list _ _
    | cons second rest => exact .list _ _
  | cons first rest =>
    cases rest with
    | nil => exact .list _ _
    | cons second rest => exact .list _ _

end Partial

namespace Surroundings

variable (s : Surroundings) {siblings siblings' : List (Element × Option String)}

theorem named_after_message {name : String} (h : called name siblings = []) (defs : Option Definitions)
    (x : Expectation) :
    Partial.named name ((siblings.map Prod.fst).map (valueAfterMessage defs x)) = [] := by
  rw [Partial.named_eq_nil_iff, List.map_map]
  intro hmem
  obtain ⟨e, he, hname⟩ := List.mem_map.mp hmem
  exact List.filter_eq_nil_iff.mp h e he (beq_iff_eq.mpr hname)

variable (siblings) in
/-- What the body is to the envelope. -/
def bodyValue (defs : Option Definitions) : Partial :=
  (s.bodyTree siblings).standIn ((s.bodyTree siblings).content defs s.message (s.inner defs) s.number)

theorem bodyValue_of_href?_eq_none (h : s.body.href? = none) (defs : Option Definitions) :
    s.bodyValue siblings defs =
      .object (Partial.collect (s.inner defs).schema (s.values siblings defs)) := by
  rw [bodyValue, Element.standIn_of_href?_eq_none _ (by rw [bodyTree, Element.href?_withChildren, h]),
    Element.content_eq, childValues_body]
  rfl

/-- The body begins with the first element, whatever the order of its siblings. -/
theorem sameFirst_bodyValue (defs : Option Definitions)
    (h : called "Fault" siblings = [] ∧ called s.first.localName siblings = [])
    (h' : called "Fault" siblings' = [] ∧ called s.first.localName siblings' = []) :
    (s.bodyValue siblings defs).SameFirst (s.bodyValue siblings' defs) := by
  cases hhref : s.body.href? with
  | some href =>
    have hvalue : ∀ siblings, s.bodyValue siblings defs =
        .ref (String.ofList (href.toList.dropWhile (· == '#'))) := by
      intro siblings
      apply Element.standIn_of_href?
      rw [bodyTree, Element.href?_withChildren, hhref]
    rw [hvalue, hvalue]
    exact .ref _
  | none =>
    rw [s.bodyValue_of_href?_eq_none hhref, s.bodyValue_of_href?_eq_none hhref]
    apply Partial.SameFirst.collect
    · exact s.first_name
    · exact ⟨named_after_message h.1 defs _, named_after_message h.2 defs _⟩
    · exact ⟨named_after_message h'.1 defs _, named_after_message h'.2 defs _⟩

/-- The bodies of the envelope: its body, and what others there are. -/
theorem named_childValues_tree (defs : Option Definitions) :
    Partial.named "Body" (childValues defs s.message outer 1 (s.tree siblings).children) =
      Partial.named "Body" (childValues defs s.message outer 1 s.before) ++ s.bodyValue siblings defs ::
        Partial.named "Body"
          (childValues defs s.message outer (s.number + (s.bodyTree siblings).size) s.after) := by
  rw [tree, Element.children_withChildren, Element.childValues_append, childValues, Partial.named,
    List.filter_append, List.map_append, List.filter_cons_of_pos (by rw [localName_bodyTree, beq_self_eq_true]),
    List.map_cons, localName_bodyTree]
  rfl

theorem value_tree_of_href?_eq_none (h : s.root.href? = none) (defs : Option Definitions) :
    (s.tree siblings).value defs =
      outer.content s.root.text (childValues defs s.message outer 1 (s.tree siblings).children) := by
  rw [Element.value_of_href?_eq_none _ _ (by rw [tree, Element.href?_withChildren, h]), localName_tree,
    message?_tree, tree, Element.text_withChildren]
  rfl

variable (siblings) in
/-- The body of the envelope is its body with what other bodies there are. -/
theorem body_value_tree (h : s.root.href? = none) (defs : Option Definitions)
    (targets : OrderedMap String Partial) :
    let node := Partial.gather (outer.schema.any (·.isRepeated "Body"))
      (Partial.named "Body" (childValues defs s.message outer 1 (s.tree siblings).children))
    ((s.tree siblings).value defs).body = node ∧
      Envelope.bodyOf (((s.tree siblings).value defs).resolve targets []) = node.resolve targets [] := by
  intro node
  have hne : Partial.named "Body" (childValues defs s.message outer 1 (s.tree siblings).children) ≠ [] := by
    rw [named_childValues_tree]
    simp
  rw [s.value_tree_of_href?_eq_none h, Partial.body, Partial.fields_content, Envelope.bodyOf,
    Partial.get?_resolve_content, Partial.get?_collect, if_neg hne]
  exact ⟨rfl, rfl⟩

/-- Whatever the order of the siblings is, the body begins with the same element. -/
theorem firstOf_perm (hperm : (siblings.map Prod.fst).Perm (siblings'.map Prod.fst))
    (hids : (s.tree siblings).ids.Nodup)
    (h : called "Fault" siblings = [] ∧ called s.first.localName siblings = [])
    (h' : called "Fault" siblings' = [] ∧ called s.first.localName siblings' = []) (defs : Option Definitions)
    (hreach : ∀ id, s.root.id? = some id ∨ s.body.id? = some id →
      ¬ Partial.Reaches ((s.tree siblings).targets defs) ((s.tree siblings).value defs).body.first id) :
    Envelope.firstOf (Envelope.bodyOf
        (((s.tree siblings').value defs).resolve ((s.tree siblings').targets defs) [])) =
      Envelope.firstOf (Envelope.bodyOf
        (((s.tree siblings).value defs).resolve ((s.tree siblings).targets defs) [])) := by
  have hget : ∀ id, Partial.Reaches ((s.tree siblings).targets defs) ((s.tree siblings).value defs).body.first id →
      ((s.tree siblings').targets defs).get? id = ((s.tree siblings).targets defs).get? id := by
    intro id hid
    apply s.get?_targets_perm hperm defs hids
    · intro hroot
      exact hreach id (.inl hroot) hid
    · intro hbody
      exact hreach id (.inr hbody) hid
  cases hhref : s.root.href? with
  | some href =>
    have hvalue : ∀ siblings, (s.tree siblings).value defs =
        .ref (String.ofList (href.toList.dropWhile (· == '#'))) := by
      intro siblings
      apply Element.value_of_href?
      rw [tree, Element.href?_withChildren, hhref]
    rw [hvalue, Partial.body_ref, Partial.first_ref] at hget
    rw [hvalue, hvalue, Partial.resolve_congr _ hget]
  | none =>
    obtain ⟨hbody, hvalue⟩ := s.body_value_tree siblings hhref defs ((s.tree siblings).targets defs)
    obtain ⟨-, hvalue'⟩ := s.body_value_tree siblings' hhref defs ((s.tree siblings').targets defs)
    rw [hbody] at hget
    rw [hvalue, hvalue']
    apply Partial.SameFirst.firstOf_eq _ hget
    rw [named_childValues_tree, named_childValues_tree, s.size_bodyTree_perm hperm]
    apply Partial.SameFirst.gather
    exact s.sameFirst_bodyValue defs h h'

/-- An envelope with an only body hands out its first element. -/
theorem firstOf_of_only_body (hroot : s.root.href? = none) (hbody : s.body.href? = none)
    (hbefore : called "Body" s.before = []) (hafter : called "Body" s.after = [])
    (h : called "Fault" siblings = [] ∧ called s.first.localName siblings = []) (defs : Option Definitions) :
    ∃ v, Envelope.firstOf (Envelope.bodyOf
        (((s.tree siblings).value defs).resolve ((s.tree siblings).targets defs) [])) =
      .ok (some (s.first.localName, v)) := by
  obtain ⟨-, hvalue⟩ := s.body_value_tree siblings hroot defs ((s.tree siblings).targets defs)
  rw [hvalue, named_childValues_tree, (Element.named_childValues_eq_nil_iff ..).mpr hbefore,
    (Element.named_childValues_eq_nil_iff ..).mpr hafter, List.nil_append,
    s.bodyValue_of_href?_eq_none hbody]
  exact ⟨_, Envelope.firstOf_collect _ _ s.first_name (named_after_message h.1 defs _)
    (named_after_message h.2 defs _)⟩

end Surroundings

/-- The siblings of the first element of a body may stand in any order: the same first element is handed
out, or the same fault. It is the first element of the body if this is the only one and neither it nor
the envelope is a reference. References may lead from the first element to its siblings, between these
and back, in circles; but not to the body or the envelope, which have the siblings in their order. -/
theorem Envelope.decode_first_of_siblings (s : Surroundings) {siblings siblings' : List (Element × Option String)}
    (hperm : (siblings.map Prod.fst).Perm (siblings'.map Prod.fst)) (hids : (s.tree siblings).ids.Nodup)
    (hfault : called "Fault" siblings = []) (hfirst : called s.first.localName siblings = [])
    (defs : Option Definitions)
    (hreach : ∀ id, s.root.id? = some id ∨ s.body.id? = some id →
      ¬ Partial.Reaches ((s.tree siblings).targets defs) ((s.tree siblings).value defs).body.first id)
    {source source' : String} (hsource : (Xml.read source).events? = some (s.tree siblings).events)
    (hsource' : (Xml.read source').events? = some (s.tree siblings').events) :
    (decode defs source').map bodyElement? = (decode defs source).map bodyElement? ∧
    (s.root.href? = none → s.body.href? = none → called "Body" s.before = [] → called "Body" s.after = [] →
      ∃ v, (decode defs source).map bodyElement? = .ok (some (s.first.localName, v))) := by
  have hcalled : ∀ name, called name siblings = [] → called name siblings' = [] := by
    intro name h
    have hfilter := hperm.filter fun e => e.localName == name
    exact List.nil_perm.mp (h ▸ hfilter)
  rw [decode_tree defs (s.localName_tree _) hsource, decode_tree defs (s.localName_tree _) hsource',
    map_bodyElement?_ofValue, map_bodyElement?_ofValue]
  constructor
  · exact s.firstOf_perm hperm hids ⟨hfault, hfirst⟩ ⟨hcalled _ hfault, hcalled _ hfirst⟩ defs hreach
  · intro hroot hbody hbefore hafter
    exact s.firstOf_of_only_body hroot hbody hbefore hafter ⟨hfault, hfirst⟩ defs

/-! ### An order and two remarks -/

/-- An order with a name, in a body with a name. The order refers to a remark. -/
def remarkedOrder : Surroundings where
  root := .plain "Envelope" none []
  before := []
  after := []
  body := ⟨.unqualified "Body", [("id", "all")], [], none, []⟩
  first := ⟨.unqualified "order", [("id", "o")], [], none,
    [(.plain "id" (some "7") [], none), (⟨.unqualified "note", [("href", "#r")], [], none, []⟩, none)]⟩
  textFirst := none
  textBody := none
  root_name := rfl
  body_name := rfl
  first_name := by decide

/-- A remark that refers to another element, as its field of the given name. -/
def remark (id field href : String) : Element × Option String :=
  (⟨.unqualified id, [("id", id)], [], none, [(⟨.unqualified field, [("href", href)], [], none, []⟩, none)]⟩, none)

/-- Two remarks: each refers to the other. -/
def remarks : List (Element × Option String) := [remark "r" "next" "s", remark "s" "last" "r"]

def remarksText : String :=
  "<Envelope><Body id=\"all\"><order id=\"o\"><id>7</id><note href=\"#r\"/></order>" ++
    "<r id=\"r\"><next href=\"s\"/></r><s id=\"s\"><last href=\"r\"/></s></Body></Envelope>"

/-- The remarks in the other order. -/
def remarksText' : String :=
  "<Envelope><Body id=\"all\"><order id=\"o\"><id>7</id><note href=\"#r\"/></order>" ++
    "<s id=\"s\"><last href=\"r\"/></s><r id=\"r\"><next href=\"s\"/></r></Body></Envelope>"

theorem first_remarkedOrder :
    ((remarkedOrder.tree remarks).value (some orders)).body.first =
      .object [("id", .scalar (.int 7)), ("note", .ref "r")] := by
  have hmessage : (remarkedOrder.tree remarks).message? = some 2 := rfl
  rw [Element.value, hmessage]
  simp [remarkedOrder, Surroundings.tree, Surroundings.bodyTree, remarks, remark, Element.plain, Element.content,
    Element.childValues, Expectation.inside, messageSchema_order, Element.withChildren, Element.size,
    Element.totalSize, Element.localName, QName.unqualified, Element.standIn, Element.attributes]
  rfl

theorem get?_remarks :
    ((remarkedOrder.tree remarks).targets (some orders)).get? "r" = some (.object [("next", .ref "s")]) ∧
    ((remarkedOrder.tree remarks).targets (some orders)).get? "s" = some (.object [("last", .ref "r")]) :=
  ⟨rfl, rfl⟩

/-- Whatever leads to remarks only leads to nothing else. -/
theorem reaches_remarks {node : Partial} {id : String}
    (h : Partial.Reaches ((remarkedOrder.tree remarks).targets (some orders)) node id)
    (hnode : ∀ id, Partial.Mentions node id → id = "r" ∨ id = "s") : id = "r" ∨ id = "s" := by
  induction h with
  | mention h => exact hnode _ h
  | through h htarget hreach ih =>
    apply ih
    intro id hid
    rcases hnode _ h with rfl | rfl
    · rw [get?_remarks.1] at htarget
      obtain rfl := Option.some.inj htarget
      simp [Partial.mentions_object_iff, Partial.mentions_ref_iff] at hid
      exact .inr hid
    · rw [get?_remarks.2] at htarget
      obtain rfl := Option.some.inj htarget
      simp [Partial.mentions_object_iff, Partial.mentions_ref_iff] at hid
      exact .inl hid

/-- The order is the same before remarks in either order, though they refer to each other. -/
theorem Envelope.decode_first_of_siblings_remarks :
    (remarkedOrder.tree remarks).ids.Nodup ∧ called "Fault" remarks = [] ∧ called "order" remarks = [] ∧
    ¬ Partial.Reaches ((remarkedOrder.tree remarks).targets (some orders))
      ((remarkedOrder.tree remarks).value (some orders)).body.first "all" ∧
    (decode (some orders) remarksText').map bodyElement? = (decode (some orders) remarksText).map bodyElement? ∧
    ∃ v, (decode (some orders) remarksText).map bodyElement? = .ok (some ("order", v)) := by
  have hread : (Xml.read remarksText).events? = some (remarkedOrder.tree remarks).events := by decide +kernel
  have hread' : (Xml.read remarksText').events? = some (remarkedOrder.tree remarks.reverse).events := by
    decide +kernel
  have hids : (remarkedOrder.tree remarks).ids.Nodup := by decide
  have hreach : ¬ Partial.Reaches ((remarkedOrder.tree remarks).targets (some orders))
      ((remarkedOrder.tree remarks).value (some orders)).body.first "all" := by
    rw [first_remarkedOrder]
    intro h
    have hremark := reaches_remarks h (by
      intro id hid
      simp [Partial.mentions_object_iff, Partial.mentions_ref_iff, Partial.not_mentions_scalar] at hid
      exact .inl hid)
    revert hremark
    decide
  have hperm : (remarks.map Prod.fst).Perm (remarks.reverse.map Prod.fst) := .swap ..
  have hnames : ∀ id, remarkedOrder.root.id? = some id ∨ remarkedOrder.body.id? = some id →
      ¬ Partial.Reaches ((remarkedOrder.tree remarks).targets (some orders))
        ((remarkedOrder.tree remarks).value (some orders)).body.first id := by
    rintro id (hroot | hbody)
    · cases hroot
    · obtain rfl := Option.some.inj hbody
      exact hreach
  obtain ⟨hsame, hfirst⟩ :=
    decode_first_of_siblings remarkedOrder hperm hids rfl rfl (some orders) hnames hread hread'
  exact ⟨hids, rfl, rfl, hreach, hsame, hfirst rfl rfl rfl rfl⟩

/-! ### A reference to the body -/

/-- A body with a name, whose first element refers to it. -/
def mirror : Surroundings where
  root := .plain "Envelope" none []
  before := []
  after := []
  body := ⟨.unqualified "Body", [("id", "b")], [], none, []⟩
  first := ⟨.unqualified "first", [("href", "#b")], [], none, []⟩
  textFirst := none
  textBody := none
  root_name := rfl
  body_name := rfl
  first_name := by decide

/-- Two elements of one name. -/
def pair (a b : String) : List (Element × Option String) :=
  [(.plain "item" (some a) [], none), (.plain "item" (some b) [], none)]

def mirrorText (a b : String) : String :=
  "<Envelope><Body id=\"b\"><first href=\"#b\"/><item>" ++ a ++ "</item><item>" ++ b ++ "</item></Body></Envelope>"

/-- The first element has the list of the items in it. -/
theorem decode_mirror {text a b : String} (h : (Xml.read text).events? = some (mirror.tree (pair a b)).events) :
    (Envelope.decode none text).map Envelope.bodyElement? =
      .ok (some ("first", .object [("first", .null), ("item", .list [.string a, .string b])])) := by
  have hvalue : (mirror.tree (pair a b)).value none = .object [("Body", .object [("first", .ref "b"),
      ("item", .list [.scalar (.string a), .scalar (.string b)])])] := rfl
  have htargets : (mirror.tree (pair a b)).targets none = [("b", .object [("first", .ref "b"),
      ("item", .list [.scalar (.string a), .scalar (.string b)])])] := rfl
  rw [Envelope.decode_tree none rfl h, htargets, hvalue]
  simp [Partial.resolve, Partial.resolveFields, Partial.resolveItems, OrderedMap.get?]
  rfl

/-- The first element shows the order of its siblings if it refers to the body. -/
theorem Envelope.siblings_shown_in_mirror :
    ((pair "1" "2").map Prod.fst).Perm ((pair "2" "1").map Prod.fst) ∧
    (mirror.tree (pair "1" "2")).ids.Nodup ∧ called "Fault" (pair "1" "2") = [] ∧
    called "first" (pair "1" "2") = [] ∧
    (Xml.read (mirrorText "1" "2")).events? = some (mirror.tree (pair "1" "2")).events ∧
    (Xml.read (mirrorText "2" "1")).events? = some (mirror.tree (pair "2" "1")).events ∧
    (decode none (mirrorText "1" "2")).map bodyElement? ≠ (decode none (mirrorText "2" "1")).map bodyElement? := by
  have hread : (Xml.read (mirrorText "1" "2")).events? = some (mirror.tree (pair "1" "2")).events := by
    decide +kernel
  have hread' : (Xml.read (mirrorText "2" "1")).events? = some (mirror.tree (pair "2" "1")).events := by
    decide +kernel
  refine ⟨.swap .., by decide, rfl, rfl, hread, hread', ?_⟩
  rw [decode_mirror hread, decode_mirror hread']
  simp

end Soap
