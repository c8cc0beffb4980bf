import Soap.Proofs.Envelope.Outline
import Soap.Proofs.Envelope.RoundTrip
import Soap.Proofs.Schema.Depth

/-!
# Scalars at any depth

A scalar that stands in a value, however deep, is written as the text of one element, and the names of the
elements around it lead to it (`Value.Holds`). What is read back holds a scalar under the same names, and it is the
same scalar if the description at the end of these names reads its text so (`follow_written`); what stands beside
it does not matter. A description follows its declaration as long as no type is entered twice, so integers,
booleans and timestamps are read back as such at every depth (`scalars_keep_their_types`).
-/

namespace Soap

open Xml (Markup isLocalName)
open Xml.Markup (events)
open Decoder (Frame Progress step)

/-! ## Values in values -/

namespace Value

mutual

/-- The values that are written as one element each where this one is written. -/
def elements : Value → List Value
  | .null => []
  | .list items => elementsOfItems items
  | v@(.object _) | v@(.string _) | v@(.int _) | v@(.float _) | v@(.bool _) | v@(.dateTime _) => [v]

def elementsOfItems : List Value → List Value
  | [] => []
  | item :: rest => elements item ++ elementsOfItems rest

end

/-- Inside the value stands `w`, in fields of these names, from the outermost to the innermost. -/
inductive Holds : Value → List String → Value → Prop where
  | here (w : Value) : Holds w [] w
  | field {fields : List (String × Value)} {name : String} {v item : Value} {names : List String} {w : Value}
      (hfield : (name, v) ∈ fields) (hitem : item ∈ v.elements) (hrest : Holds item names w) :
      Holds (.object fields) (name :: names) w

/-- What holds something by name is an object. -/
theorem Holds.cases {v w : Value} {name : String} {names : List String} (h : v.Holds (name :: names) w) :
    ∃ fields u item, v = .object fields ∧ (name, u) ∈ fields ∧ item ∈ u.elements ∧ item.Holds names w := by
  cases h with
  | field hfield hitem hrest => exact ⟨_, _, _, rfl, hfield, hitem, hrest⟩

end Value

namespace Partial

/-- The nodes that stand under a name. -/
def elements : Partial → List Partial
  | .list items => items
  | node => [node]

/-- Inside a value under construction stands the scalar `w`, in fields of these names. -/
inductive Holds : Partial → List String → Value → Prop where
  | here (w : Value) : Holds (.scalar w) [] w
  | field {node child item : Partial} {name : String} {names : List String} {w : Value}
      (hchild : node.fields.get? name = some child) (hitem : item ∈ child.elements) (hrest : Holds item names w) :
      Holds node (name :: names) w

variable {node child : Partial} {name : String} {names : List String} {w : Value}

/-- What holds a scalar is no list. -/
theorem Holds.elements_eq (h : node.Holds names w) : node.elements = [node] := by
  cases h with
  | here => rfl
  | field hchild _ _ =>
    cases node with
    | list items => cases hchild
    | empty | scalar _ | object _ | ref _ => rfl

/-- Another child takes nothing away. -/
theorem Holds.addChild (h : node.Holds (name :: names) w) (key : String) (child : Partial) (repeatable : Bool) :
    (node.addChild key child repeatable).Holds (name :: names) w := by
  cases h with
  | @field _ old item _ _ _ hchild hitem hrest =>
    by_cases hkey : key = name
    · subst hkey
      have hget : (node.addChild key child repeatable).fields.get? key = some (child.addTo repeatable (some old)) := by
        rw [Partial.addChild, hchild]
        exact OrderedMap.get?_insert_self _ _ _
      apply Holds.field hget _ hrest
      cases old with
      | list items => exact List.mem_append_left _ hitem
      | empty | scalar _ | object _ | ref _ =>
        obtain rfl := List.mem_singleton.mp hitem
        exact List.mem_cons_self
    · have hget : (node.addChild key child repeatable).fields.get? name = some old := by
        rw [← hchild]
        exact OrderedMap.get?_insert_of_ne _ _ hkey
      exact Holds.field hget hitem hrest

/-- What a child holds, its parent holds under the name of the child. -/
theorem Holds.inChild (h : child.Holds names w) (node : Partial) (key : String) (repeatable : Bool) :
    (node.addChild key child repeatable).Holds (key :: names) w := by
  have hget : (node.addChild key child repeatable).fields.get? key =
      some (child.addTo repeatable (node.fields.get? key)) := OrderedMap.get?_insert_self _ _ _
  apply Holds.field hget _ h
  cases node.fields.get? key with
  | none =>
    cases repeatable with
    | true => exact List.mem_singleton_self _
    | false =>
      show child ∈ child.elements
      rw [h.elements_eq]
      exact List.mem_singleton_self _
  | some old =>
    cases old with
    | list items => exact List.mem_append_right _ (List.mem_singleton_self _)
    | empty | scalar _ | object _ | ref _ => exact List.mem_cons_of_mem _ (List.mem_singleton_self _)

/-! ### Complete values -/

/-- What holds a scalar when it is complete is one element. -/
theorem elements_of_holds {v : Value} (h : (ofValue v).Holds names w) : v.elements = [v] := by
  cases v with
  | null =>
    cases h with
    | field hchild _ _ => cases hchild
  | list items =>
    cases h with
    | field hchild _ _ => cases hchild
  | object _ | string _ | int _ | float _ | bool _ | dateTime _ => rfl

/-- What is under a name of a complete value is complete. -/
theorem exists_field_of_ofValue {v : Value} (h : (ofValue v).fields.get? name = some child) :
    ∃ fields u, v = .object fields ∧ (name, u) ∈ fields ∧ child = ofValue u := by
  rw [fields_ofValue, OrderedMap.get?_mapValues] at h
  obtain ⟨u, hu, rfl⟩ := Option.map_eq_some_iff.mp h
  cases v with
  | object fields => exact ⟨fields, u, rfl, OrderedMap.mem_of_get? hu, rfl⟩
  | null | list _ | string _ | int _ | float _ | bool _ | dateTime _ => cases hu

theorem mem_elementsOfItems {items : List Value} {item : Value} (h : item ∈ items) {e : Value}
    (he : e ∈ item.elements) : e ∈ Value.elementsOfItems items := by
  induction items with
  | nil => cases h
  | cons first rest ih =>
    rcases List.mem_cons.mp h with rfl | h
    · exact List.mem_append_left _ he
    · exact List.mem_append_right _ (ih h)

/-- What a complete value holds under construction, it holds. -/
theorem Holds.of_ofValue {v : Value} (h : (ofValue v).Holds names w) : v.Holds names w := by
  generalize hnode : ofValue v = node at h
  induction h generalizing v with
  | here w =>
    have hv : v = w := by
      cases v with
      | null | list _ | object _ => cases hnode
      | string _ | int _ | float _ | bool _ | dateTime _ => exact Partial.scalar.inj hnode
    rw [hv]
    exact .here w
  | @field node child item name names w hchild hitem hrest ih =>
    subst hnode
    obtain ⟨fields, u, rfl, hmem, rfl⟩ := exists_field_of_ofValue hchild
    -- The item is that of a list, or all that stands under the name.
    have hone : ∃ e ∈ u.elements, ofValue e = item := by
      cases u with
      | list items =>
        rw [ofValue, elements, ofItems_eq_map] at hitem
        obtain ⟨e, he, rfl⟩ := List.mem_map.mp hitem
        refine ⟨e, mem_elementsOfItems he ?_, rfl⟩
        rw [elements_of_holds hrest]
        exact List.mem_singleton_self _
      | null | object _ | string _ | int _ | float _ | bool _ | dateTime _ =>
        obtain rfl := List.mem_singleton.mp hitem
        refine ⟨_, ?_, rfl⟩
        rw [elements_of_holds hrest]
        exact List.mem_singleton_self _
    obtain ⟨e, he, rfl⟩ := hone
    exact .field hmem he (ih rfl)

end Partial

/-! ## Reading what was written -/

/-- Under the description `s`, the scalar at the end of the names is read as it was. -/
def Survives (typed : Bool) (s : Option Description) (names : List String) (w : Value) : Prop :=
  ∃ text, w.scalarText? = some text ∧ readText typed (Description.follow s names) text = .ofValue w

/-- The child is what one element is read as that was written of `v`. -/
structure IsReadOf (typed : Bool) (s : Option Description) (v : Value) (child : Partial) : Prop where
  complete : ∃ u, child = .ofValue u
  holds : ∀ {names w}, v.Holds names w → Survives typed s names w → child.Holds names w

/-- A node takes up what was written of fields, and keeps what it has. -/
structure TakesUp (typed : Bool) (s : Option Description) (fields : List (String × Value)) (before after : Partial) :
    Prop where
  complete : (∃ u, before = .ofValue u) → ∃ u, after = .ofValue u
  keeps : ∀ {name names w}, before.Holds (name :: names) w → after.Holds (name :: names) w
  holds : ∀ {name names w}, (Value.object fields).Holds (name :: names) w → Survives typed s (name :: names) w →
    after.Holds (name :: names) w

variable {typed : Bool} {s : Option Description}

/-- Where nothing is written, nothing changes. -/
theorem TakesUp.nothing {fields : List (String × Value)} (h : ∀ field ∈ fields, field.2.elements = [])
    (node : Partial) : TakesUp typed s fields node node where
  complete := id
  keeps := id
  holds hholds := by
    obtain ⟨fields', u, item, hfields, hmem, hitem, -⟩ := hholds.cases
    obtain rfl := Value.object.inj hfields
    rw [h _ hmem] at hitem
    cases hitem

/-- One after the other. -/
theorem TakesUp.append {a b : List (String × Value)} {before between after : Partial}
    (h : TakesUp typed s a before between) (h' : TakesUp typed s b between after) :
    TakesUp typed s (a ++ b) before after where
  complete hbefore := h'.complete (h.complete hbefore)
  keeps hholds := h'.keeps (h.keeps hholds)
  holds hholds hsurvives := by
    obtain ⟨fields, u, item, hfields, hmem, hitem, hrest⟩ := hholds.cases
    obtain rfl := Value.object.inj hfields
    rcases List.mem_append.mp hmem with hmem | hmem
    · exact h'.keeps (h.holds (.field hmem hitem hrest) hsurvives)
    · exact h'.holds (.field hmem hitem hrest) hsurvives

/-- The items of a list are taken up like fields of the same name. -/
theorem TakesUp.list {name : String} {item : Value} {items : List Value} {before after : Partial}
    (h : TakesUp typed s ([(name, item)] ++ [(name, .list items)]) before after) :
    TakesUp typed s [(name, .list (item :: items))] before after where
  complete := h.complete
  keeps := h.keeps
  holds hholds hsurvives := by
    obtain ⟨fields, u, e, hfields, hmem, he, hrest⟩ := hholds.cases
    obtain rfl := Value.object.inj hfields
    obtain ⟨rfl, rfl⟩ := Prod.mk.inj (List.mem_singleton.mp hmem)
    rcases List.mem_append.mp he with he | he
    · exact h.holds (.field List.mem_cons_self he hrest) hsurvives
    · exact h.holds (.field (List.mem_cons_of_mem _ List.mem_cons_self) he hrest) hsurvives

/-- A child is taken up under its name. -/
theorem IsReadOf.takesUp {name : String} {v : Value} {child : Partial}
    (h : IsReadOf typed (s.bind (·.child? name)) v child) (hone : v.elements = [v]) (node : Partial)
    (repeatable : Bool) : TakesUp typed s [(name, v)] node (node.addChild name child repeatable) where
  complete hnode := Partial.IsWhole.addChild hnode h.complete name repeatable
  keeps hholds := hholds.addChild name child repeatable
  holds hholds hsurvives := by
    obtain ⟨fields, u, item, hfields, hmem, hitem, hrest⟩ := hholds.cases
    obtain rfl := Value.object.inj hfields
    obtain ⟨rfl, rfl⟩ := Prod.mk.inj (List.mem_singleton.mp hmem)
    rw [hone] at hitem
    obtain rfl := List.mem_singleton.mp hitem
    exact (h.holds hrest hsurvives).inChild node _ repeatable

/-- A scalar is read by its own description. -/
theorem isReadOf_text {v : Value} {text : String} (htext : v.scalarText? = some text) :
    IsReadOf typed s v (readText typed s text) where
  complete := exists_readText typed s text
  holds hholds hsurvives := by
    cases hholds with
    | field _ _ _ => cases htext
    | here =>
      obtain ⟨text', htext', hread⟩ := hsurvives
      obtain rfl := Option.some.inj (htext.symm.trans htext')
      have hvalue : Partial.ofValue v = .scalar v := by
        cases v with
        | null | list _ | object _ => cases htext
        | string _ | int _ | float _ | bool _ | dateTime _ => rfl
      show (readText typed (Description.follow s []) text).Holds [] v
      rw [hread, hvalue]
      exact .here v

/-- An object is read by its fields. -/
theorem TakesUp.close {fields : List (String × Value)} {node : Partial}
    (h : TakesUp typed s fields .empty node) (isLeaf : Bool) :
    IsReadOf typed s (.object fields) (node.close isLeaf) where
  complete := Partial.IsWhole.close (h.complete Partial.isWhole_empty) isLeaf
  holds {names w} hholds hsurvives := by
    cases names with
    | nil =>
      cases hholds
      obtain ⟨text, htext, -⟩ := hsurvives
      cases htext
    | cons name names =>
      have hnode := h.holds hholds hsurvives
      -- What has a field is not empty, so closing changes nothing.
      cases node with
      | empty =>
        cases hnode with
        | field hchild _ _ => cases hchild
      | scalar _ | object _ | list _ | ref _ => exact hnode

/-! ### The events of what was written -/

/-- Inside an element that was just opened, `inside` can be written and closes as what is read of `v`. -/
def ReadsInside (defs : Option Definitions) (typed : Bool) (inside : List Markup) (v : Value) : Prop :=
  Markup.AreWritable inside ∧
    ∀ name s, ∃ child, IsReadOf typed s v child ∧
      ∀ outer targets, ClosesAs defs typed name s outer true targets inside child

/-- Inside any element, `content` can be written and is taken up as the fields. -/
def IsTakenUp (defs : Option Definitions) (typed : Bool) (content : List Markup) (fields : List (String × Value)) :
    Prop :=
  Markup.AreWritable content ∧
    ∀ parent : Frame, parent.typed = typed → ∃ node, TakesUp typed parent.schema fields parent.node node ∧
      ∀ outer targets more, (events (content ++ more)).foldl (step defs) ⟨parent :: outer, true, targets⟩ =
        (events more).foldl (step defs) ⟨parent.holding node :: outer, true, targets⟩

variable {defs : Option Definitions}

theorem IsTakenUp.append {content content' : List Markup} {fields fields' : List (String × Value)}
    (h : IsTakenUp defs typed content fields) (h' : IsTakenUp defs typed content' fields') :
    IsTakenUp defs typed (content ++ content') (fields ++ fields') := by
  refine ⟨Xml.Markup.areWritable_append.mpr ⟨h.1, h'.1⟩, ?_⟩
  intro parent htyped
  obtain ⟨between, hfirst, hfollow⟩ := h.2 parent htyped
  obtain ⟨node, hlater, hfollow'⟩ := h'.2 (parent.holding between) htyped
  refine ⟨node, hfirst.append hlater, ?_⟩
  intro outer targets more
  rw [List.append_assoc, hfollow, hfollow']
  rfl

/-- Where nothing is written, nothing is taken up. -/
theorem isTakenUp_nil {fields : List (String × Value)} (h : ∀ field ∈ fields, field.2.elements = []) :
    IsTakenUp defs typed [] fields :=
  ⟨trivial, fun parent _ => ⟨parent.node, .nothing h parent.node, fun _ _ _ => rfl⟩⟩

/-- The element of a value is taken up under its name. -/
theorem ReadsInside.isTakenUp {inside : List Markup} {v : Value} (h : ReadsInside defs typed inside v)
    (hone : v.elements = [v]) {name : String} (hname : isLocalName name = true) {tag : String}
    {attributes : List (String × String)} (htag : IsTagOf tag name) (hattributes : AreDeclarations attributes) :
    IsTakenUp defs typed [.element tag attributes inside] [(name, v)] := by
  refine ⟨areWritable_element htag hname hattributes h.1, ?_⟩
  rintro parent rfl
  obtain ⟨child, hchild, hcloses⟩ := h.2 name (parent.schema.bind (·.child? name))
  refine ⟨_, hchild.takesUp hone parent.node (parent.schema.any (·.isRepeated name)), ?_⟩
  intro outer targets more
  rw [List.singleton_append, follow_element hname (.inl rfl) (hcloses (parent :: outer) targets) htag hattributes]
  rfl

theorem readsInside_text {v : Value} {text : String} (htext : v.scalarText? = some text) :
    ReadsInside defs typed [.text text] v :=
  ⟨⟨trivial, trivial⟩, fun name s =>
    ⟨_, isReadOf_text htext, fun outer targets => closesAs_text defs typed name s outer true targets text⟩⟩

theorem IsTakenUp.readsInside {inside : List Markup} {fields : List (String × Value)}
    (h : IsTakenUp defs typed inside fields) : ReadsInside defs typed inside (.object fields) := by
  refine ⟨h.1, ?_⟩
  intro name s
  obtain ⟨node, htakes, hfollow⟩ := h.2 (Frame.opening name s typed) rfl
  refine ⟨_, htakes.close (s.any Description.isLeaf), ?_⟩
  intro outer targets
  have hfold := hfollow outer targets []
  rw [List.append_nil] at hfold
  exact ⟨node, hfold, rfl⟩

mutual

/-- Whatever is spelt of a value is taken up under its name, if its keys are names. -/
theorem isTakenUp_of_spells {name : String} (hname : isLocalName name = true) (v : Value)
    (hkeys : ∀ key ∈ v.allKeys, isLocalName key = true) {content : List Markup} (hs : Spells name content v) :
    IsTakenUp defs typed content [(name, v)] := by
  match v with
  | .null =>
    obtain rfl := hs
    exact isTakenUp_nil (by simp [Value.elements])
  | .list items => exact isTakenUp_of_spellItems hname items hkeys hs
  | .object fields =>
    obtain ⟨tag, attributes, inside, htag, hattributes, rfl, hinside⟩ := hs
    have hfields := isTakenUp_of_spellFields fields hkeys hinside
    exact hfields.readsInside.isTakenUp rfl hname htag hattributes
  | .string _ | .int _ | .float _ | .bool _ | .dateTime _ =>
    obtain ⟨tag, attributes, htag, hattributes, rfl⟩ := hs
    exact (readsInside_text rfl).isTakenUp rfl hname htag hattributes

theorem isTakenUp_of_spellItems {name : String} (hname : isLocalName name = true) (items : List Value)
    (hkeys : ∀ key ∈ Value.keysOfItems items, isLocalName key = true) {content : List Markup}
    (hs : SpellItems name content items) : IsTakenUp defs typed content [(name, .list items)] := by
  match items with
  | [] =>
    obtain rfl := hs
    exact isTakenUp_nil (by simp [Value.elements, Value.elementsOfItems])
  | item :: rest =>
    obtain ⟨first, later, rfl, hfirst, hlater⟩ := hs
    have hitem := isTakenUp_of_spells hname item (fun key hkey => hkeys key (List.mem_append_left _ hkey)) hfirst
    have hrest := isTakenUp_of_spellItems hname rest (fun key hkey => hkeys key (List.mem_append_right _ hkey)) hlater
    obtain ⟨hwritable, hfollow⟩ := hitem.append hrest
    refine ⟨hwritable, ?_⟩
    intro parent htyped
    obtain ⟨node, htakes, hfold⟩ := hfollow parent htyped
    exact ⟨node, htakes.list, hfold⟩

theorem isTakenUp_of_spellFields (fields : List (String × Value))
    (hkeys : ∀ key ∈ Value.keysOfFields fields, isLocalName key = true) {content : List Markup}
    (hs : SpellFields content fields) : IsTakenUp defs typed content fields := by
  match fields with
  | [] =>
    obtain rfl := hs
    exact isTakenUp_nil (by simp)
  | (key, v) :: rest =>
    obtain ⟨first, later, rfl, hfirst, hlater⟩ := hs
    have hfield := isTakenUp_of_spells (hkeys key List.mem_cons_self) v
      (fun k hk => hkeys k (List.mem_cons_of_mem _ (List.mem_append_left _ hk))) hfirst
    have hrest := isTakenUp_of_spellFields rest
      (fun k hk => hkeys k (List.mem_cons_of_mem _ (List.mem_append_right _ hk))) hlater
    exact hfield.append hrest

end

/-- Inside the element of a value stands what is read of it. -/
theorem readsInside_of_spells {v : Value} (hnull : v ≠ .null) (hlist : ∀ items, v ≠ .list items)
    (hkeys : ∀ key ∈ v.allKeys, isLocalName key = true) {inside : List Markup} (hs : SpellsInside inside v) :
    ReadsInside defs typed inside v := by
  cases v with
  | null => exact absurd rfl hnull
  | list items => exact absurd rfl (hlist items)
  | object fields => exact (isTakenUp_of_spellFields fields hkeys hs).readsInside
  | string _ | int _ | float _ | bool _ | dateTime _ =>
    obtain ⟨text, htext, rfl⟩ := hs
    exact readsInside_text htext

/-- A document reads back with every scalar that its description reads as it was, under the same names. -/
theorem decode_holds {table : NamespaceTable} (ht : table.IsClean) {reg : SchemaRegistry} {name : String}
    (hname : isLocalName name = true) (hfault : name ≠ "Fault") {decl : ElementDecl}
    (howners : ∀ u ∈ decl.owners ++ reg.owners, IsWritableUri u) {v : Value} (hnull : v ≠ .null)
    (hlist : ∀ items, v ≠ .list items) (hkeys : ∀ key ∈ v.allKeys, isLocalName key = true) :
    ∃ v', Envelope.decode defs
        (Envelope.render (Markup.renderAll (encodeDocument reg table name decl v).1)
          (encodeDocument reg table name decl v).2 none) = .ok { header := none, body := .object [(name, v')] } ∧
      ∀ names w, v.Holds names w →
        Survives (messageSchema defs name).typed (some (messageSchema defs name).description) names w →
        v'.Holds names w := by
  obtain ⟨hspells, hclean⟩ := spells_encodeDocument (fun u hu => howners u (List.mem_append_right _ hu)) ht name
    (fun u hu => howners u (List.mem_append_left _ hu)) v
  obtain ⟨tag, attributes, inside, htag, hattributes, hcontent, hinside⟩ := hspells.element hnull hlist
  obtain ⟨hwritable, hreads⟩ := readsInside_of_spells hnull hlist hkeys hinside
  obtain ⟨child, hchild, hcloses⟩ := hreads name (some (messageSchema defs name).description)
  obtain ⟨v', rfl⟩ := hchild.complete
  refine ⟨v', ?_, ?_⟩
  · rw [hcontent]
    exact decode_render hclean (readsHeader_none defs) hname hfault htag hattributes hwritable
      fun outer => hcloses outer []
  · intro names w hholds hsurvives
    exact (hchild.holds hholds hsurvives).of_ofValue

/-! ## Scalars that are declared -/

/-- A scalar whose kind can be told from its text: an integer, a truth value, or a timestamp in a year of four
digits. -/
def Value.IsOfKind : ScalarKind → Value → Prop
  | .integer, .int _ => True
  | .boolean, .bool _ => True
  | .dateTime, .dateTime t => 0 ≤ t.year ∧ t.year ≤ 9999
  | _, _ => False

/-- Under a leaf of its kind, a scalar is read as it was. -/
theorem survives_of_isOfKind {names : List String} {type : String}
    (hfollow : Description.follow s names = some (.leaf type)) {kind : ScalarKind}
    (hkind : (Description.leaf type).scalarKind? = some kind) {w : Value} (hw : w.IsOfKind kind) :
    Survives true s names w := by
  have hleaf : IsTypedLeaf (Description.follow s names) w := by
    rw [hfollow]
    cases kind with
    | integer =>
      cases w with
      | int n => exact hkind
      | null | string _ | bool _ | float _ | dateTime _ | list _ | object _ => exact hw.elim
    | boolean =>
      cases w with
      | bool b => exact hkind
      | null | string _ | int _ | float _ | dateTime _ | list _ | object _ => exact hw.elim
    | dateTime =>
      cases w with
      | dateTime t => exact ⟨hkind, hw⟩
      | null | string _ | int _ | float _ | bool _ | list _ | object _ => exact hw.elim
    | text => cases w <;> exact hw.elim
  exact readBack_typed _ w hleaf

/-- A chain of fields that enters no named type twice leads to a scalar of a kind, in the description as in the
schema, however long it is and whatever types recur beside it. So all scalars that stand in a document at the ends of
such chains are read back as what they were, whatever else stands in the document. -/
theorem scalars_keep_their_types :
    (∀ (reg : SchemaRegistry) (decl target : ElementDecl) (names : List String) (entered : List TypeId)
      (kind : ScalarKind), reg.Chain decl names entered target → entered.Nodup → reg.IsScalar target kind →
      ∃ type, Description.follow (some (reg.describeElement decl).2) names = some (.leaf type) ∧
        (Description.leaf type).scalarKind? = some kind) ∧
    ∀ (d : Definitions) (name : String) (m : Message) (ref : ElementRef),
      d.findMessage? name = some m → m.body = .element ref → isLocalName name = true → name ≠ "Fault" →
      ∀ (declarations : List (String × String)) (decl : ElementDecl) (v : Value),
      (∀ entry ∈ (NamespaceTable.ofDeclarations declarations).bindings, IsDeclarable entry) →
      (∀ u ∈ decl.owners ++ d.schemas.owners, IsWritableUri u) →
      v ≠ .null → (∀ items, v ≠ .list items) → (∀ key ∈ v.allKeys, isLocalName key = true) →
      let encoded := encodeDocument d.schemas (.ofDeclarations declarations) name decl v
      ∃ v', Envelope.decode (some d) (Envelope.render (Markup.renderAll encoded.1) encoded.2 none) =
          .ok { header := none, body := .object [(name, v')] } ∧
        ∀ names entered target kind w, d.schemas.Chain ref.decl names entered target → entered.Nodup →
          d.schemas.IsScalar target kind → v.Holds names w → w.IsOfKind kind → v'.Holds names w := by
  constructor
  · intro reg decl target names entered kind hchain hnodup hscalar
    exact SchemaRegistry.follow_scalar hchain hnodup hscalar
  · intro d name m ref hm hbody hname hfault declarations decl v hdeclarations howners hnull hlist hkeys encoded
    have hschema := messageSchema_of_element hm hbody
    have hdescribe : d.describeMessage m = (d.schemas.describeElement ref.decl).2 := by
      rw [Definitions.describeMessage, hbody]
    obtain ⟨v', hdecode, hholds⟩ :=
      decode_holds (.ofDeclarations hdeclarations) hname hfault howners hnull hlist hkeys
    refine ⟨v', hdecode, ?_⟩
    intro names entered target kind w hchain hnodup hscalar hw hkind
    obtain ⟨type, hfollow, hleaf⟩ := SchemaRegistry.follow_scalar hchain hnodup hscalar
    apply hholds names w hw
    rw [hschema, hdescribe]
    exact survives_of_isOfKind hfollow hleaf hkind

/-! ### Boxes in boxes -/

/-- A declaration among the boxes. -/
def boxDecl (name typeRef : String) : ElementDecl :=
  { name, occurs := ⟨none, none⟩, typeRef := some typeRef, inline := none, owner := some "urn:boxes" }

/-- A box knows what it counts, and has a box inside. -/
def boxType : ComplexType := ⟨some "Box", [boxDecl "count" "xsd:int", boxDecl "inner" "b:Box"]⟩

/-- The schema of boxes. -/
def boxes : SchemaRegistry :=
  { schemas := [("urn:boxes", {
      targetNamespace := some "urn:boxes", namespaces := [("b", "urn:boxes")], complexTypes := [("Box", boxType)] })] }

/-- An element with a model in place. -/
def labelled (typeRef : Option String) (fields : List ElementDecl) : ElementDecl :=
  { boxDecl "label" "" with typeRef, inline := some ⟨none, fields⟩ }

theorem boxes_lookup : boxes.lookupType? (some "urn:boxes") "b:Box" = some (.complex boxType, "urn:boxes") := rfl

theorem hasField_count : boxType.HasField (boxDecl "count" "xsd:int") :=
  ⟨by simp [boxType], by simp [boxType, boxDecl], by simp [boxType, boxDecl]; decide⟩

theorem hasField_inner : boxType.HasField (boxDecl "inner" "b:Box") :=
  ⟨by simp [boxType], by simp [boxType, boxDecl], by simp [boxType, boxDecl]; decide⟩

/-- Whatever refers to boxes opens the model of boxes. -/
theorem opens_box (name : String) : boxes.Opens (boxDecl name "b:Box") [("urn:boxes", "Box")] boxType := by
  show boxes.Opens (boxDecl name "b:Box") [("urn:boxes", localPart "b:Box")] boxType
  exact .named rfl boxes_lookup

theorem chain_count (name : String) :
    boxes.Chain (boxDecl name "b:Box") ["count"] [("urn:boxes", "Box")] (boxDecl "count" "xsd:int") :=
  .field (opens_box name) hasField_count (.here _)

/-- The count of the box in a box is reached by entering boxes twice. -/
theorem chain_inner_count (name : String) :
    boxes.Chain (boxDecl name "b:Box") ["inner", "count"] [("urn:boxes", "Box"), ("urn:boxes", "Box")]
      (boxDecl "count" "xsd:int") :=
  .field (opens_box name) hasField_inner (chain_count "inner")

theorem isScalar_int (name : String) : boxes.IsScalar (boxDecl name "xsd:int") .integer := by
  have hkind : ScalarKind.integer = .ofTypeName (localPart "xsd:int") := by decide
  have htype : (boxDecl name "xsd:int").typeRef = some "xsd:int" := rfl
  rw [hkind]
  exact .primitive htype (by decide) (by decide)

/-- The box inside a box is a leaf. -/
theorem describe_box :
    boxes.describeRef [] (some "urn:boxes") "b:Box" =
      .fields [("count", .leaf "xsd:int"), ("inner", .leaf "b:Box")] := by
  have hbox : localPart "b:Box" = "Box" := by decide
  have hint : isPrimitive (localPart "xsd:int") = true := by decide
  have hprimitive : isPrimitive "Box" = false := by decide
  simp [boxDecl, SchemaRegistry.describeDecl, SchemaRegistry.describeRef, hbox, hprimitive, boxes_lookup, boxType,
    SchemaRegistry.describeContent, hint]
  rfl

theorem describe_primitive {name ref : String} (h : isPrimitive (localPart ref) = true) :
    boxes.describeDecl [] (boxDecl name ref) = .leaf ref := by
  rw [boxDecl, SchemaRegistry.describeDecl, SchemaRegistry.describeRef, if_pos h]

/-- The first instant of a year of five digits. -/
def farOff : Timestamp := ⟨{ year := 10000, month := 1, day := 1 }, by decide⟩

theorem readText_farOff :
    readText true (some (.leaf "xsd:dateTime")) farOff.render = .scalar (.string farOff.render) := by
  have hkind : leafKind true (some (.leaf "xsd:dateTime")) = .dateTime := by decide
  have hparse : Timestamp.parse? farOff.render = none := by decide +kernel
  rw [readText_of_isSolid (Value.isSolid_scalarText (v := .dateTime farOff) rfl rfl), hkind, Value.coerce, hparse]
  rfl

/-- Four ways in which the description of a declaration misses a scalar that is declared inside it, and one in which
its text is not read. A type is not described again inside itself; a model in place is not described beside a
reference to a type; a field whose name ends in brackets is taken for a repeatable one; what follows a bar in a
reference is taken for listed values; and no year of five digits is read. -/
theorem scalars_out_of_sight :
    (boxes.Chain (boxDecl "box" "b:Box") ["inner", "count"] [("urn:boxes", "Box"), ("urn:boxes", "Box")]
        (boxDecl "count" "xsd:int") ∧
      boxes.IsScalar (boxDecl "count" "xsd:int") .integer ∧
      Description.follow (some (boxes.describeElement (boxDecl "box" "b:Box")).2) ["inner", "count"] = none) ∧
    (boxes.contentModel? (labelled (some "b:Box") [boxDecl "n" "xsd:int"]) = some ⟨none, [boxDecl "n" "xsd:int"]⟩ ∧
      boxes.IsScalar (boxDecl "n" "xsd:int") .integer ∧
      Description.follow (some (boxes.describeElement (labelled (some "b:Box") [boxDecl "n" "xsd:int"])).2) ["n"] =
        none) ∧
    (boxes.IsScalar (boxDecl "n" "xsd:int") .integer ∧
      Description.follow (some (boxes.describeElement
          (labelled none [boxDecl "n" "xsd:int", boxDecl "n[]" "xsd:boolean"])).2) ["n"] =
        some (.leaf "xsd:boolean")) ∧
    isPrimitive (localPart "a|b:int") = true ∧ ScalarKind.ofTypeName (localPart "a|b:int") = .integer ∧
      (boxes.describeElement (boxDecl "n" "a|b:int")).2.scalarKind? = some .text ∧
      readText true (some (.leaf "xsd:dateTime")) farOff.render ≠ .ofValue (.dateTime farOff) := by
  have hint : isPrimitive (localPart "xsd:int") = true := by decide
  have hboolean : isPrimitive (localPart "xsd:boolean") = true := by decide
  have hbar : isPrimitive (localPart "a|b:int") = true := by decide
  refine ⟨⟨chain_inner_count "box", isScalar_int "count", ?_⟩, ⟨rfl, isScalar_int "n", ?_⟩, ⟨isScalar_int "n", ?_⟩,
    hbar, by decide, ?_, ?_⟩
  · rw [SchemaRegistry.describeElement, boxDecl, SchemaRegistry.describeDecl, describe_box]
    rfl
  · rw [SchemaRegistry.describeElement, labelled, SchemaRegistry.describeDecl]
    show Description.follow (some (boxes.describeRef [] (some "urn:boxes") "b:Box")) ["n"] = none
    rw [describe_box]
    rfl
  · have hlabelled : boxes.describeDecl [] (labelled none [boxDecl "n" "xsd:int", boxDecl "n[]" "xsd:boolean"]) =
        .fields [("n", .leaf "xsd:int"), ("n[]", .leaf "xsd:boolean")] := by
      rw [labelled, SchemaRegistry.describeDecl, SchemaRegistry.describeContent_eq_map, List.map_cons,
        List.map_singleton, describe_primitive hint, describe_primitive hboolean]
      rfl
    rw [SchemaRegistry.describeElement, hlabelled]
    rfl
  · rw [SchemaRegistry.describeElement, describe_primitive hbar]
    decide
  · rw [readText_farOff]
    simp [Partial.ofValue]

/-! ### A crate of boxes -/

/-- The boxes in a crate. -/
def packedDecl : ElementDecl := { boxDecl "box" "b:Box" with occurs := ⟨none, some "unbounded"⟩ }

/-- A crate holds any number of boxes. -/
def crateDecl : ElementDecl := { labelled none [packedDecl] with name := "crate" }

/-- The message that carries a crate. -/
def crateMessage : Message :=
  { name := "Crate", body := .element { decl := crateDecl, qualifier := some "b", space := some "urn:boxes" } }

/-- What is said about crates. -/
def crates : Definitions :=
  { name := none, targetNamespace := some "urn:boxes", namespaces := [("b", "urn:boxes")], schemas := boxes
    messages := [("Crate", crateMessage)], portTypes := [], bindings := [], services := [] }

/-- A crate with two boxes, a box in one of them, and a note that is declared nowhere. -/
def aCrate : Value :=
  .object [
    ("box", .list [
      .object [("count", .int 3), ("inner", .object [("count", .int 4)])],
      .object [("count", .string "many")]]),
    ("note", .string " fragile ")]

theorem chain_crate :
    boxes.Chain crateDecl ["box", "count"] [("urn:boxes", "Box")] (boxDecl "count" "xsd:int") := by
  have hopens : boxes.Opens crateDecl [] ⟨none, [packedDecl]⟩ := .inline rfl rfl
  have hfield : (⟨none, [packedDecl]⟩ : ComplexType).HasField packedDecl :=
    ⟨by simp, by simp, by simp; decide⟩
  have hpacked : boxes.Opens packedDecl [("urn:boxes", "Box")] boxType := by
    show boxes.Opens packedDecl [("urn:boxes", localPart "b:Box")] boxType
    exact .named rfl boxes_lookup
  exact .field hopens hfield (.field hpacked hasField_count (.here _))

theorem holds_aCrate : aCrate.Holds ["box", "count"] (.int 3) := by
  have hcount : (Value.object [("count", .int 3), ("inner", .object [("count", .int 4)])]).Holds ["count"] (.int 3) :=
    .field List.mem_cons_self (List.mem_singleton_self _) (.here _)
  exact .field List.mem_cons_self List.mem_cons_self hcount

/-- The count in a box is described as an integer, and read back as one. -/
theorem scalars_keep_their_types_crate :
    (∃ type, Description.follow (some (boxes.describeElement crateDecl).2) ["box", "count"] = some (.leaf type) ∧
      (Description.leaf type).scalarKind? = some .integer) ∧
    let encoded := encodeDocument boxes (.ofDeclarations crates.namespaces) "crate" crateDecl aCrate
    ∃ v', Envelope.decode (some crates) (Envelope.render (Markup.renderAll encoded.1) encoded.2 none) =
        .ok { header := none, body := .object [("crate", v')] } ∧
      v'.Holds ["box", "count"] (.int 3) := by
  obtain ⟨hdescribes, hreads⟩ := scalars_keep_their_types
  have hnodup : [(("urn:boxes", "Box") : TypeId)].Nodup := by decide
  constructor
  · exact hdescribes boxes crateDecl _ _ _ _ chain_crate hnodup (isScalar_int "count")
  · obtain ⟨v', hdecode, hholds⟩ := hreads crates "crate" crateMessage _ rfl rfl (by decide) (by decide)
      crates.namespaces crateDecl aCrate (by decide) (by decide) nofun nofun (by decide)
    exact ⟨v', hdecode, hholds _ _ _ _ _ chain_crate hnodup (isScalar_int "count") holds_aCrate trivial⟩

end Soap
