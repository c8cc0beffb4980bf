import Soap.Proofs.Envelope.Numbering
import Soap.Proofs.Text.Integer

/-!
# What elements are read as

An element is read as more values than conform to its description: text that is not of the declared type stays
text, a leaf with children is an object, and what occurs twice is a list whether it is declared to or not. But
whatever stands in the element, its value fits the description once each scalar is one that some text is read as
(`Xml.Element.isComplete_content`), if nothing in it is a reference. Such a scalar is read back from its own text
(`readBack_stable`), unless it is a timestamp of a year that is not written with four digits.
-/

namespace Soap

open Xml (Element Event isLocalName)

/-! ## Scalars -/

/-- The timestamps in a value. -/
def Value.timestamps : Value → List Timestamp
  | .dateTime t => [t]
  | .list items => ofItems items
  | .object fields => ofFields fields
  | .null | .string _ | .int _ | .float _ | .bool _ => []
where
  ofItems : List Value → List Timestamp
    | [] => []
    | item :: rest => timestamps item ++ ofItems rest
  ofFields : List (String × Value) → List Timestamp
    | [] => []
    | (_, v) :: rest => timestamps v ++ ofFields rest

/-- What a text is read as: itself, or what its kind makes of it. -/
theorem Value.coerce_cases (kind : ScalarKind) (text : String) :
    Value.coerce kind text = .string text ∨ (∃ n, kind = .integer ∧ Value.coerce kind text = .int n) ∨
      (∃ b, kind = .boolean ∧ Value.coerce kind text = .bool b) ∨
      ∃ t, kind = .dateTime ∧ Value.coerce kind text = .dateTime t := by
  cases kind with
  | integer => cases h : Text.leadingInt64? text.toList <;> simp [Value.coerce, h]
  | boolean => exact .inr (.inr (.inl ⟨_, rfl, rfl⟩))
  | dateTime => cases h : Timestamp.parse? text <;> simp [Value.coerce, h]
  | text => exact .inl rfl

section

variable {typed : Bool} {s : Option Description}

/-- The blanks around a text do not matter. -/
theorem readText_trim (text : String) : readText typed s (Text.trim text) = readText typed s text := by
  unfold readText Text.trim
  rw [String.toList_ofList, Text.trimChars_trimChars]

/-- A scalar that some text is read as. -/
def IsReadLeaf (typed : Bool) (s : Option Description) (v : Value) : Prop := ∃ text, readText typed s text = .scalar v

/-- The scalars that a text is read as. -/
theorem readText_cases {text : String} {v : Value} (h : readText typed s text = .scalar v) :
    v = .string (Text.trim text) ∨ (∃ n, leafKind typed s = .integer ∧ v = .int n) ∨
      (∃ b, leafKind typed s = .boolean ∧ v = .bool b) ∨ ∃ t, leafKind typed s = .dateTime ∧ v = .dateTime t := by
  unfold readText at h
  rw [Text.trim]
  split at h
  · next hnil =>
    rw [hnil]
    rw [Partial.close] at h
    split at h
    · exact .inl (Partial.scalar.inj h).symm
    · cases h
  · rw [Partial.close] at h
    · obtain rfl := Partial.scalar.inj h
      exact Value.coerce_cases _ _
    · exact fun h => by cases h

/-- A scalar that is read of its own text again: it was read of some text, and its year can be written. -/
structure IsStableLeaf (typed : Bool) (s : Option Description) (v : Value) : Prop where
  read : IsReadLeaf typed s v
  year : ∀ t ∈ v.timestamps, 0 ≤ t.year ∧ t.year ≤ 9999

theorem readBack_stable (typed : Bool) : ReadBack typed (IsStableLeaf typed) id := by
  rintro s v ⟨⟨text, hread⟩, hyear⟩
  rcases readText_cases hread with rfl | ⟨n, hkind, rfl⟩ | ⟨b, hkind, rfl⟩ | ⟨t, hkind, rfl⟩
  · -- What stayed text is read as the same text would be.
    refine ⟨_, rfl, ?_⟩
    rw [readText_trim, hread]
    rfl
  · exact ⟨_, rfl, readText_int hkind n⟩
  · exact ⟨_, rfl, readText_bool hkind b⟩
  · exact ⟨_, rfl, readText_dateTime hkind (hyear t (List.mem_singleton_self t))⟩

end

/-! ## Values that fit -/

section

variable {leaf : Option Description → Value → Prop} {s : Option Description}

theorem Fits.of_scalar {v : Value} (h : Partial.ofValue v = .scalar v) (hleaf : leaf s v) : Fits leaf s v := by
  cases v with
  | null | list _ | object _ => cases h
  | string _ | int _ | float _ | bool _ | dateTime _ => exact hleaf

/-- What fits and is not declared to repeat fits as a field. -/
theorem Fits.field {key : String} {v : Value} (hrepeat : s.any (·.isRepeated key) = false)
    (h : Fits leaf (s.bind (·.child? key)) v) : FieldFits leaf s key v := by
  cases v with
  | null | list _ => exact h.elim
  | object _ | string _ | int _ | float _ | bool _ | dateTime _ => exact ⟨hrepeat, h⟩

end

section

variable {leaf leaf' : Option Description → Value → Prop} {P : Timestamp → Prop}

mutual

/-- What fits goes on to fit if its leaves do that have no timestamps but those of the value. -/
theorem Fits.of_timestamps (hleaf : ∀ s v, leaf s v → (∀ t ∈ v.timestamps, P t) → leaf' s v)
    {s : Option Description} {v : Value} (h : Fits leaf s v) (hv : ∀ t ∈ v.timestamps, P t) : Fits leaf' s v := by
  match v with
  | .null | .list _ => exact h.elim
  | .string _ | .int _ | .float _ | .bool _ | .dateTime _ => exact hleaf s _ h hv
  | .object fields => exact ⟨h.1, h.2.1, h.2.2.1, h.2.2.2.of_timestamps hleaf hv⟩

theorem FieldsFit.of_timestamps (hleaf : ∀ s v, leaf s v → (∀ t ∈ v.timestamps, P t) → leaf' s v)
    {s : Option Description} {fields : List (String × Value)} (h : FieldsFit leaf s fields)
    (hfields : ∀ t ∈ Value.timestamps.ofFields fields, P t) : FieldsFit leaf' s fields := by
  match fields with
  | [] => trivial
  | (key, v) :: rest =>
    obtain ⟨hfield, hrest⟩ := fieldsFit_cons.mp h
    have hv : ∀ t ∈ v.timestamps, P t := fun t ht => hfields t (List.mem_append_left _ ht)
    refine fieldsFit_cons.mpr ⟨?_, hrest.of_timestamps hleaf fun t ht => hfields t (List.mem_append_right _ ht)⟩
    match v with
    | .list items => exact ⟨hfield.1, hfield.2.of_timestamps hleaf hv⟩
    | .null | .object _ | .string _ | .int _ | .float _ | .bool _ | .dateTime _ =>
      exact ⟨hfield.1, hfield.2.of_timestamps hleaf hv⟩

theorem ItemsFit.of_timestamps (hleaf : ∀ s v, leaf s v → (∀ t ∈ v.timestamps, P t) → leaf' s v)
    {s : Option Description} {items : List Value} (h : ItemsFit leaf s items)
    (hitems : ∀ t ∈ Value.timestamps.ofItems items, P t) : ItemsFit leaf' s items := by
  match items with
  | [] => trivial
  | item :: rest =>
    exact ⟨h.1.of_timestamps hleaf fun t ht => hitems t (List.mem_append_left _ ht),
      h.2.of_timestamps hleaf fun t ht => hitems t (List.mem_append_right _ ht)⟩

end

end

/-- An element without children is read by its text. -/
theorem Expectation.content_nil (x : Expectation) {text : Option String}
    (htext : ∀ t ∈ text, t ≠ "" ∧ Text.trim t = t) :
    x.content text [] = readText x.typed x.schema (text.getD "") := by
  cases text with
  | none => rfl
  | some t =>
    obtain ⟨hne, htrim⟩ := htext t rfl
    rw [Option.getD_some, readText_of_ne_empty hne htrim]
    rfl

/-! ## Complete nodes -/

namespace Partial

variable {leaf : Option Description → Value → Prop} {s : Option Description}

/-- The node has nothing left to do, and its value fits. -/
def IsComplete (leaf : Option Description → Value → Prop) (s : Option Description) (node : Partial) : Prop :=
  ∃ v, node = ofValue v ∧ Fits leaf s v

/-- An element with one text, or none, is complete. -/
theorem isComplete_readText (typed : Bool) (s : Option Description) (text : String) :
    (readText typed s text).IsComplete (IsReadLeaf typed) s := by
  have hscalar : ∀ {w}, readText typed s text = .scalar w →
      (readText typed s text).IsComplete (IsReadLeaf typed) s := by
    intro w hread
    have hw : ofValue w = .scalar w := by
      rcases readText_cases hread with rfl | ⟨_, _, rfl⟩ | ⟨_, _, rfl⟩ | ⟨_, _, rfl⟩ <;> rfl
    exact ⟨w, hread.trans hw.symm, .of_scalar hw ⟨text, hread⟩⟩
  -- Without text, the description tells a leaf from an object.
  cases hblank : Text.trimChars text.toList with
  | cons c rest =>
    apply hscalar
    rw [readText, hblank, close]
    exact fun h => by cases h
  | nil =>
    have hclose : readText typed s text = empty.close (s.any Description.isLeaf) := by rw [readText, hblank]
    cases hleaf : s.any Description.isLeaf with
    | true =>
      apply hscalar
      rw [hclose, hleaf]
      rfl
    | false =>
      refine ⟨.object [], ?_, List.nodup_nil, by simp, fun _ => hleaf, trivial⟩
      rw [hclose, hleaf]
      rfl

theorem exists_items {nodes : List Partial} (h : ∀ node ∈ nodes, node.IsComplete leaf s) :
    ∃ items, nodes = ofItems items ∧ ItemsFit leaf s items := by
  induction nodes with
  | nil => exact ⟨[], rfl, trivial⟩
  | cons node rest ih =>
    obtain ⟨v, rfl, hv⟩ := h node List.mem_cons_self
    obtain ⟨items, rfl, hitems⟩ := ih fun node hnode => h node (List.mem_cons_of_mem _ hnode)
    exact ⟨v :: items, rfl, hv, hitems⟩

/-- Complete children of one name are a complete field. -/
theorem exists_gather {key : String} {nodes : List Partial} (hne : nodes ≠ [])
    (h : ∀ node ∈ nodes, node.IsComplete leaf (s.bind (·.child? key))) :
    ∃ v, gather (s.any (·.isRepeated key)) nodes = ofValue v ∧ FieldFits leaf s key v := by
  obtain ⟨items, rfl, hitems⟩ := exists_items h
  match items with
  | [] => exact absurd rfl hne
  | [v] =>
    cases hrepeat : s.any (·.isRepeated key) with
    | true => exact ⟨.list [v], rfl, by rw [hrepeat, if_pos rfl]; exact List.cons_ne_nil _ _, hitems⟩
    | false => exact ⟨v, rfl, hitems.1.field hrepeat⟩
  | first :: second :: rest =>
    refine ⟨.list (first :: second :: rest), rfl, ?_, hitems⟩
    split
    · exact List.cons_ne_nil _ _
    · simp

/-- Complete children are collected to complete fields. -/
theorem exists_collect {children : List (String × Partial)}
    (h : ∀ child ∈ children, child.2.IsComplete leaf (s.bind (·.child? child.1))) :
    ∃ fields, collect s children = ofFields fields ∧ fields.map Prod.fst = (children.map Prod.fst).eraseDups ∧
      FieldsFit leaf s fields := by
  -- By induction over the names, each of which is that of a child.
  suffices hnames : ∀ names : List String, (∀ name ∈ names, name ∈ children.map Prod.fst) →
      ∃ fields, names.map (fun name => (name, gather (s.any (·.isRepeated name)) (named name children))) =
        ofFields fields ∧ fields.map Prod.fst = names ∧ FieldsFit leaf s fields from
    hnames _ fun name hname => List.mem_eraseDups.mp hname
  intro names
  induction names with
  | nil => exact fun _ => ⟨[], rfl, rfl, trivial⟩
  | cons name rest ih =>
    intro hmem
    have hne : named name children ≠ [] := fun hnil => named_eq_nil_iff.mp hnil (hmem name List.mem_cons_self)
    obtain ⟨v, hv, hfield⟩ := exists_gather hne fun node hnode => h _ (mem_named.mp hnode)
    obtain ⟨fields, hfields, hkeys, hfit⟩ := ih fun other hother => hmem other (List.mem_cons_of_mem _ hother)
    refine ⟨(name, v) :: fields, ?_, ?_, fieldsFit_cons.mpr ⟨hfield, hfit⟩⟩
    · rw [List.map_cons, hv, hfields, ofFields]
    · rw [List.map_cons, hkeys]

/-- What stands in an element is complete if its children are. -/
theorem isComplete_content (x : Expectation) {text : Option String}
    (htext : ∀ t ∈ text, t ≠ "" ∧ Text.trim t = t) {children : List (String × Partial)}
    (hchildren : ∀ child ∈ children, isLocalName child.1 = true ∧
      child.2.IsComplete (IsReadLeaf x.typed) (x.schema.bind (·.child? child.1))) :
    (x.content text children).IsComplete (IsReadLeaf x.typed) x.schema := by
  cases children with
  | nil =>
    rw [x.content_nil htext]
    exact isComplete_readText x.typed x.schema _
  | cons first rest =>
    obtain ⟨fields, hfields, hkeys, hfit⟩ := exists_collect fun child hchild => (hchildren child hchild).2
    refine ⟨.object fields, congrArg Partial.object hfields, ?_, ?_, ?_, hfit⟩
    · rw [hkeys]
      exact nodup_eraseDups _
    · intro key hkey
      rw [hkeys, List.mem_eraseDups] at hkey
      obtain ⟨child, hchild, rfl⟩ := List.mem_map.mp hkey
      exact (hchildren child hchild).1
    · rintro rfl
      rw [List.map_nil, List.map_cons, List.eraseDups_cons] at hkeys
      cases hkeys

end Partial

/-! ## Trees -/

namespace Xml.Element

/-- An element and those in it. -/
def elements : Element → List Element
  | ⟨name, attributes, declarations, text, children⟩ =>
    ⟨name, attributes, declarations, text, children⟩ :: ofChildren children
where
  ofChildren : List (Element × Option String) → List Element
    | [] => []
    | (child, _) :: rest => elements child ++ ofChildren rest

theorem elements_eq (e : Element) : e.elements = e :: elements.ofChildren e.children := by
  cases e
  rw [elements, children]

theorem mem_elements_self (e : Element) : e ∈ e.elements := by
  rw [elements_eq]
  exact List.mem_cons_self

mutual

/-- The texts of elements are events. -/
theorem mem_events_of_text {root e : Element} (he : e ∈ root.elements) {t : String} (ht : e.text = some t) :
    Event.text t ∈ root.events := by
  match root with
  | ⟨name, attributes, declarations, text, children⟩ =>
    rw [events]
    apply List.mem_cons_of_mem
    rcases List.mem_cons.mp he with rfl | he
    · obtain rfl : text = some t := ht
      simp [textEvents]
    · have := mem_childEvents_of_text he ht
      simp [this]

theorem mem_childEvents_of_text {children : List (Element × Option String)} {e : Element}
    (he : e ∈ elements.ofChildren children) {t : String} (ht : e.text = some t) :
    Event.text t ∈ childEvents children := by
  match children with
  | [] => cases he
  | (child, gap) :: rest =>
    rw [childEvents]
    rcases List.mem_append.mp he with he | he
    · have := mem_events_of_text he ht
      simp [this]
    · have := mem_childEvents_of_text he ht
      simp [this]

end

/-- An element that stands for itself, under a name that can be written. -/
structure IsPlain (e : Element) : Prop where
  inPlace : e.href? = none
  name : isLocalName e.localName = true
  text : ∀ t ∈ e.text, t ≠ "" ∧ Text.trim t = t

variable {defs : Option Definitions} {message : Option Nat}

mutual

/-- Whatever stands in an element is complete, unless something in it carries the message. -/
theorem isComplete_content (x : Expectation) {n : Nat} (e : Element) (hmessage : ∀ k, message = some k → k ≤ n)
    (he : ∀ inner ∈ e.elements, inner.IsPlain) :
    (e.content defs message x n).IsComplete (IsReadLeaf x.typed) x.schema := by
  match e with
  | ⟨name, attributes, declarations, text, children⟩ =>
    rw [content]
    apply Partial.isComplete_content x (he _ List.mem_cons_self).text
    exact isComplete_childValues x children (fun k hk => Nat.lt_succ_of_le (hmessage k hk))
      fun inner hinner => he inner (List.mem_cons_of_mem _ hinner)

theorem isComplete_childValues (x : Expectation) {n : Nat} (children : List (Element × Option String))
    (hmessage : ∀ k, message = some k → k < n) (hchildren : ∀ inner ∈ elements.ofChildren children, inner.IsPlain) :
    ∀ child ∈ childValues defs message x n children, isLocalName child.1 = true ∧
      child.2.IsComplete (IsReadLeaf x.typed) (x.schema.bind (·.child? child.1)) := by
  match children with
  | [] => simp [childValues]
  | (e, _) :: rest =>
    have he : ∀ inner ∈ e.elements, inner.IsPlain := fun inner hinner =>
      hchildren inner (List.mem_append_left _ hinner)
    have hself : e.IsPlain := he e e.mem_elements_self
    have hne : message ≠ some n := fun h => Nat.lt_irrefl n (hmessage n h)
    -- No child carries the message, so each is read as the element around it says.
    intro child hchild
    rw [childValues, e.standIn_of_href?_eq_none hself.inPlace, Expectation.inside, if_neg hne] at hchild
    rcases List.mem_cons.mp hchild with rfl | hchild
    · exact ⟨hself.name, isComplete_content (x.child e.localName) e (fun k hk => Nat.le_of_lt (hmessage k hk)) he⟩
    · exact isComplete_childValues x rest (fun k hk => Nat.lt_add_right _ (hmessage k hk))
        (fun inner hinner => hchildren inner (List.mem_append_right _ hinner)) child hchild

end

end Xml.Element

end Soap
