import Soap.Proofs.Envelope.Conformance
import Soap.Proofs.Envelope.Growth
import Soap.Proofs.Envelope.Shape

/-!
# Reading what was spelt

A spelt value that fits its description is read back: following the events of its markup adds the
value, with its scalars as they are read back, to the element around it (`follow_element`, and
`follow_fields` for what may be a list). What is proved is one statement for each of the three
recursive readers, about any events that come after; they are joined by the recursion of the value.
-/

namespace Soap

open Xml (Markup isLocalName)
open Xml.Markup (events)
open Decoder (Frame Progress step)

/-! ## Opening and closing -/

/-- An element that was just opened. -/
def Decoder.Frame.opening (name : String) (schema : Option Description) (typed : Bool) : Frame :=
  { name, node := .empty, schema, typed, id := none, href := none }

/-- An element that holds something else. -/
def Decoder.Frame.holding (frame : Frame) (node : Partial) : Frame := { frame with node }

/-- An element with one more child. -/
def Decoder.Frame.adding (parent : Frame) (name : String) (child : Partial) : Frame :=
  parent.holding (parent.node.addChild name child (parent.schema.any (·.isRepeated name)))

/-- A start tag without attributes of its own opens an element of its local name. -/
theorem step_openEvent (defs : Option Definitions) (p : Progress) {tag name : String}
    {attributes : List (String × String)} (htag : IsTagOf tag name)
    (hname : isLocalName name = true) (hattributes : AreDeclarations attributes) :
    step defs p (Xml.openEvent tag attributes) = Decoder.openElement defs p name [] := by
  rw [Xml.openEvent, step, htag.localName hname, Xml.filed_of_declarations hattributes.declare]

/-- No child of the element carries the message: that was met before, or the element is no body. -/
def Decoder.Frame.IsInside (parent : Frame) (met : Bool) : Prop := met = true ∨ parent.name ≠ "Body"

theorem not_carriesMessage {parent : Frame} {met : Bool} (h : parent.IsInside met)
    (opened : List Frame) (targets : OrderedMap String Partial) (name : String) :
    Decoder.carriesMessage ⟨opened, met, targets⟩ parent name = false := by
  rcases h with rfl | h
  · simp [Decoder.carriesMessage]
  · simp [Decoder.carriesMessage, h]

/-- A child is described by its parent, unless it carries the message. -/
theorem openElement_inside (defs : Option Definitions) {parent : Frame} {met : Bool}
    (h : parent.IsInside met) (outer : List Frame) (targets : OrderedMap String Partial)
    (name : String) :
    Decoder.openElement defs ⟨parent :: outer, met, targets⟩ name [] =
      ⟨Frame.opening name (parent.schema.bind (·.child? name)) parent.typed :: parent :: outer, met,
        targets⟩ := by
  simp [Decoder.openElement, not_carriesMessage h, Decoder.localAttribute?, Frame.opening]

/-- An element closes into the one around it. -/
theorem step_stop (defs : Option Definitions) (name : String) (node : Partial)
    (schema : Option Description) (typed : Bool) (parent : Frame) (outer : List Frame) (met : Bool)
    (targets : OrderedMap String Partial) (tag : QName) :
    step defs ⟨(Frame.opening name schema typed).holding node :: parent :: outer, met, targets⟩
      (.stop tag) =
      ⟨parent.adding name (node.close (schema.any Description.isLeaf)) :: outer, met, targets⟩ :=
        rfl

/-- Read inside an element that was just opened, `inside` leaves it to close as `child`. -/
def ClosesAs (defs : Option Definitions) (typed : Bool) (name : String)
    (schema : Option Description) (outer : List Frame) (met : Bool)
    (targets : OrderedMap String Partial) (inside : List Markup) (child : Partial) : Prop :=
  ∃ node, (events inside).foldl (step defs) ⟨Frame.opening name schema typed :: outer, met, targets⟩ =
      ⟨(Frame.opening name schema typed).holding node :: outer, met, targets⟩ ∧
    node.close (schema.any Description.isLeaf) = child

/-- The one text of an element is read as its value. -/
theorem closesAs_text (defs : Option Definitions) (typed : Bool) (name : String)
    (schema : Option Description) (outer : List Frame) (met : Bool)
    (targets : OrderedMap String Partial) (text : String) :
    ClosesAs defs typed name schema outer met targets [.text text]
      (readText typed schema text) := by
  unfold ClosesAs readText
  rw [Xml.Markup.events_text]
  unfold Xml.flushed Xml.flush
  -- Blank text is no event: the element closes as it was opened.
  cases h : Text.trimChars text.toList with
  | nil => exact ⟨.empty, rfl, rfl⟩
  | cons c rest => exact ⟨_, rfl, rfl⟩

/-- An element that was opened joins the one around it. -/
theorem follow_opened {defs : Option Definitions} {name : String} (hname : isLocalName name = true) {parent : Frame}
    {outer : List Frame} {met met' : Bool} {targets : OrderedMap String Partial} {schema : Option Description}
    {typed : Bool}
    (hopen : Decoder.openElement defs ⟨parent :: outer, met, targets⟩ name [] =
      ⟨Frame.opening name schema typed :: parent :: outer, met', targets⟩)
    {child : Partial} {inside : List Markup}
    (hinside : ClosesAs defs typed name schema (parent :: outer) met' targets inside child) {tag : String}
    {attributes : List (String × String)} (htag : IsTagOf tag name) (hattributes : AreDeclarations attributes)
    (more : List Markup) :
    (events (.element tag attributes inside :: more)).foldl (step defs) ⟨parent :: outer, met, targets⟩ =
      (events more).foldl (step defs) ⟨parent.adding name child :: outer, met', targets⟩ := by
  obtain ⟨node, hfold, rfl⟩ := hinside
  rw [Xml.Markup.events_element, List.cons_append, List.foldl_cons, step_openEvent defs _ htag hname hattributes, hopen,
    List.foldl_append, hfold, List.foldl_cons, step_stop]

/-- An element joins the one around it. -/
theorem follow_element {defs : Option Definitions} {name : String} (hname : isLocalName name = true)
    {parent : Frame} {outer : List Frame} {met : Bool} (hparent : parent.IsInside met)
    {targets : OrderedMap String Partial} {child : Partial} {inside : List Markup}
    (hinside : ClosesAs defs parent.typed name (parent.schema.bind (·.child? name)) (parent :: outer) met
      targets inside child)
    {tag : String} {attributes : List (String × String)} (htag : IsTagOf tag name)
    (hattributes : AreDeclarations attributes) (more : List Markup) :
    (events (.element tag attributes inside :: more)).foldl (step defs) ⟨parent :: outer, met, targets⟩ =
      (events more).foldl (step defs) ⟨parent.adding name child :: outer, met, targets⟩ :=
  follow_opened hname (openElement_inside defs hparent outer targets name) hinside htag hattributes more

/-! ## Values -/

/-- What an element holds of a value that is no list. -/
def SpellsInside (inside : List Markup) : Value → Prop
  | .object fields => SpellFields inside fields
  | v => ∃ text, v.scalarText? = some text ∧ inside = [.text text]

variable {typed : Bool} {leaf : Option Description → Value → Prop} {f : Value → Value}

/-- What is neither a list nor nothing is one element. -/
theorem Spells.element {v : Value} (hnull : v ≠ .null) (hlist : ∀ items, v ≠ .list items) {name : String}
    {content : List Markup} (hs : Spells name content v) :
    ∃ tag attributes inside, IsTagOf tag name ∧ AreDeclarations attributes ∧
      content = [.element tag attributes inside] ∧ SpellsInside inside v := by
  have hscalar : ∀ {text}, v.scalarText? = some text → (∀ fields, v ≠ .object fields) →
      ∃ tag attributes inside, IsTagOf tag name ∧ AreDeclarations attributes ∧
        content = [.element tag attributes inside] ∧ SpellsInside inside v := by
    intro text htext hne
    obtain ⟨tag, attributes, htag, hattributes, rfl⟩ := (spells_scalar htext).mp hs
    refine ⟨tag, attributes, _, htag, hattributes, rfl, ?_⟩
    unfold SpellsInside
    split
    · next fields => exact absurd rfl (hne fields)
    · exact ⟨text, htext, rfl⟩
  cases v with
  | null => exact absurd rfl hnull
  | list items => exact absurd rfl (hlist items)
  | object fields =>
    obtain ⟨tag, attributes, inside, htag, hattributes, rfl, hinside⟩ := hs
    exact ⟨tag, attributes, inside, htag, hattributes, rfl, hinside⟩
  | string _ | int _ | float _ | bool _ | dateTime _ => exact hscalar rfl (by simp)

/-- What fits is one element. -/
theorem Fits.spells {s : Option Description} {v : Value} (hfit : Fits leaf s v) {name : String}
    {content : List Markup} (hs : Spells name content v) :
    ∃ tag attributes inside, IsTagOf tag name ∧ AreDeclarations attributes ∧
      content = [.element tag attributes inside] ∧ SpellsInside inside v := by
  apply Spells.element _ _ hs
  · rintro rfl
    exact hfit
  · rintro items rfl
    exact hfit

/-- A value that fits does not come to be a list. -/
theorem Fits.ne_list {s : Option Description} {v : Value} (hfit : Fits leaf s v)
    (hleaf : ReadBack typed leaf f) (inner : List Partial) :
    Partial.ofValue (v.mapScalars f) ≠ .list inner := by
  have hscalar : leaf s v → v.mapScalars f = f v →
    Partial.ofValue (v.mapScalars f) ≠ .list inner := by
    intro h hmap
    -- Whatever text a scalar is read back from, it makes a scalar or something empty.
    obtain ⟨text, -, hread⟩ := hleaf s v h
    rw [hmap, ← hread, readText]
    split <;> simp only [Partial.close]
    · split <;> simp
    · simp
  cases v with
  | null | list _ => exact hfit.elim
  | object fields => simp [Value.mapScalars, Partial.ofValue]
  | string _ | int _ | float _ | bool _ | dateTime _ => exact hscalar hfit rfl

theorem ItemsFit.ne_list {s : Option Description} {items : List Value}
    (hfit : ItemsFit leaf s items) (hleaf : ReadBack typed leaf f) :
    ∀ item ∈ Value.mapItems f items, ∀ inner, Partial.ofValue item ≠ .list inner := by
  induction items with
  | nil => simp [Value.mapItems]
  | cons first rest ih =>
    intro item hitem
    rcases List.mem_cons.mp hitem with rfl | hitem
    · exact hfit.1.ne_list hleaf
    · exact ih hfit.2 item hitem

/-- A scalar closes as it is read back. -/
theorem closesAs_scalar (hleaf : ReadBack typed leaf f) (defs : Option Definitions) (name : String)
    {s : Option Description} {v : Value} (hv : leaf s v) (hmap : v.mapScalars f = f v)
    (hobject : ∀ fields, v ≠ .object fields) {inside : List Markup} (hs : SpellsInside inside v)
    (outer : List Frame) (targets : OrderedMap String Partial) :
    ClosesAs defs typed name s outer true targets inside (.ofValue (v.mapScalars f)) := by
  obtain ⟨text, htext, hread⟩ := hleaf s v hv
  have hinside : inside = [.text text] := by
    unfold SpellsInside at hs
    split at hs
    · next fields => exact absurd rfl (hobject fields)
    · obtain ⟨text', htext', rfl⟩ := hs
      rw [htext] at htext'
      rw [Option.some.inj htext']
  rw [hinside, hmap, ← hread]
  exact closesAs_text defs typed name s outer true targets text

/-- A field that is no list is put under its key. -/
theorem adding_field {parent : Frame} {key : String} {child : Partial}
    (hnew : key ∉ parent.node.fields.keys)
    (hrepeat : parent.schema.any (·.isRepeated key) = false) :
    parent.adding key child = parent.holding (parent.node.put key child) := by
  rw [Decoder.Frame.adding, hrepeat, Partial.addChild_of_not_mem hnew]
  rfl

mutual

/-- The element of a value that fits closes as the value is read back. -/
theorem closesAs_value (hleaf : ReadBack typed leaf f) (defs : Option Definitions) (name : String)
    {s : Option Description} {v : Value} (hfit : Fits leaf s v) {inside : List Markup}
    (hs : SpellsInside inside v) (outer : List Frame) (targets : OrderedMap String Partial) :
    ClosesAs defs typed name s outer true targets inside (.ofValue (v.mapScalars f)) := by
  match v with
  | .null | .list _ => exact hfit.elim
  | .string _ | .int _ | .float _ | .bool _ | .dateTime _ =>
    exact closesAs_scalar hleaf defs name hfit rfl (by simp) hs outer targets
  | .object fields =>
    obtain ⟨hnodup, hnames, hempty, hfields⟩ := hfit
    -- The element was just opened, so all keys are new in it, and it can be told from an empty leaf.
    have hfollow := follow_fields hleaf defs (Frame.opening name s typed) rfl fields hfields hnames
      (by simpa [Frame.opening, Partial.fields] using hnodup) hs outer targets []
    rw [List.append_nil] at hfollow
    refine ⟨_, hfollow, Partial.close_putAll fun h => hempty ?_⟩
    rw [← List.map_eq_nil_iff (f := Prod.fst), ← Value.keys_mapFields f, h]
    rfl

/-- Items that fit join the element around them one by one. -/
theorem follow_items (hleaf : ReadBack typed leaf f) (defs : Option Definitions) {name : String}
    (hname : isLocalName name = true) (parent : Frame) (htyped : parent.typed = typed)
    (items : List Value) (hfit : ItemsFit leaf (parent.schema.bind (·.child? name)) items)
    {content : List Markup} (hs : SpellItems name content items) (outer : List Frame)
    (targets : OrderedMap String Partial) (more : List Markup) :
    (events (content ++ more)).foldl (step defs) ⟨parent :: outer, true, targets⟩ =
      (events more).foldl (step defs)
        ⟨parent.holding (parent.node.addItems name (parent.schema.any (·.isRepeated name))
            (Value.mapItems f items)) :: outer, true, targets⟩ := by
  match items with
  | [] =>
    obtain rfl := hs
    rfl
  | item :: rest =>
    obtain ⟨first, later, rfl, hfirst, hlater⟩ := hs
    obtain ⟨tag, attributes, inside, htag, hattributes, rfl, hinside⟩ := hfit.1.spells hfirst
    have hitem := closesAs_value hleaf defs name hfit.1 hinside (parent :: outer) targets
    rw [← htyped] at hitem
    -- The other items join what the first one left of the element around them.
    rw [List.append_assoc, List.singleton_append,
      follow_element hname (.inl rfl) hitem htag hattributes]
    exact follow_items hleaf defs hname
      (parent.adding name (.ofValue (item.mapScalars f))) htyped rest hfit.2
      hlater outer targets more

/-- Fields that fit are put one after the other. -/
theorem follow_fields (hleaf : ReadBack typed leaf f) (defs : Option Definitions) (parent : Frame)
    (htyped : parent.typed = typed) (fields : List (String × Value))
    (hfit : FieldsFit leaf parent.schema fields)
    (hnames : ∀ key ∈ fields.map Prod.fst, isLocalName key = true)
    (hnew : (parent.node.fields.keys ++ fields.map Prod.fst).Nodup) {content : List Markup}
    (hs : SpellFields content fields) (outer : List Frame) (targets : OrderedMap String Partial)
    (more : List Markup) :
    (events (content ++ more)).foldl (step defs) ⟨parent :: outer, true, targets⟩ =
      (events more).foldl (step defs)
        ⟨parent.holding (parent.node.putAll (Value.mapFields f fields)) :: outer, true, targets⟩ := by
  match fields with
  | [] =>
    obtain rfl := hs
    rfl
  | (key, v) :: rest =>
    obtain ⟨first, later, rfl, hfirst, hlater⟩ := hs
    have hname := hnames key (by simp)
    obtain ⟨hfield, hothers⟩ := fieldsFit_cons.mp hfit
    have hkey : key ∉ parent.node.fields.keys := by
      intro hmem
      exact (List.nodup_append.mp hnew).2.2 key hmem key (by simp) rfl
    have hkeys : (parent.holding (parent.node.put key (.ofValue (v.mapScalars f)))).node.fields.keys =
        parent.node.fields.keys ++ [key] := OrderedMap.keys_append ..
    have hrest := follow_fields hleaf defs
      (parent.holding (parent.node.put key (.ofValue (v.mapScalars f)))) htyped rest hothers
      (fun k hk => hnames k (by simp [hk])) (by rw [hkeys, List.append_assoc]; exact hnew) hlater outer
      targets more
    -- Both kinds of field come to be put under their key.
    suffices hput : (events (first ++ (later ++ more))).foldl (step defs) ⟨parent :: outer, true, targets⟩ =
        (events (later ++ more)).foldl (step defs)
          ⟨parent.holding (parent.node.put key (.ofValue (v.mapScalars f))) :: outer, true, targets⟩ by
      rw [List.append_assoc, hput, hrest]
      rfl
    match v with
    | .list items =>
      rw [follow_items hleaf defs hname parent htyped items hfield.2 hfirst outer targets (later ++ more),
        Partial.addItems_eq_put hkey (Value.tellable_mapItems f hfield.1) (hfield.2.ne_list hleaf)]
      rfl
    | .null | .object _ | .string _ | .int _ | .float _ | .bool _ | .dateTime _ =>
      obtain ⟨tag, attributes, inside, htag, hattributes, rfl, hinside⟩ := hfield.2.spells hfirst
      have hvalue := closesAs_value hleaf defs key hfield.2 hinside (parent :: outer) targets
      rw [← htyped] at hvalue
      rw [List.singleton_append, follow_element hname (.inl rfl) hvalue htag hattributes,
        adding_field hkey hfield.1]

end

/-! ## Writing -/

theorem areWritable_element {tag name : String} {attributes : List (String × String)}
    {inside : List Markup} (htag : IsTagOf tag name) (hname : isLocalName name = true)
    (hattributes : AreDeclarations attributes) (hinside : Markup.AreWritable inside) :
    Markup.AreWritable [.element tag attributes inside] :=
  ⟨⟨htag.isTag hname, hattributes.readable, hinside⟩, trivial⟩

mutual

/-- What is spelt of a value that fits can be written. -/
theorem writable_inside {s : Option Description} {v : Value} (hfit : Fits leaf s v)
    {inside : List Markup} (hs : SpellsInside inside v) : Markup.AreWritable inside := by
  match v with
  | .null | .list _ => exact hfit.elim
  | .string _ | .int _ | .float _ | .bool _ | .dateTime _ =>
    obtain ⟨text, -, rfl⟩ := hs
    exact ⟨trivial, trivial⟩
  | .object fields => exact writable_fields hfit.2.2.2 hfit.2.1 hs

theorem writable_items {s : Option Description} {name : String} (hname : isLocalName name = true)
    {items : List Value} (hfit : ItemsFit leaf s items) {content : List Markup}
    (hs : SpellItems name content items) : Markup.AreWritable content := by
  match items with
  | [] =>
    obtain rfl := hs
    trivial
  | item :: rest =>
    obtain ⟨first, later, rfl, hfirst, hlater⟩ := hs
    obtain ⟨tag, attributes, inside, htag, hattributes, rfl, hinside⟩ := hfit.1.spells hfirst
    exact Xml.Markup.areWritable_append.mpr
      ⟨areWritable_element htag hname hattributes (writable_inside hfit.1 hinside),
        writable_items hname hfit.2 hlater⟩

theorem writable_fields {s : Option Description} {fields : List (String × Value)}
    (hfit : FieldsFit leaf s fields) (hnames : ∀ key ∈ fields.map Prod.fst, isLocalName key = true)
    {content : List Markup} (hs : SpellFields content fields) : Markup.AreWritable content := by
  match fields with
  | [] =>
    obtain rfl := hs
    trivial
  | (key, v) :: rest =>
    obtain ⟨first, later, rfl, hfirst, hlater⟩ := hs
    obtain ⟨hfield, hothers⟩ := fieldsFit_cons.mp hfit
    have hname := hnames key (by simp)
    refine Xml.Markup.areWritable_append.mpr
      ⟨?_, writable_fields hothers (fun k hk => hnames k (by simp [hk])) hlater⟩
    match v with
    | .list items => exact writable_items hname hfield.2 hfirst
    | .null | .object _ | .string _ | .int _ | .float _ | .bool _ | .dateTime _ =>
      obtain ⟨tag, attributes, inside, htag, hattributes, rfl, hinside⟩ := hfield.2.spells hfirst
      exact areWritable_element htag hname hattributes (writable_inside hfield.2 hinside)

end

end Soap
