import Soap.Proofs.Envelope.Fault
import Soap.Proofs.Envelope.Image

/-!
# Writing what was read

The first element of a body, as it was decoded, can be written and decoded again, and nothing changes
(`decode_encode_decoded`). The element carries the message again, so it is read by the same schema, and whatever
was read by a schema is read back by it. Elements of the same name that follow it in the body make a list with it;
they were read by no schema, and so they are again.
-/

namespace Soap

open Xml (Element Markup isLocalName)
open Xml.Element (called childOffers childValues documentEvents documentMessage? documentTargets documentValues)
open Xml.Markup (events)
open Decoder (Frame step)

/-! ## The first element of a body -/

/-- What can stand in a body under the name of its first element: a value that is read as the message says, or a
list that begins with one. -/
inductive FitsBody (leaf : Bool → Option Description → Value → Prop) (defs : Option Definitions) (name : String) :
    Value → Prop where
  | one {v : Value}
      (hv : Fits (leaf (messageSchema defs name).typed) (some (messageSchema defs name).description) v) :
      FitsBody leaf defs name v
  | several {first : Value} {rest : List Value}
      (hfirst : Fits (leaf (messageSchema defs name).typed) (some (messageSchema defs name).description) first)
      (hrest : ItemsFit (leaf true) (Decoder.body.schema.bind (·.child? name)) rest) (hne : rest ≠ []) :
      FitsBody leaf defs name (.list (first :: rest))

section

variable {leaf leaf' : Bool → Option Description → Value → Prop} {defs : Option Definitions} {name : String}

theorem FitsBody.of_timestamps {P : Timestamp → Prop}
    (hleaf : ∀ typed s v, leaf typed s v → (∀ t ∈ v.timestamps, P t) → leaf' typed s v) {v : Value}
    (h : FitsBody leaf defs name v) (hv : ∀ t ∈ v.timestamps, P t) : FitsBody leaf' defs name v := by
  cases h with
  | one h => exact .one (h.of_timestamps (hleaf _) hv)
  | several hfirst hrest hne =>
    apply FitsBody.several _ _ hne
    · exact hfirst.of_timestamps (hleaf _) fun t ht => hv t (List.mem_append_left _ ht)
    · exact hrest.of_timestamps (hleaf _) fun t ht => hv t (List.mem_append_right _ ht)

end

/-- Several children of a new key are put under it as a list. -/
theorem Decoder.Frame.adding_items {parent : Frame} {key : String} (hnew : key ∉ parent.node.fields.keys)
    (hrepeat : parent.schema.any (·.isRepeated key) = false) {first : Value} {rest : List Value} (hne : rest ≠ [])
    (hflat : ∀ item ∈ first :: rest, ∀ inner, Partial.ofValue item ≠ .list inner) :
    let more := parent.adding key (.ofValue first)
    more.holding (more.node.addItems key (more.schema.any (·.isRepeated key)) rest) =
      parent.holding (parent.node.put key (.ofValue (.list (first :: rest)))) := by
  intro more
  have hmore : more = parent.holding (parent.node.addChild key (.ofValue first) false) := by
    rw [← hrepeat]
    rfl
  have hlength : 2 ≤ (first :: rest).length := Nat.succ_le_succ (List.length_pos_of_ne_nil hne)
  have hput : parent.node.addItems key false (first :: rest) =
      parent.node.put key (.ofValue (.list (first :: rest))) :=
    Partial.addItems_eq_put hnew hlength hflat
  rw [← hput, hmore]
  show parent.holding (Partial.addItems _ key (parent.schema.any (·.isRepeated key)) rest) = _
  rw [hrepeat]
  rfl

section

variable {leaf : Bool → Option Description → Value → Prop} {defs : Option Definitions} {name : String}
  (hleaf : ∀ typed, ReadBack typed (leaf typed) id) (hname : isLocalName name = true) (hfault : name ≠ "Fault")

include hleaf hname hfault

/-- Several elements of one name are read one after the other. -/
theorem readsBody_several {first : Value} {rest : List Value}
    (hfirst : Fits (leaf (messageSchema defs name).typed) (some (messageSchema defs name).description) first)
    (hrest : ItemsFit (leaf true) (Decoder.body.schema.bind (·.child? name)) rest) (hne : rest ≠ [])
    {tag : String} {attributes : List (String × String)} {inside later : List Markup} (htag : IsTagOf tag name)
    (hattributes : AreDeclarations attributes) (hinside : SpellsInside inside first)
    (hlater : SpellItems name later rest) :
    ReadsBody defs (.element tag attributes inside :: later) (.object [(name, .list (first :: rest))]) := by
  intro outer
  have hcloses := closesAs_value (hleaf _) defs name hfirst hinside (Decoder.body :: outer) []
  rw [Value.mapScalars_id] at hcloses
  -- The message was met with the first element, so the others are read as the body says.
  have hitems := follow_items (hleaf true) defs hname (Decoder.body.adding name (.ofValue first)) rfl rest hrest hlater
    outer [] []
  rw [List.append_nil, Value.mapItems_id] at hitems
  have hflat : ∀ item ∈ first :: rest, ∀ inner, Partial.ofValue item ≠ .list inner := by
    intro item hitem
    rcases List.mem_cons.mp hitem with rfl | hitem
    · simpa using hfirst.ne_list (hleaf _)
    · simpa using hrest.ne_list (hleaf true) item (by simpa using hitem)
  refine ⟨Decoder.body.node.put name (.ofValue (.list (first :: rest))), true, ?_, rfl⟩
  rw [follow_opened hname (openElement_message defs hfault outer) hcloses htag hattributes, hitems,
    Frame.adding_items List.not_mem_nil (body_isRepeated name) hne hflat]
  rfl

/-- What fits a body is read back in it. -/
theorem readsBody_of_spells {v : Value} (hv : FitsBody leaf defs name v) {content : List Markup}
    (hs : Spells name content v) : Markup.AreWritable content ∧ ReadsBody defs content (.object [(name, v)]) := by
  cases hv with
  | one hv =>
    obtain ⟨tag, attributes, inside, htag, hattributes, rfl, hinside⟩ := hv.spells hs
    refine ⟨areWritable_element htag hname hattributes (writable_inside hv hinside), ?_⟩
    apply readsBody_only hname (openElement_message defs hfault) htag hattributes
    intro outer
    have hcloses := closesAs_value (hleaf _) defs name hv hinside outer []
    rwa [Value.mapScalars_id] at hcloses
  | several hfirst hrest hne =>
    obtain ⟨content, later, rfl, hcontent, hlater⟩ := hs
    obtain ⟨tag, attributes, inside, htag, hattributes, rfl, hinside⟩ := hfirst.spells hcontent
    refine ⟨Xml.Markup.areWritable_append.mpr ⟨?_, writable_items hname hrest hlater⟩, ?_⟩
    · exact areWritable_element htag hname hattributes (writable_inside hfirst hinside)
    · exact readsBody_several hleaf hname hfault hfirst hrest hne htag hattributes hinside hlater

/-- What fits a body is read back from an envelope around it. -/
theorem decode_render_of_fitsBody {table : NamespaceTable} (ht : table.IsClean) {v : Value}
    (hv : FitsBody leaf defs name v) {content : List Markup} (hs : Spells name content v) :
    Envelope.decode defs (Envelope.render (Markup.renderAll content) table none) =
      .ok { header := none, body := .object [(name, v)] } := by
  obtain ⟨hwritable, hbody⟩ := readsBody_of_spells hleaf hname hfault hv hs
  exact decode_render_field ht (readsHeader_none defs) hwritable hfault hbody

end

/-! ## Documents with one body -/

/-- An only child is its own field. -/
theorem Partial.collect_singleton {schema : Option Description} {name : String}
    (hrepeat : schema.any (·.isRepeated name) = false) (child : Partial) :
    collect schema [(name, child)] = [(name, child)] := by
  have hnamed : named name [(name, child)] = [child] := by simp [named]
  rw [collect, List.map_cons, List.map_nil, List.eraseDups_cons, List.filter_nil, List.eraseDups_nil, List.map_cons,
    List.map_nil, hnamed, hrepeat]
  rfl

namespace Xml.Element

/-- The element is an envelope, with a body as its only child. -/
structure IsEnvelopeOf (root body : Element) : Prop where
  rootName : root.localName = "Envelope"
  bodyName : body.localName = "Body"
  only : ∃ gap, root.children = [(body, gap)]

/-- What is in the body is in the envelope. -/
theorem IsEnvelopeOf.mem_elements {root body : Element} (h : root.IsEnvelopeOf body) {e : Element}
    (he : e ∈ body.elements) : e ∈ root.elements := by
  obtain ⟨-, -, after, honly⟩ := h
  rw [elements_eq, honly]
  exact List.mem_cons_of_mem _ (List.mem_append_left _ he)

/-- The message is the first element in the body that is no fault. -/
theorem IsEnvelopeOf.message? {root body : Element} (h : root.IsEnvelopeOf body) (gap : Option String) :
    documentMessage? [(root, gap)] = (childOffers "Body" 2 body.children).head? := by
  obtain ⟨hroot, hbody, after, honly⟩ := h
  simp [documentMessage?, childOffers, offers_eq, hroot, hbody, honly, ownOffer]

end Xml.Element

/-- How the children of a body are read, other than the message. -/
def Expectation.body : Expectation := (Expectation.outermost.child "Envelope").child "Body"

/-- What stands in the only body of a document. -/
def Xml.Element.inBody (defs : Option Definitions) (body : Element) : Partial :=
  Expectation.body.content body.text (childValues defs (childOffers "Body" 2 body.children).head? .body 2 body.children)

namespace Envelope

/-- A body is handed out exactly if there is no fault in it. -/
theorem ofValue_body_eq_ok_iff {body : Value} {envelope : Envelope} :
    ofValue (.object [("Body", body)]) = .ok envelope ↔
      body.get? "Fault" = none ∧ envelope = { header := none, body } := by
  have hbody : bodyOf (.object [("Body", body)]) = body := rfl
  have hheader : (Value.object [("Body", body)]).get? "Header" = none := rfl
  unfold ofValue Decoder.faultOf?
  rw [hbody, hheader]
  cases body.get? "Fault" with
  | some fault => simp
  | none => simp [eq_comm]

section

variable {defs : Option Definitions} {text : String} {lead gap : Option String} {root body : Element}
  (hread : (Xml.read text).events? = some (documentEvents lead [(root, gap)])) (h : root.IsEnvelopeOf body)
  (hroot : root.href? = none) (hbody : body.href? = none)

include hread h hroot hbody

/-- What is decoded of an envelope with one body is what stands in the body. -/
theorem decode_body :
    decode defs text =
      ofValue (.object [("Body", (body.inBody defs).resolve (documentTargets defs [(root, gap)]) [])]) := by
  let message := (childOffers "Body" 2 body.children).head?
  have hmessage : documentMessage? [(root, gap)] = message := h.message? gap
  have hlate : ∀ k < 2, ¬ message = some k := by
    intro k hk hfound
    have := (Element.mem_childOffers body.children (List.mem_of_mem_head? hfound)).1
    omega
  obtain ⟨hrootName, hbodyName, after, honly⟩ := h
  -- Both the root and the body are read as the shape of envelopes says.
  have hrootContent : root.content defs message (Expectation.outermost.child "Envelope") 0 =
      .object [("Body", body.inBody defs)] := by
    rw [Element.content_eq, honly, childValues, childValues, body.standIn_of_href?_eq_none hbody, hbodyName,
      Expectation.inside, if_neg (hlate 1 (by decide)), Element.content_eq]
    exact congrArg Partial.object (Partial.collect_singleton rfl _)
  have hvalues : documentValues defs [(root, gap)] = [("Envelope", .object [("Body", body.inBody defs)])] := by
    rw [documentValues, hmessage, childValues, childValues, root.standIn_of_href?_eq_none hroot, hrootName,
      Expectation.inside, if_neg (hlate 0 (by decide)), hrootContent]
  have hcollect : Partial.collect (some overlay) [("Envelope", .object [("Body", body.inBody defs)])] =
      [("Envelope", .object [("Body", body.inBody defs)])] := Partial.collect_singleton rfl _
  rw [decode_document defs hread, hvalues, hcollect]
  simp [OrderedMap.get?, Partial.resolve, Partial.resolveFields]

/-- An envelope with one body is decoded exactly if there is no fault in the body. -/
theorem decode_eq_ok_iff {envelope : Envelope} :
    decode defs text = .ok envelope ↔ called "Fault" body.children = [] ∧
      envelope = { header := none, body := (body.inBody defs).resolve (documentTargets defs [(root, gap)]) [] } := by
  let targets := documentTargets defs [(root, gap)]
  have hsome : (((body.inBody defs).resolve targets []).get? "Fault").isSome = true ↔
      called "Fault" body.children ≠ [] := Element.isSome_get?_content ..
  have hfault := not_iff_not.mp (hsome.symm.trans Option.isSome_iff_ne_none)
  rw [decode_body hread h hroot hbody, ofValue_body_eq_ok_iff, hfault]

end

end Envelope

section

variable {defs : Option Definitions} {first : Element} {rest : List (Element × Option String)}

/-- The first child of a body, with those of its name, fits the body. -/
theorem fitsBody_of_children (hfirst : ∀ inner ∈ first.elements, inner.IsPlain)
    (hrest : ∀ inner ∈ Element.elements.ofChildren rest, inner.IsPlain) (targets : OrderedMap String Partial) :
    let name := first.localName
    let node := first.content defs (some 2) (.ofMessage (messageSchema defs name)) 2
    let nodes := Partial.named name (childValues defs (some 2) .body (2 + first.size) rest)
    FitsBody IsReadLeaf defs name ((Partial.gather false (node :: nodes)).resolve targets []) := by
  intro name node nodes
  -- The first child is read as its message says, the others of its name as the body says.
  have hnode : node.IsComplete (IsReadLeaf (messageSchema defs name).typed)
      (some (messageSchema defs name).description) := by
    apply Element.isComplete_content (.ofMessage (messageSchema defs name)) first _ hfirst
    rintro k ⟨⟩
    exact Nat.le_refl 2
  have hnodes : ∀ child ∈ nodes, child.IsComplete (IsReadLeaf true) (Decoder.body.schema.bind (·.child? name)) := by
    intro child hchild
    refine (Element.isComplete_childValues .body rest ?_ hrest _ (Partial.mem_named.mp hchild)).2
    rintro k ⟨⟩
    exact Nat.lt_add_of_pos_right first.size_pos
  obtain ⟨v, hv, hfit⟩ := hnode
  obtain ⟨items, hitems, hfits⟩ := Partial.exists_items hnodes
  rw [hv, hitems]
  match items with
  | [] =>
    show FitsBody _ _ _ ((Partial.ofValue v).resolve targets [])
    rw [Partial.resolve_ofValue]
    exact .one hfit
  | item :: more =>
    show FitsBody _ _ _ ((Partial.ofValue (.list (v :: item :: more))).resolve targets [])
    rw [Partial.resolve_ofValue]
    exact .several hfit hfits (List.cons_ne_nil _ _)

/-- The first child of a body carries the message if it is no fault, and is the first field of the body. -/
theorem head?_resolve_inBody (defs : Option Definitions) {body : Element} {after : Option String}
    (hchildren : body.children = (first, after) :: rest) (hname : first.localName ≠ "Fault")
    (href : first.href? = none) (targets : OrderedMap String Partial) :
    let name := first.localName
    let node := first.content defs (some 2) (.ofMessage (messageSchema defs name)) 2
    let nodes := Partial.named name (childValues defs (some 2) .body (2 + first.size) rest)
    ((body.inBody defs).resolve targets []).fields?.bind List.head? =
      some (name, (Partial.gather false (node :: nodes)).resolve targets []) := by
  intro name node nodes
  let later := childValues defs (some 2) .body (2 + first.size) rest
  have hmessage : (childOffers "Body" 2 body.children).head? = some 2 := by
    rw [hchildren, childOffers, Element.offers_eq, Element.ownOffer, if_pos ⟨rfl, hname⟩]
    rfl
  have hbody : body.inBody defs = .object (Partial.collect Expectation.body.schema ((name, node) :: later)) := by
    rw [Element.inBody, hmessage, hchildren, childValues, first.standIn_of_href?_eq_none href, Expectation.inside,
      if_pos rfl]
    rfl
  have hhead := Partial.head?_collect_cons Expectation.body.schema name node later
  have hrepeat : Expectation.body.schema.any (·.isRepeated name) = false := body_isRepeated name
  rw [hrepeat] at hhead
  rw [hbody, Partial.resolve, Partial.resolveFields_eq_map, Value.fields?, Option.bind_some, List.head?_map, hhead,
    Option.map_some]

end

/-- A body without children has no first element. -/
theorem head?_resolve_inBody_of_nil (defs : Option Definitions) {body : Element} (hchildren : body.children = [])
    (targets : OrderedMap String Partial) :
    ((body.inBody defs).resolve targets []).fields?.bind List.head? = none := by
  rw [Element.inBody, hchildren, childValues]
  cases body.text with
  | none =>
    show ((Partial.object []).resolve targets []).fields?.bind List.head? = none
    rw [Partial.resolve, Partial.resolveFields]
    rfl
  | some t =>
    show ((Partial.scalar (.coerce .text t)).resolve targets []).fields?.bind List.head? = none
    rw [Partial.resolve]
    rfl

/-- The first field of what stands in a body fits it, if there is no fault in the body. -/
theorem fitsBody_of_inBody {defs : Option Definitions} {body : Element} (hbody : ∀ e ∈ body.elements, e.IsPlain)
    (hcalled : called "Fault" body.children = []) {targets : OrderedMap String Partial} {name : String} {v : Value}
    (hfirst : ((body.inBody defs).resolve targets []).fields?.bind List.head? = some (name, v)) :
    isLocalName name = true ∧ name ≠ "Fault" ∧ FitsBody IsReadLeaf defs name v := by
  rw [Element.elements_eq] at hbody
  cases hchildren : body.children with
  | nil =>
    rw [head?_resolve_inBody_of_nil defs hchildren targets] at hfirst
    cases hfirst
  | cons child rest =>
    obtain ⟨first, after⟩ := child
    rw [hchildren] at hbody hcalled
    have hchild : ∀ inner ∈ first.elements, inner.IsPlain := fun inner hinner =>
      hbody inner (List.mem_cons_of_mem _ (List.mem_append_left _ hinner))
    have hrest : ∀ inner ∈ Element.elements.ofChildren rest, inner.IsPlain := fun inner hinner =>
      hbody inner (List.mem_cons_of_mem _ (List.mem_append_right _ hinner))
    have hself : first.IsPlain := hchild first first.mem_elements_self
    have hfault : first.localName ≠ "Fault" := by
      intro hname
      rw [called, List.map_cons, List.filter_cons_of_pos (by simpa using hname)] at hcalled
      cases hcalled
    have hhead := head?_resolve_inBody defs hchildren hfault hself.inPlace targets
    obtain ⟨rfl, rfl⟩ := Prod.mk.inj (Option.some.inj (hhead.symm.trans hfirst))
    exact ⟨hself.name, hfault, fitsBody_of_children hchild hrest targets⟩

/-- What is decoded as the first element of a body fits it. -/
theorem Envelope.fitsBody_of_decode {defs : Option Definitions} {text : String} {lead gap : Option String}
    {root body : Element} (hread : (Xml.read text).events? = some (documentEvents lead [(root, gap)]))
    (h : root.IsEnvelopeOf body) (hplain : ∀ e ∈ root.elements, e.IsPlain) {envelope : Envelope}
    (hdecode : decode defs text = .ok envelope) {name : String} {v : Value}
    (hfirst : envelope.bodyElement? = some (name, v)) :
    isLocalName name = true ∧ name ≠ "Fault" ∧ FitsBody IsReadLeaf defs name v := by
  have hinBody : ∀ e ∈ body.elements, e.IsPlain := fun e he => hplain e (h.mem_elements he)
  have hroot := (hplain root root.mem_elements_self).inPlace
  have hbody := (hinBody body body.mem_elements_self).inPlace
  obtain ⟨hcalled, rfl⟩ := (decode_eq_ok_iff hread h hroot hbody).mp hdecode
  exact fitsBody_of_inBody hinBody hcalled hfirst

/-- What was decoded is decoded again of what is written of it. Let the only root of a document be an envelope with a
body as its only child, and let the document be decoded with `name` and `v` as the first element of the body. If no
element has an `href`, all have names that can be written, and no timestamp in `v` has a year outside of 0 to 9999,
then an envelope around `v`, written under `name` by any declaration and with any table of declarations, is
decoded with `name` and `v` as all there is in its body. -/
theorem decode_encode_decoded (d : Definitions) {text : String} {lead gap : Option String} {root body : Element}
    (hread : (Xml.read text).events? = some (documentEvents lead [(root, gap)])) (hroot : root.IsEnvelopeOf body)
    (hnames : ∀ e ∈ root.elements, e.href? = none ∧ isLocalName e.localName = true) {envelope : Envelope}
    (hdecode : Envelope.decode (some d) text = .ok envelope) {name : String} {v : Value}
    (hfirst : envelope.bodyElement? = some (name, v)) (hyears : ∀ t ∈ v.timestamps, 0 ≤ t.year ∧ t.year ≤ 9999)
    (declarations : List (String × String))
    (hdeclarations : ∀ entry ∈ (NamespaceTable.ofDeclarations declarations).bindings, IsDeclarable entry)
    (decl : ElementDecl) (howners : ∀ u ∈ decl.owners ++ d.schemas.owners, IsWritableUri u) :
    let encoded := encodeDocument d.schemas (.ofDeclarations declarations) name decl v
    Envelope.decode (some d) (Envelope.render (Markup.renderAll encoded.1) encoded.2 none) =
      .ok { header := none, body := .object [(name, v)] } := by
  intro encoded
  have hplain : ∀ e ∈ root.elements, e.IsPlain := by
    intro e he
    refine ⟨(hnames e he).1, (hnames e he).2, ?_⟩
    intro t ht
    have hevent : Xml.Event.text t ∈ documentEvents lead [(root, gap)] := by
      have := Element.mem_events_of_text he ht
      simp [documentEvents, Element.childEvents, this]
    exact Xml.isTrimmed_read hread _ hevent
  obtain ⟨hname, hfault, hfits⟩ := Envelope.fitsBody_of_decode hread hroot hplain hdecode hfirst
  have hstable : FitsBody IsStableLeaf (some d) name v :=
    hfits.of_timestamps (fun typed s v hread hyear => ⟨hread, hyear⟩) hyears
  obtain ⟨hspells, hclean⟩ := spells_encodeDocument (fun u hu => howners u (List.mem_append_right _ hu))
    (.ofDeclarations hdeclarations) name (fun u hu => howners u (List.mem_append_left _ hu)) v
  exact decode_render_of_fitsBody readBack_stable hname hfault hclean hstable hspells

/-! ### An order with mistakes -/

/-- An order with two numbers, the second of which is none, without a word on whether it is paid, and with something
that is not declared. -/
def mistakenTree : Element :=
  .plain "order" (some "Order:") [.plain "id" (some "7 pears") [], .plain "id" (some "many") [], .plain "paid" none [],
    .plain "extra" (some "more") [.plain "deep" none []], .plain "line" none []]

/-- A body with this order, a note and another order. -/
def mistakenBody : Element :=
  .plain "Body" (some "Dear all") [mistakenTree, .plain "note" none [], .plain "order" none []]

def mistakenEnvelope : Element := .plain "Envelope" none [mistakenBody]

/-- The text of the envelope. -/
def mistakenText : String :=
  "<Envelope><Body>Dear all<order> Order: <id>7 pears</id><id>many</id><paid/><extra>more<deep/></extra><line/>" ++
    "</order><note/><order/></Body></Envelope>"

/-- What is read of the two orders. -/
def mistakenOrders : Value :=
  .list [.object [("id", .list [.int 7, .string "many"]), ("paid", .string ""),
    ("extra", .object [("deep", .object [])]), ("line", .list [.string ""])], .object []]

theorem read_mistakenText :
    (Xml.read mistakenText).events? = some (documentEvents none [(mistakenEnvelope, none)]) := by
  decide +kernel

theorem isEnvelopeOf_mistaken : mistakenEnvelope.IsEnvelopeOf mistakenBody := ⟨rfl, rfl, none, rfl⟩

/-- The envelope is decoded, and the two orders are the first element of its body. -/
theorem exists_decode_mistaken : ∃ envelope, Envelope.decode (some orders) mistakenText = .ok envelope ∧
    envelope.bodyElement? = some ("order", mistakenOrders) := by
  have hschema : messageSchema (some orders) "order" =
      { description := .fields [("id", .leaf "xsd:int"), ("paid", .leaf "xsd:boolean"), ("line[]", .leaf "xsd:string")]
        typed := true } := by
    rw [messageSchema_of_element (m := orderMessage) rfl rfl, describe_order]
  have hchildren : mistakenBody.children =
      [(mistakenTree, none), (.plain "note" none [], none), (.plain "order" none [], none)] := rfl
  refine ⟨_, (Envelope.decode_eq_ok_iff read_mistakenText isEnvelopeOf_mistaken rfl rfl).mpr ⟨rfl, rfl⟩, ?_⟩
  refine (head?_resolve_inBody (some orders) hchildren (by decide) rfl _).trans ?_
  show some ("order", Partial.resolve _ [] (Partial.gather false
    (mistakenTree.content (some orders) (some 2) (.ofMessage (messageSchema (some orders) "order")) 2 :: _))) = _
  rw [hschema]
  exact congrArg (fun v => some ("order", v)) (Partial.resolve_ofValue _ [] mistakenOrders)

/-- The orders come back with all their mistakes. -/
theorem decode_encode_decoded_mistaken :
    (∀ e ∈ mistakenEnvelope.elements, e.href? = none ∧ isLocalName e.localName = true) ∧
    (∃ envelope, Envelope.decode (some orders) mistakenText = .ok envelope ∧
      envelope.bodyElement? = some ("order", mistakenOrders)) ∧
    let encoded := encodeDocument orders.schemas (.ofDeclarations orders.namespaces) "order" orderDecl mistakenOrders
    Envelope.decode (some orders) (Envelope.render (Markup.renderAll encoded.1) encoded.2 none) =
      .ok { header := none, body := .object [("order", mistakenOrders)] } := by
  have hnames : ∀ e ∈ mistakenEnvelope.elements, e.href? = none ∧ isLocalName e.localName = true := by decide
  obtain ⟨envelope, hdecode, hfirst⟩ := exists_decode_mistaken
  have hyears : ∀ t ∈ mistakenOrders.timestamps, 0 ≤ t.year ∧ t.year ≤ 9999 := by decide
  refine ⟨hnames, ⟨envelope, hdecode, hfirst⟩, ?_⟩
  exact decode_encode_decoded orders read_mistakenText isEnvelopeOf_mistaken hnames hdecode hfirst hyears
    orders.namespaces (by decide) orderDecl (by decide)

end Soap
