import Soap.Proofs.Envelope.Numbering

/-!
# Headers and bodies

Header and body are read in one pass, which keeps two things that one could leave for the other: the
elements that can be referred to, and whether a message was met. A header in which nothing has a name
and nothing may carry the message leaves neither, so the body is read as if another such header stood
there (`Envelope.decode_body_of_header`). The one way left from the header into the body is a reference
to the envelope itself, which has the header in it.
-/

namespace Soap

open Xml (Element)
open Xml.Element (SameMessage childClosings childOffers childValues closings_eq content_eq mem_childOffers
  not_mem_registered_closing offers_add offers_eq totalSize)

/-! ## Envelopes with the same body -/

/-- Two envelopes are the same reference, or their bodies are. -/
inductive Partial.SameBody : Partial → Partial → Prop
  | ref (id : String) : SameBody (.ref id) (.ref id)
  | content (x : Expectation) (text : Option String) {children children' : List (String × Partial)}
      (h : named "Body" children = named "Body" children') :
      SameBody (x.content text children) (x.content text children')

/-- Envelopes with the same body have the same body once references are followed, if the body leads to the
same targets. -/
theorem Partial.SameBody.bodyOf_eq {envelope envelope' : Partial} (h : SameBody envelope envelope')
    {targets targets' : OrderedMap String Partial}
    (hget : ∀ id, Reaches targets envelope.body id → targets'.get? id = targets.get? id) :
    Envelope.bodyOf (envelope'.resolve targets' []) = Envelope.bodyOf (envelope.resolve targets []) := by
  cases h with
  | ref id =>
    rw [body_ref] at hget
    rw [resolve_congr _ hget]
  | content x text hnamed =>
    rw [body, fields_content, get?_collect] at hget
    rw [Envelope.bodyOf, Envelope.bodyOf, get?_resolve_content, get?_resolve_content, get?_collect,
      get?_collect, ← hnamed]
    split
    · rfl
    · next hne =>
      rw [if_neg hne, Option.getD_some] at hget
      rw [Option.map_some, Option.map_some, resolve_congr _ hget]

namespace Xml.Element

/-! ## One child in place of another -/

/-- Where the first of some numbers is found does not change if others are counted from elsewhere. -/
theorem head?_append_counted {before : List Nat} {k : Nat} (hbefore : ∀ j ∈ before, j < k) (after : List Nat)
    {s s' : Nat} (hs : k ≤ s) (hs' : k ≤ s') :
    (∀ j < k, (before ++ after.map (· + s)).head? = some j ↔ (before ++ after.map (· + s')).head? = some j) ∧
    ∀ i, (before ++ after.map (· + s)).head? = some (s + i) ↔
      (before ++ after.map (· + s')).head? = some (s' + i) := by
  cases before with
  | cons first rest =>
    have hfirst : first < k := hbefore first List.mem_cons_self
    refine ⟨fun _ _ => Iff.rfl, ?_⟩
    intro i
    simp only [List.cons_append, List.head?_cons, Option.some.injEq]
    omega
  | nil =>
    cases after with
    | nil => simp
    | cons first rest =>
      simp only [List.nil_append, List.map_cons, List.head?_cons, Option.some.injEq]
      constructor
      · intro j hj
        omega
      · intro i
        omega

/-- Where a child that offers nothing stands among the children of the root. -/
theorem message?_of_no_offers (root : Element) (before : List (Element × Option String)) {child : Element}
    (hchild : child.offers root.localName 0 = []) (text : Option String)
    (after : List (Element × Option String)) :
    (root.withChildren (before ++ (child, text) :: after)).message? =
      (childOffers root.localName 1 before ++
        (childOffers root.localName 0 after).map (· + (1 + totalSize before + child.size))).head? := by
  have hnone : child.offers root.localName (1 + totalSize before) = [] := by
    rw [← Nat.zero_add (1 + totalSize before), offers_add, hchild, List.map_nil]
  have hafter := childOffers_add root.localName 0 (1 + totalSize before + child.size) after
  rw [Nat.zero_add] at hafter
  rw [message?, offers_eq, localName_withChildren, children_withChildren, childOffers_append, childOffers,
    hnone, hafter, ownOffer, if_neg (by simp), List.nil_append, List.nil_append]

/-- The children around one that offers nothing are told apart from the message as around any other. -/
theorem sameMessage_of_no_offers (root : Element) (before : List (Element × Option String))
    {child child' : Element} (hchild : child.offers root.localName 0 = [])
    (hchild' : child'.offers root.localName 0 = []) (text text' : Option String)
    (after : List (Element × Option String)) :
    let message := (root.withChildren (before ++ (child, text) :: after)).message?
    let message' := (root.withChildren (before ++ (child', text') :: after)).message?
    let k := 1 + totalSize before
    SameMessage message message' 1 1 (totalSize before) ∧
      SameMessage message message' (k + child.size) (k + child'.size) (totalSize after) := by
  intro message message' k
  have hbefore : ∀ j ∈ childOffers root.localName 1 before, j < k := fun j hj => (mem_childOffers before hj).2
  have hsame := head?_append_counted hbefore (childOffers root.localName 0 after)
    (Nat.le_add_right k child.size) (Nat.le_add_right k child'.size)
  rw [← message?_of_no_offers root before hchild text after,
    ← message?_of_no_offers root before hchild' text' after] at hsame
  constructor
  · intro i hi
    exact hsame.1 (1 + i) (Nat.add_lt_add_left hi 1)
  · intro i _
    exact hsame.2 i

section

variable (defs : Option Definitions) {root child child' : Element} (before after : List (Element × Option String))
  (text text' : Option String)

/-- An element in which nothing has a name leaves nothing that can be referred to. -/
theorem registered_closings_of_no_ids {e : Element} (h : e.ids = []) (message : Option Nat) (x : Expectation)
    (n : Nat) : registered (e.closings defs message x n) = [] := by
  have hkeys := keys_registered_closings defs message x n e
  rw [h] at hkeys
  exact List.map_eq_nil_iff.mp hkeys

/-- A child that offers nothing does not matter to the children of other names. -/
theorem named_childValues_of_no_offers (hchild : child.offers root.localName 0 = [])
    (hchild' : child'.offers root.localName 0 = []) {name : String} (hname : child.localName ≠ name)
    (hname' : child'.localName ≠ name) (x : Expectation) :
    Partial.named name (childValues defs (root.withChildren (before ++ (child, text) :: after)).message? x 1
        (before ++ (child, text) :: after)) =
      Partial.named name (childValues defs (root.withChildren (before ++ (child', text') :: after)).message? x 1
        (before ++ (child', text') :: after)) := by
  obtain ⟨hbefore, hafter⟩ := sameMessage_of_no_offers root before hchild hchild' text text' after
  rw [childValues_append, childValues_append, childValues, childValues, childValues_congr x before hbefore,
    childValues_congr x after hafter]
  simp [Partial.named, hname, hname']

/-- A child that offers nothing and is no body does not matter to the body. -/
theorem sameBody_of_no_offers (hchild : child.offers root.localName 0 = [])
    (hchild' : child'.offers root.localName 0 = []) (hname : child.localName ≠ "Body")
    (hname' : child'.localName ≠ "Body") :
    ((root.withChildren (before ++ (child, text) :: after)).value defs).SameBody
      ((root.withChildren (before ++ (child', text') :: after)).value defs) := by
  cases hhref : root.href? with
  | some href =>
    rw [value_of_href? _ _ (by rw [href?_withChildren, hhref]),
      value_of_href? _ _ (by rw [href?_withChildren, hhref])]
    exact .ref _
  | none =>
    rw [value_of_href?_eq_none _ _ (by rw [href?_withChildren, hhref]),
      value_of_href?_eq_none _ _ (by rw [href?_withChildren, hhref])]
    simp only [localName_withChildren, text_withChildren, children_withChildren]
    apply Partial.SameBody.content
    exact named_childValues_of_no_offers defs before after text text' hchild hchild' hname hname' _

/-- A child that offers nothing and in which nothing has a name does not matter to what can be referred
to, but for the root. -/
theorem get?_targets_of_no_offers (hchild : child.offers root.localName 0 = [])
    (hchild' : child'.offers root.localName 0 = []) (hids : child.ids = []) (hids' : child'.ids = [])
    {id : String} (hid : root.id? ≠ some id) :
    ((root.withChildren (before ++ (child', text') :: after)).targets defs).get? id =
      ((root.withChildren (before ++ (child, text) :: after)).targets defs).get? id := by
  obtain ⟨hbefore, hafter⟩ := sameMessage_of_no_offers root before hchild hchild' text text' after
  have hroot : ∀ inside content, id ∉ (registered [(root.withChildren inside).closing content]).map Prod.fst := by
    intro inside
    apply not_mem_registered_closing
    rw [id?_withChildren]
    exact hid
  unfold targets allClosings
  rw [closings_eq, closings_eq, registered_append, registered_append,
    OrderedMap.get?_ofList_append_of_not_mem _ (hroot _ _),
    OrderedMap.get?_ofList_append_of_not_mem _ (hroot _ _)]
  simp only [children_withChildren, localName_withChildren, childClosings_append, childClosings,
    registered_append, registered_closings_of_no_ids defs hids, registered_closings_of_no_ids defs hids']
  rw [childClosings_congr _ before hbefore, childClosings_congr _ after hafter]

end

end Xml.Element

namespace Envelope

/-- What is handed out as the body, or the fault in its place, is told by the body. -/
theorem map_body_ofValue (envelope : Value) :
    (ofValue envelope).map Envelope.body =
      match Decoder.faultOf? (bodyOf envelope) with
      | some f => .error (.fault f)
      | none => .ok (bodyOf envelope) := by
  unfold ofValue
  cases Decoder.faultOf? (bodyOf envelope) <;> rfl

/-- The header cannot change how the body is read: with another header, the same body is handed out or
the same fault. In neither header there is a name or, below an element that is called like a body, an
element that may carry the message; and the body does not lead back to the envelope, of which the header
is a part. -/
theorem decode_body_of_header (defs : Option Definitions) {root header header' : Element}
    {before after : List (Element × Option String)} {text text' : Option String}
    (hroot : root.localName = "Envelope") (hname : header.localName = "Header")
    (hname' : header'.localName = "Header") (hids : header.ids = []) (hids' : header'.ids = [])
    (hoffers : header.offers "Envelope" 0 = []) (hoffers' : header'.offers "Envelope" 0 = []) :
    let e := root.withChildren (before ++ (header, text) :: after)
    let e' := root.withChildren (before ++ (header', text') :: after)
    (∀ id, root.id? = some id → ¬ Partial.Reaches (e.targets defs) (e.value defs).body id) →
      ∀ source source', (Xml.read source).events? = some e.events →
        (Xml.read source').events? = some e'.events →
        (decode defs source').map Envelope.body = (decode defs source).map Envelope.body := by
  intro e e' hreach source source' hsource hsource'
  rw [← hroot] at hoffers hoffers'
  have hsame := Element.sameBody_of_no_offers defs before after text text' hoffers hoffers'
    (by rw [hname]; decide) (by rw [hname']; decide)
  have hget : ∀ id, Partial.Reaches (e.targets defs) (e.value defs).body id →
      (e'.targets defs).get? id = (e.targets defs).get? id := by
    intro id hid
    apply Element.get?_targets_of_no_offers defs before after text text' hoffers hoffers' hids hids'
    intro hown
    exact hreach id hown hid
  rw [decode_tree defs (by rw [Element.localName_withChildren, hroot]) hsource,
    decode_tree defs (by rw [Element.localName_withChildren, hroot]) hsource', map_body_ofValue,
    map_body_ofValue, hsame.bodyOf_eq hget]

end Envelope

/-! ### An order under two headers -/

/-- An envelope with a name, which holds nothing. -/
def namedEnvelope : Element := ⟨.unqualified "Envelope", [("id", "e")], [], none, []⟩

/-- A header that looks like a body with a fault. -/
def strayHeader : Element := .plain "Header" none [.plain "Body" none [.plain "Fault" none []]]

def addressHeader (address : String) : Element := .plain "Header" none [.plain "To" (some address) []]

/-- A body with an order and a remark, to which the order refers. -/
def remarkedBody : Element :=
  .plain "Body" none [
    .plain "order" none [.plain "id" (some "7") [], ⟨.unqualified "note", [("href", "r")], [], none, []⟩],
    ⟨.unqualified "remark", [("id", "r")], [], none, []⟩]

/-- The text of the envelope with a header, given by its text, and the order. -/
def namedOrderText (header : String) : String :=
  "<Envelope id=\"e\">" ++ header ++ "<Body><order><id>7</id><note href=\"r\"/></order><remark id=\"r\"/></Body>" ++
    "</Envelope>"

/-- The envelope with a header and the order. -/
def namedOrder (header : Element) : Element :=
  namedEnvelope.withChildren ([] ++ (header, none) :: [(remarkedBody, none)])

theorem body_namedOrder :
    ((namedOrder strayHeader).value (some orders)).body =
      .object [("order", .object [("id", .scalar (.int 7)), ("note", .ref "r")]), ("remark", .object [])] := by
  have hmessage : (namedOrder strayHeader).message? = some 5 := rfl
  rw [Element.value, hmessage]
  simp [namedOrder, namedEnvelope, strayHeader, remarkedBody, Element.plain, Element.content,
    Element.childValues, Expectation.inside, messageSchema_order, Element.withChildren,
    Element.size, Element.totalSize, Element.localName, QName.unqualified, Element.standIn, Element.attributes]
  rfl

/-- The order leads to the remark only. -/
theorem not_reaches_namedOrder :
    ¬ Partial.Reaches ((namedOrder strayHeader).targets (some orders))
      ((namedOrder strayHeader).value (some orders)).body "e" := by
  have hremark : ((namedOrder strayHeader).targets (some orders)).get? "r" = some (.object []) := rfl
  have hmention : ∀ id, Partial.Mentions ((namedOrder strayHeader).value (some orders)).body id → id = "r" := by
    intro id h
    rw [body_namedOrder] at h
    simpa [Partial.mentions_object_iff, Partial.mentions_ref_iff, Partial.not_mentions_scalar] using h
  intro h
  cases h with
  | mention h => exact absurd (hmention _ h) (by decide)
  | through h htarget hreach =>
    rw [hmention _ h, hremark] at htarget
    obtain rfl := Option.some.inj htarget
    cases hreach with
    | mention h | through h => simp [Partial.mentions_object_iff] at h

/-- The order is read alike under a header that looks like a body with a fault and under one with an
address. -/
theorem Envelope.decode_body_of_header_order :
    (strayHeader.ids = [] ∧ strayHeader.offers "Envelope" 0 = []) ∧
    ((addressHeader "a").ids = [] ∧ (addressHeader "a").offers "Envelope" 0 = []) ∧
    ¬ Partial.Reaches ((namedOrder strayHeader).targets (some orders))
      ((namedOrder strayHeader).value (some orders)).body "e" ∧
    (Envelope.decode (some orders) (namedOrderText "<Header><To>a</To></Header>")).map Envelope.body =
      (Envelope.decode (some orders) (namedOrderText "<Header><Body><Fault/></Body></Header>")).map
        Envelope.body := by
  have hstray : (Xml.read (namedOrderText "<Header><Body><Fault/></Body></Header>")).events? =
      some (namedOrder strayHeader).events := by decide +kernel
  have haddress : (Xml.read (namedOrderText "<Header><To>a</To></Header>")).events? =
      some (namedOrder (addressHeader "a")).events := by decide +kernel
  have hroot : namedEnvelope.localName = "Envelope" := rfl
  have hname : strayHeader.localName = "Header" := rfl
  have hname' : (addressHeader "a").localName = "Header" := rfl
  have hempty : strayHeader.ids = [] ∧ strayHeader.offers "Envelope" 0 = [] := ⟨rfl, rfl⟩
  have hempty' : (addressHeader "a").ids = [] ∧ (addressHeader "a").offers "Envelope" 0 = [] := ⟨rfl, rfl⟩
  have hreach : ∀ id, namedEnvelope.id? = some id →
      ¬ Partial.Reaches ((namedOrder strayHeader).targets (some orders))
        ((namedOrder strayHeader).value (some orders)).body id := by
    intro id hid
    obtain rfl := Option.some.inj hid
    exact not_reaches_namedOrder
  have hsame := Envelope.decode_body_of_header (some orders) hroot hname hname' hempty.1 hempty'.1 hempty.2
    hempty'.2 hreach _ _ hstray haddress
  exact ⟨hempty, hempty', not_reaches_namedOrder, hsame⟩

/-! ### A copy of the envelope -/

/-- An envelope whose body refers to it. -/
def copyTree (address : String) : Element :=
  namedEnvelope.withChildren [(addressHeader address, none),
    (.plain "Body" none [⟨.unqualified "Copy", [("href", "#e")], [], none, []⟩], none)]

def copyText (address : String) : String :=
  "<Envelope id=\"e\"><Header><To>" ++ address ++ "</To></Header><Body><Copy href=\"#e\"/></Body></Envelope>"

/-- The copy has the header in it, and is cut where it stands inside itself. -/
theorem decode_copyTree {text address : String} (h : (Xml.read text).events? = some (copyTree address).events) :
    (Envelope.decode none text).map Envelope.body =
      .ok (.object [("Copy", .object [("Header", .object [("To", .string address)]),
        ("Body", .object [("Copy", .null)])])]) := by
  have hvalue : (copyTree address).value none = .object [("Header", .object [("To", .scalar (.string address))]),
      ("Body", .object [("Copy", .ref "e")])] := rfl
  have htargets : (copyTree address).targets none = [("e", (copyTree address).value none)] := rfl
  rw [Envelope.decode_tree none rfl h, htargets, hvalue]
  simp [Partial.resolve, Partial.resolveFields, OrderedMap.get?]
  rfl

/-- A header without names reaches a body that refers to the envelope. -/
theorem Envelope.header_reaches_copy :
    (addressHeader "a").ids = [] ∧ (addressHeader "b").ids = [] ∧
    (Xml.read (copyText "a")).events? = some (copyTree "a").events ∧
    (Xml.read (copyText "b")).events? = some (copyTree "b").events ∧
    (Envelope.decode none (copyText "a")).map Envelope.body ≠
      (Envelope.decode none (copyText "b")).map Envelope.body := by
  have ha : (Xml.read (copyText "a")).events? = some (copyTree "a").events := by decide +kernel
  have hb : (Xml.read (copyText "b")).events? = some (copyTree "b").events := by decide +kernel
  refine ⟨rfl, rfl, ha, hb, ?_⟩
  rw [decode_copyTree ha, decode_copyTree hb]
  simp

end Soap
