import Soap.Proofs.Envelope.Meaning
import Soap.Proofs.Envelope.RoundTrip

/-!
# Following a tree of elements

The decoder follows events with the open elements on a stack. Following the events of a tree, it
closes each element with what the tree says of it: from a stack whose innermost element is the
parent, the events of an element lead back to this stack with one more child of the parent
(`Decoder.follow_element`), whatever surrounds it. So what is decoded is what the tree means
(`Envelope.decode_means`).

The invariant that carries the induction is about the message. Of the numbers of the elements that
may carry it (`Xml.Element.offers`), those before the current element are the ones that were met; the
current element carries the message exactly if there are none and it is one itself.
-/

namespace Soap

open Xml (Element Event)
open Decoder (Frame Progress step outermost)

namespace Decoder

/-! ## What is closed on the way -/

/-- What the innermost element is when it closes. -/
def closing? (p : Progress) : Option Closing :=
  match p.opened with
  | frame :: _ :: _ =>
    let node := frame.node.close (frame.schema.any Description.isLeaf)
    some { id := frame.id, content := node, value := frame.standIn node }
  | _ => none

/-- A closed element joins the one around it as what it is to that one, and is recorded under its
`id` as what stands in it. -/
theorem closeElement_eq {frame parent : Frame} {outer : List Frame} {met : Bool}
    {targets : OrderedMap String Partial} {c : Closing}
    (h : closing? ⟨frame :: parent :: outer, met, targets⟩ = some c) :
    closeElement ⟨frame :: parent :: outer, met, targets⟩ =
      ⟨parent.adding frame.name c.value :: outer, met, targets.extend (registered [c])⟩ := by
  obtain rfl := Option.some.inj h
  unfold closeElement registered
  dsimp only
  cases frame.id <;> rfl

/-- What is closed while the events are followed. -/
def trace (defs : Option Definitions) : Progress → List Event → List Closing
  | _, [] => []
  | p, event :: rest =>
    (match event with
      | .stop _ => (closing? p).toList
      | .start .. | .text _ => []) ++ trace defs (step defs p event) rest

/-- Following the events leads from `p` to `q`, and closes these elements. -/
structure Follows (defs : Option Definitions) (p : Progress) (events : List Event) (q : Progress)
    (closed : List Closing) : Prop where
  foldl_eq : events.foldl (step defs) p = q
  trace_eq : trace defs p events = closed

variable {defs : Option Definitions} {p q r : Progress} {a b : List Event} {s t : List Closing}

theorem Follows.nil : Follows defs p [] p [] := ⟨rfl, rfl⟩

theorem trace_cons (p : Progress) (event : Event) (rest : List Event) :
    trace defs p (event :: rest) =
      (match event with
        | .stop _ => (closing? p).toList
        | .start .. | .text _ => []) ++ trace defs (step defs p event) rest := rfl

theorem trace_append (p : Progress) (a b : List Event) :
    trace defs p (a ++ b) = trace defs p a ++ trace defs (a.foldl (step defs) p) b := by
  induction a generalizing p with
  | nil => rfl
  | cons event rest ih =>
    rw [List.cons_append, trace_cons, trace_cons, ih, List.append_assoc]
    rfl

theorem Follows.append (h : Follows defs p a q s) (h' : Follows defs q b r t) :
    Follows defs p (a ++ b) r (s ++ t) := by
  constructor
  · rw [List.foldl_append, h.foldl_eq, h'.foldl_eq]
  · rw [trace_append, h.foldl_eq, h.trace_eq, h'.trace_eq]

/-! ## Open elements -/

/-- How the children of an open element are read. -/
def Frame.expectation (f : Frame) : Expectation := { schema := f.schema, typed := f.typed }

/-- An element that was just opened. -/
def Frame.ofElement (e : Element) (x : Expectation) : Frame :=
  { name := e.localName, node := .empty, schema := x.schema, typed := x.typed
    id := localAttribute? e.attributes "id", href := localAttribute? e.attributes "href" }

/-- An open element with more children. -/
def Frame.addingAll (f : Frame) (children : List (String × Partial)) : Frame :=
  children.foldl (fun f child => f.adding child.1 child.2) f

theorem Frame.addingAll_cons (f : Frame) (child : String × Partial) (rest : List (String × Partial)) :
    f.addingAll (child :: rest) = (f.adding child.1 child.2).addingAll rest := rfl

/-- Children of an element that had none before are collected. -/
theorem Frame.addingAll_collect (f : Frame) (old new : List (String × Partial))
    (hlist : ∀ child ∈ old ++ new, ∀ items, child.2 ≠ .list items)
    (hfields : f.node.fields = Partial.collect f.schema old) (hne : new ≠ []) :
    f.addingAll new = f.holding (.object (Partial.collect f.schema (old ++ new))) := by
  induction new generalizing f old with
  | nil => exact absurd rfl hne
  | cons child rest ih =>
    obtain ⟨name, child⟩ := child
    have hold : ∀ child ∈ old, ∀ items, child.2 ≠ .list items := fun c hc =>
      hlist c (List.mem_append_left _ hc)
    have hadd : f.adding name child =
        f.holding (.object (Partial.collect f.schema (old ++ [(name, child)]))) := by
      rw [adding, Partial.addChild, hfields, Partial.collect_append f.schema hold]
    rw [addingAll_cons, hadd]
    cases rest with
    | nil => rfl
    | cons next rest =>
      rw [ih (f.holding _) (old ++ [(name, child)]) (by rwa [List.append_assoc]) rfl (by simp),
        List.append_assoc]
      rfl

/-- An element with its text. -/
def Frame.withText (f : Frame) (text : Option String) : Frame :=
  text.elim f fun text => f.holding (f.node.addText f.scalarKind text)

theorem Frame.withText_name (f : Frame) (text : Option String) : (f.withText text).name = f.name := by
  cases text <;> rfl

theorem Frame.withText_expectation (f : Frame) (text : Option String) :
    (f.withText text).expectation = f.expectation := by
  cases text <;> rfl

/-- Text after a child is dropped. -/
theorem Frame.withText_adding (f : Frame) (name : String) (child : Partial) (text : Option String) :
    (f.adding name child).withText text = f.adding name child := by
  cases text <;> rfl

/-- An element that is read to its end closes as what stands in it. -/
theorem Frame.exists_close_eq (e : Element) (x : Expectation) (text : Option String)
    (children : List (String × Partial)) (hlist : ∀ child ∈ children, ∀ items, child.2 ≠ .list items) :
    ∃ node, ((ofElement e x).withText text).addingAll children = (ofElement e x).holding node ∧
      node.close (x.schema.any Description.isLeaf) = x.content text children := by
  cases children with
  | nil =>
    cases text with
    | none => exact ⟨.empty, rfl, rfl⟩
    | some text => exact ⟨_, rfl, rfl⟩
  | cons first rest =>
    -- What the text left has no fields, and goes with the first child.
    have hfields : ((ofElement e x).withText text).node.fields = [] := by cases text <;> rfl
    have hall := addingAll_collect ((ofElement e x).withText text) [] (first :: rest) hlist
      (by rw [hfields]; rfl) (by simp)
    refine ⟨.object (Partial.collect x.schema (first :: rest)), hall.trans ?_, rfl⟩
    cases text <;> rfl

/-! ## Single events -/

theorem follows_text (defs : Option Definitions) (f : Frame) (outer : List Frame) (met : Bool)
    (targets : OrderedMap String Partial) (text : Option String) :
    Follows defs ⟨f :: outer, met, targets⟩ (Element.textEvents text)
      ⟨f.withText text :: outer, met, targets⟩ [] := by
  cases text <;> exact ⟨rfl, rfl⟩

/-- A start tag opens an element inside the innermost one. -/
theorem follows_start (defs : Option Definitions) (parent : Frame) (outer : List Frame) (met : Bool)
    (targets : OrderedMap String Partial) {message : Option Nat} {n : Nat} {name : QName}
    (hmessage : carriesMessage ⟨parent :: outer, met, targets⟩ parent name.localName =
      decide (message = some n))
    (attributes declarations : OrderedMap String String) (text : Option String)
    (children : List (Element × Option String)) :
    Follows defs ⟨parent :: outer, met, targets⟩ [.start name attributes declarations]
      ⟨.ofElement ⟨name, attributes, declarations, text, children⟩
          (parent.expectation.inside defs message n name.localName) :: parent :: outer,
        met || decide (message = some n), targets⟩ [] := by
  refine ⟨?_, rfl⟩
  rw [List.foldl_cons, List.foldl_nil, step, openElement]
  dsimp only
  rw [hmessage]
  by_cases h : message = some n
  · simp only [h, decide_true, if_true]
    rw [Expectation.inside, if_pos rfl]
    rfl
  · simp only [h, decide_false]
    rw [Expectation.inside, if_neg h]
    rfl

/-- An end tag closes the innermost element into the one around it. -/
theorem follows_stop (defs : Option Definitions) (e : Element) {x : Expectation} {node content : Partial}
    (hclose : node.close (x.schema.any Description.isLeaf) = content) (parent : Frame)
    (outer : List Frame) (met : Bool) (targets : OrderedMap String Partial) (name : QName) :
    Follows defs ⟨(Frame.ofElement e x).holding node :: parent :: outer, met, targets⟩ [.stop name]
      ⟨parent.adding e.localName (e.standIn content) :: outer, met,
        targets.extend (registered [e.closing content])⟩ [e.closing content] := by
  subst hclose
  exact ⟨closeElement_eq rfl, rfl⟩

end Decoder

/-! ## Offers -/

namespace Xml.Element

theorem mem_ownOffer {parent name : String} {n k : Nat} (h : k ∈ ownOffer parent n name) : k = n := by
  unfold ownOffer at h
  split at h
  · exact List.mem_singleton.mp h
  · cases h

mutual

/-- The numbers of an element and those in it are in a row. -/
theorem mem_offers {parent : String} {n k : Nat} (e : Element) (h : k ∈ e.offers parent n) :
    n ≤ k ∧ k < n + e.size := by
  match e with
  | ⟨name, _, _, _, children⟩ =>
    rw [offers] at h
    rw [size]
    rcases List.mem_append.mp h with h | h
    · have := mem_ownOffer h
      omega
    · have := mem_childOffers children h
      omega

theorem mem_childOffers {parent : String} {n k : Nat} (children : List (Element × Option String))
    (h : k ∈ childOffers parent n children) : n ≤ k ∧ k < n + totalSize children := by
  match children with
  | [] => cases h
  | (child, _) :: rest =>
    rw [childOffers] at h
    rw [totalSize]
    rcases List.mem_append.mp h with h | h
    · have := mem_offers child h
      omega
    · have := mem_childOffers rest h
      omega

end

/-- The offers among the numbers from `n` up to `stop` are `here`, and the message is the first of
all. -/
structure IsFirstOf (message : Option Nat) (before here after : List Nat) (n stop : Nat) : Prop where
  head : message = (before ++ here ++ after).head?
  before_lt : ∀ k ∈ before, k < n
  le_after : ∀ k ∈ after, stop ≤ k

namespace IsFirstOf

variable {message : Option Nat} {before after : List Nat} {n : Nat}

/-- From an element to its children. -/
theorem children {name parent : String} {cs : List (Element × Option String)}
    (h : IsFirstOf message before (ownOffer parent n name ++ childOffers name (n + 1) cs) after n
      (n + (1 + totalSize cs))) :
    IsFirstOf message (before ++ ownOffer parent n name) (childOffers name (n + 1) cs) after (n + 1)
      (n + 1 + totalSize cs) where
  head := by rw [h.head]; simp only [List.append_assoc]
  before_lt k hk := by
    rcases List.mem_append.mp hk with hk | hk
    · have := h.before_lt k hk
      omega
    · have := mem_ownOffer hk
      omega
  le_after k hk := by
    have := h.le_after k hk
    omega

/-- From children to the first of them. -/
theorem first {parent : String} {child : Element} {rest : List (Element × Option String)}
    (h : IsFirstOf message before (child.offers parent n ++ childOffers parent (n + child.size) rest) after n
      (n + (child.size + totalSize rest))) :
    IsFirstOf message before (child.offers parent n)
      (childOffers parent (n + child.size) rest ++ after) n (n + child.size) where
  head := by rw [h.head]; simp only [List.append_assoc]
  before_lt := h.before_lt
  le_after k hk := by
    rcases List.mem_append.mp hk with hk | hk
    · exact (mem_childOffers rest hk).1
    · have := h.le_after k hk
      omega

/-- From children to those after the first. -/
theorem rest {parent : String} {child : Element} {rest : List (Element × Option String)}
    (h : IsFirstOf message before (child.offers parent n ++ childOffers parent (n + child.size) rest) after n
      (n + (child.size + totalSize rest))) :
    IsFirstOf message (before ++ child.offers parent n) (childOffers parent (n + child.size) rest) after
      (n + child.size) (n + child.size + totalSize rest) where
  head := by rw [h.head]; simp only [List.append_assoc]
  before_lt k hk := by
    rcases List.mem_append.mp hk with hk | hk
    · have := h.before_lt k hk
      omega
    · exact (mem_offers child hk).2
  le_after k hk := by
    have := h.le_after k hk
    omega

/-- An element carries the message if it may and nothing before it does. -/
theorem message_eq_some_iff {name parent : String} {cs : List (Element × Option String)}
    (h : IsFirstOf message before (ownOffer parent n name ++ childOffers name (n + 1) cs) after n
      (n + (1 + totalSize cs))) :
    message = some n ↔ before = [] ∧ ownOffer parent n name ≠ [] := by
  cases before with
  | cons k rest =>
    have hlt := h.before_lt k (by simp)
    rw [h.head]
    simp
    omega
  | nil =>
    unfold ownOffer at h ⊢
    by_cases hown : parent = "Body" ∧ name ≠ "Fault"
    · rw [h.head, if_pos hown]
      simp
    · rw [if_neg hown] at h ⊢
      refine iff_of_false (fun hn => ?_) (by simp)
      -- Whatever comes first comes after this element.
      have hmem : n ∈ childOffers name (n + 1) cs ++ after := by
        have hhead := h.head.symm.trans hn
        rw [List.nil_append, List.nil_append] at hhead
        exact List.mem_of_mem_head? hhead
      rcases List.mem_append.mp hmem with hmem | hmem
      · have := (mem_childOffers cs hmem).1
        omega
      · have := h.le_after n hmem
        omega

end IsFirstOf

end Xml.Element

/-! ## Elements -/

namespace Decoder

open Xml.Element (ownOffer childOffers childEvents childValues childClosings totalSize IsFirstOf)

variable {message : Option Nat} {before after : List Nat} {n : Nat}

theorem carriesMessage_eq (parent : Frame) (outer : List Frame) (targets : OrderedMap String Partial)
    {name : String} {cs : List (Element × Option String)}
    (h : IsFirstOf message before (ownOffer parent.name n name ++ childOffers name (n + 1) cs) after n
      (n + (1 + totalSize cs))) :
    carriesMessage ⟨parent :: outer, !before.isEmpty, targets⟩ parent name = decide (message = some n) := by
  rw [Bool.eq_iff_iff, decide_eq_true_iff, h.message_eq_some_iff, carriesMessage, ownOffer]
  by_cases hparent : parent.name = "Body" <;> by_cases hname : name = "Fault" <;> simp [hparent, hname]

/-- A message is met if there is an offer up to here. -/
theorem met_eq {name parent : String} {cs : List (Element × Option String)}
    (h : IsFirstOf message before (ownOffer parent n name ++ childOffers name (n + 1) cs) after n
      (n + (1 + totalSize cs))) :
    (!before.isEmpty || decide (message = some n)) = !(before ++ ownOffer parent n name).isEmpty := by
  rw [Bool.eq_iff_iff, Bool.or_eq_true, decide_eq_true_iff, h.message_eq_some_iff]
  cases before with
  | nil => simp
  | cons k rest => simp

mutual

/-- The events of an element add what it means to the element around it. -/
theorem follow_element (defs : Option Definitions) (e : Element) (parent : Frame) (outer : List Frame)
    (targets : OrderedMap String Partial) {before after : List Nat} {n : Nat}
    (h : IsFirstOf message before (e.offers parent.name n) after n (n + e.size)) :
    let x := parent.expectation.inside defs message n e.localName
    Follows defs ⟨parent :: outer, !before.isEmpty, targets⟩ e.events
      ⟨parent.adding e.localName (e.standIn (e.content defs message x n)) :: outer,
        !(before ++ e.offers parent.name n).isEmpty,
        targets.extend (registered (e.closings defs message x n))⟩ (e.closings defs message x n) := by
  match e with
  | ⟨name, attributes, declarations, text, children⟩ =>
    intro x
    rw [Element.offers, Element.size] at h
    let e : Element := ⟨name, attributes, declarations, text, children⟩
    let met := before ++ ownOffer parent.name n name.localName
    let values := childValues defs message x (n + 1) children
    let targets' := targets.extend (registered (childClosings defs message x (n + 1) children))
    -- The start tag, the text, the children and the end tag, one after the other.
    have hstart := follows_start defs parent outer (!before.isEmpty) targets
      (carriesMessage_eq parent outer targets h) attributes declarations text children
    rw [met_eq h] at hstart
    have htext := follows_text defs (.ofElement e x) (parent :: outer) (!met.isEmpty) targets text
    have hinside := follow_children defs children ((Frame.ofElement e x).withText text)
      (parent :: outer) targets (by rw [Frame.withText_name]; exact h.children)
    rw [Frame.withText_name, Frame.withText_expectation] at hinside
    obtain ⟨node, hnode, hclose⟩ := Frame.exists_close_eq e x text values
      (Element.childValues_ne_list defs message x (n + 1) children)
    have hstop := follows_stop defs e hclose parent outer
      (!(met ++ childOffers name.localName (n + 1) children).isEmpty) targets' name
    rw [← hnode] at hstop
    have hall := hstart.append (htext.append (hinside.append hstop))
    rw [Element.events, Element.offers, Element.closings, registered_append, OrderedMap.extend_append,
      ← List.append_assoc before, List.append_assoc (Element.textEvents text)]
    exact hall

/-- The events of children add what they mean to the element around them. -/
theorem follow_children (defs : Option Definitions) (children : List (Element × Option String)) (f : Frame)
    (outer : List Frame) (targets : OrderedMap String Partial) {before after : List Nat} {n : Nat}
    (h : IsFirstOf message before (childOffers f.name n children) after n (n + totalSize children)) :
    Follows defs ⟨f :: outer, !before.isEmpty, targets⟩ (childEvents children)
      ⟨f.addingAll (childValues defs message f.expectation n children) :: outer,
        !(before ++ childOffers f.name n children).isEmpty,
        targets.extend (registered (childClosings defs message f.expectation n children))⟩
      (childClosings defs message f.expectation n children) := by
  match children with
  | [] =>
    rw [childOffers, List.append_nil]
    exact .nil
  | (child, text) :: rest =>
    rw [childOffers, totalSize] at h
    let x := f.expectation.inside defs message n child.localName
    let next := f.adding child.localName (child.standIn (child.content defs message x n))
    let targets' := targets.extend (registered (child.closings defs message x n))
    have hchild := follow_element defs child f outer targets h.first
    have htext := follows_text defs next outer (!(before ++ child.offers f.name n).isEmpty) targets' text
    rw [Frame.withText_adding] at htext
    have hrest := follow_children defs rest next outer targets' h.rest
    have hall := (hchild.append htext).append hrest
    rw [List.append_nil] at hall
    rw [childEvents, childOffers, childValues, childClosings, registered_append,
      OrderedMap.extend_append, ← List.append_assoc before]
    exact hall

end

/-- Following the events of a whole tree closes its elements with what they mean. -/
theorem follow_root (defs : Option Definitions) (root : Element) :
    ∃ met, Follows defs start root.events
      ⟨[outermost.adding root.localName (root.value defs)], met,
        OrderedMap.ofList (registered (root.allClosings defs))⟩ (root.allClosings defs) := by
  have h : IsFirstOf root.message? [] (root.offers "" 0) [] 0 (0 + root.size) :=
    ⟨by rw [List.nil_append, List.append_nil]; rfl, by simp, by simp⟩
  -- What holds the root is no body, so the root does not carry the message.
  have hroot : outermost.expectation.inside defs root.message? 0 root.localName =
      Expectation.outermost.child root.localName := by
    obtain ⟨name, attributes, declarations, text, children⟩ := root
    refine if_neg fun hmessage => ?_
    rw [Element.offers, Element.size] at h
    exact (h.message_eq_some_iff.mp hmessage).2 rfl
  have hfollow := follow_element defs root outermost [] [] h
  rw [hroot] at hfollow
  exact ⟨_, hfollow⟩

end Decoder

/-! ## Envelopes -/

/-- An envelope is decoded as the tree of its elements means: the decoder closes every element with
what stands in it and what it is to the element around it, told by recursion over the tree. What is
decoded is the meaning of the whole with its references followed. -/
theorem Envelope.decode_means (defs : Option Definitions) (root : Element)
    (hroot : root.localName = "Envelope") :
    Decoder.trace defs Decoder.start root.events = root.allClosings defs ∧
    ∀ text, (Xml.read text).events? = some root.events →
      Envelope.decode defs text =
        let targets := OrderedMap.ofList (registered (root.allClosings defs))
        let envelope := (root.value defs).resolve targets []
        let body := (envelope.get? "Body").getD .emptyObject
        match Decoder.faultOf? body with
        | some f => .error (.fault f)
        | none => .ok { header := envelope.get? "Header", body } := by
  obtain ⟨met, hfollow⟩ := Decoder.follow_root defs root
  refine ⟨hfollow.trace_eq, fun text htext => ?_⟩
  rw [decode, ofReading_eq defs htext, hfollow.foldl_eq, hroot]
  rfl

/-! ### An order with a reference -/

/-- An element without attributes. -/
def Xml.Element.plain (name : String) (text : Option String) (children : List Element) : Element :=
  ⟨.unqualified name, [], [], text, children.map fun child => (child, none)⟩

/-- An envelope with an order and a remark, to which the order refers. -/
def orderTree : Element :=
  .plain "Envelope" none [.plain "Body" none [
    .plain "order" none [.plain "id" (some "7") [], .plain "line" (some "a") [],
      ⟨.unqualified "note", [("href", "#r")], [], none, []⟩, .plain "line" (some "b") []],
    ⟨.unqualified "remark", [("id", "r")], [], some "1", []⟩]]

/-- The text of the envelope. -/
def orderTreeText : String :=
  "<Envelope><Body><order><id>7</id><line>a</line><note href=\"#r\"/><line>b</line></order>" ++
    "<remark id=\"r\">1</remark></Body></Envelope>"

theorem messageSchema_order :
    messageSchema (some orders) "order" =
      { description := .fields [("id", .leaf "xsd:int"), ("paid", .leaf "xsd:boolean"),
          ("line[]", .leaf "xsd:string")], typed := true } := by
  have hfind : orders.findMessage? "order" = some orderMessage := rfl
  rw [messageSchema_of_element hfind rfl, describe_order]

theorem value_orderTree :
    orderTree.value (some orders) = .object [("Body", .object [
      ("order", .object [("id", .scalar (.int 7)),
        ("line", .list [.scalar (.string "a"), .scalar (.string "b")]), ("note", .ref "r")]),
      ("remark", .scalar (.string "1"))])] := by
  have hmessage : orderTree.message? = some 2 := rfl
  rw [Element.value, hmessage]
  simp [orderTree, Element.plain, Element.content, Element.childValues, Expectation.inside, messageSchema_order,
    Element.size, Element.totalSize, Element.localName, QName.unqualified, Element.standIn, Element.attributes]
  rfl

theorem registered_orderTree :
    registered (orderTree.allClosings (some orders)) = [("r", .scalar (.string "1"))] := rfl

/-- The order is read by its types, its lines are a list, and its note is the remark. -/
theorem Envelope.decode_means_order :
    Envelope.decode (some orders) orderTreeText = .ok {
      header := none
      body := .object [("order", .object [("id", .int 7), ("line", .list [.string "a", .string "b"]),
        ("note", .string "1")]), ("remark", .string "1")] } := by
  have htext : (Xml.read orderTreeText).events? = some orderTree.events := by decide +kernel
  rw [(Envelope.decode_means (some orders) orderTree rfl).2 _ htext, value_orderTree, registered_orderTree]
  have htargets : OrderedMap.ofList [("r", Partial.scalar (.string "1"))] =
    [("r", .scalar (.string "1"))] := rfl
  simp [htargets, Partial.resolve, Partial.resolveFields, Partial.resolveItems, OrderedMap.get?]
  rfl

end Soap
