import Mathlib.Logic.Relation
import Soap.Proofs.Envelope.Places

/-!
# What references share

An element with an `href` is shown as what stands in the element that it refers to, wherever the two are in a
document. So both are shown as the same, if that element stands for itself. If it has an `href` as well, it is shown
as what stands in a third one, and the reference to it is not: under its `id` an element is registered before its
`href` takes the place of what stands in it. References to references are followed one by one, but they do not lead
on (`Envelope.decode_shared`).
-/

namespace Soap

open Xml (Element)
open Xml.Element (childIds documentEvents documentMessage? documentTargets envelopeValue? referent)

/-! ## What is mentioned -/

namespace Partial

theorem mentions_list_iff {items : List Partial} {id : String} :
    Mentions (.list items) id ↔ ∃ item ∈ items, Mentions item id := by
  constructor
  · intro h
    cases h with
    | part hpart h => exact ⟨_, hpart, h⟩
  · rintro ⟨item, hitem, h⟩
    exact .part hitem h

theorem exists_mentions_of_gather {repeatable : Bool} {items : List Partial} {id : String}
    (h : Mentions (gather repeatable items) id) : ∃ item ∈ items, Mentions item id := by
  unfold gather at h
  split at h
  · split at h
    · exact mentions_list_iff.mp h
    · exact ⟨_, List.mem_cons_self, h⟩
  · exact mentions_list_iff.mp h

/-- What stands in an element mentions what its children do. -/
theorem exists_mentions_of_content {x : Expectation} {text : Option String} {children : List (String × Partial)}
    {id : String} (h : Mentions (x.content text children) id) : ∃ child ∈ children, Mentions child.2 id := by
  cases children with
  | nil =>
    unfold Expectation.content at h
    cases text with
    | some text => exact absurd h not_mentions_scalar
    | none =>
      dsimp only at h
      split at h
      · exact absurd h not_mentions_scalar
      · obtain ⟨_, hmem, -⟩ := mentions_object_iff.mp h
        cases hmem
  | cons first rest =>
    obtain ⟨field, hfield, h⟩ := mentions_object_iff.mp h
    obtain ⟨name, -, rfl⟩ := List.mem_map.mp hfield
    obtain ⟨child, hchild, h⟩ := exists_mentions_of_gather h
    exact ⟨(name, child), mem_named.mp hchild, h⟩

end Partial

/-! ## Circles -/

namespace Xml.Element

mutual

/-- The `id`s that an element leads to: the one it refers to, or else those that what stands in it leads to. -/
def cited : Element → List String
  | ⟨_, attributes, _, _, children⟩ =>
    match Decoder.localAttribute? attributes "href" with
    | some href => [referent href]
    | none => childCited children

def childCited : List (Element × Option String) → List String
  | [] => []
  | (child, _) :: rest => child.cited ++ childCited rest

end

mutual

/-- From the `id`s that are given in an element to those that what stands there leads to. Whether the element that
has the `id` has an `href` itself makes no difference. -/
def citations : Element → List (String × String)
  | ⟨_, attributes, _, _, children⟩ =>
    childCitations children ++
      (Decoder.localAttribute? attributes "id").toList.flatMap fun id =>
        (childCited children).map fun other => (id, other)

def childCitations : List (Element × Option String) → List (String × String)
  | [] => []
  | (child, _) :: rest => child.citations ++ childCitations rest

end

/-- No `id` leads back to itself. -/
def HasNoCircle (roots : List (Element × Option String)) : Prop :=
  ∀ id, ¬ Relation.TransGen (fun a b => (a, b) ∈ childCitations roots) id id

theorem cited_of_href? {e : Element} {href : String} (h : e.href? = some href) : e.cited = [referent href] := by
  obtain ⟨name, attributes, declarations, text, children⟩ := e
  rw [cited, show Decoder.localAttribute? attributes "href" = some href from h]

theorem cited_of_href?_eq_none {e : Element} (h : e.href? = none) : e.cited = childCited e.children := by
  obtain ⟨name, attributes, declarations, text, children⟩ := e
  rw [cited, show Decoder.localAttribute? attributes "href" = none from h]
  rfl

section

variable {defs : Option Definitions} {message : Option Nat}

mutual

/-- What stands in an element mentions what its children lead to. -/
theorem mem_childCited_of_content {x : Expectation} {n : Nat} (e : Element) {id : String}
    (h : (e.content defs message x n).Mentions id) : id ∈ childCited e.children := by
  match e with
  | ⟨name, attributes, declarations, text, children⟩ =>
    rw [content] at h
    obtain ⟨child, hchild, h⟩ := Partial.exists_mentions_of_content h
    exact mem_childCited_of_childValues children hchild h

theorem mem_childCited_of_childValues {x : Expectation} {n : Nat} (children : List (Element × Option String))
    {value : String × Partial} (hvalue : value ∈ childValues defs message x n children) {id : String}
    (h : value.2.Mentions id) : id ∈ childCited children := by
  match children with
  | [] => cases hvalue
  | (child, _) :: rest =>
    rw [childCited]
    rcases List.mem_cons.mp hvalue with rfl | hvalue
    · refine List.mem_append_left _ ?_
      cases hhref : child.href? with
      | some href =>
        rw [standIn_of_href? _ hhref] at h
        rw [cited_of_href? hhref, List.mem_singleton]
        exact Partial.mentions_ref_iff.mp h
      | none =>
        rw [standIn_of_href?_eq_none _ hhref] at h
        rw [cited_of_href?_eq_none hhref]
        exact mem_childCited_of_content child h
    · exact List.mem_append_right _ (mem_childCited_of_childValues rest hvalue h)

end

mutual

theorem mem_citations {x : Expectation} {n : Nat} (e : Element) {m : Member}
    (h : m ∈ e.members defs message x n) {id other : String} (hid : m.element.id? = some id)
    (hother : other ∈ childCited m.element.children) : (id, other) ∈ e.citations := by
  match e with
  | ⟨name, attributes, declarations, text, children⟩ =>
    rw [members] at h
    rw [citations]
    rcases List.mem_append.mp h with h | h
    · exact List.mem_append_left _ (mem_childCitations children h hid hother)
    · obtain rfl := List.mem_singleton.mp h
      refine List.mem_append_right _ (List.mem_flatMap.mpr ⟨id, Option.mem_toList.mpr hid, ?_⟩)
      exact List.mem_map.mpr ⟨other, hother, rfl⟩

theorem mem_childCitations {x : Expectation} {n : Nat} (children : List (Element × Option String)) {m : Member}
    (h : m ∈ membersInside defs message x n children) {id other : String} (hid : m.element.id? = some id)
    (hother : other ∈ childCited m.element.children) : (id, other) ∈ childCitations children := by
  match children with
  | [] => cases h
  | (child, _) :: rest =>
    rw [membersInside] at h
    rw [childCitations]
    rcases List.mem_append.mp h with h | h
    · exact List.mem_append_left _ (mem_citations child h hid hother)
    · exact List.mem_append_right _ (mem_childCitations rest h hid hother)

end

end

section

variable {defs : Option Definitions} {roots : List (Element × Option String)}

/-- What a target mentions, its `id` leads to. -/
theorem mem_childCitations_of_target {id : String} {target : Partial}
    (htarget : (documentTargets defs roots).get? id = some target) {other : String} (h : target.Mentions other) :
    (id, other) ∈ childCitations roots := by
  obtain ⟨m, hm, hid, rfl⟩ := exists_member_of_target htarget
  exact mem_childCitations roots hm hid (mem_childCited_of_content m.element h)

/-- What a target reaches, its `id` leads to in some steps. -/
theorem transGen_of_reaches {target : Partial} {id : String}
    (h : Partial.Reaches (documentTargets defs roots) target id) {start : String}
    (htarget : (documentTargets defs roots).get? start = some target) :
    Relation.TransGen (fun a b => (a, b) ∈ childCitations roots) start id := by
  induction h generalizing start with
  | mention h => exact .single (mem_childCitations_of_target htarget h)
  | through h hnext _ ih => exact .head (mem_childCitations_of_target htarget h) (ih hnext)

theorem HasNoCircle.isAcyclic (h : HasNoCircle roots) (defs : Option Definitions) (node : Partial) :
    Partial.IsAcyclic (documentTargets defs roots) node :=
  fun id _ _ htarget hreach => h id (transGen_of_reaches hreach htarget)

/-- What stands in an element, with references followed. -/
def Member.unfolded (defs : Option Definitions) (roots : List (Element × Option String)) (m : Member) : Value :=
  (m.content defs (documentMessage? roots)).resolve (documentTargets defs roots) []

theorem Member.unfolded_ne_null (defs : Option Definitions) (roots : List (Element × Option String))
    (m : Member) : m.unfolded defs roots ≠ .null := by
  rw [unfolded, content, content_eq]
  exact Partial.resolve_content_ne_null _ _ _ _ _

/-- Where an element is shown stands what it is by itself. -/
theorem Shown.at?_envelopeValue? (hnodup : (childIds roots).Nodup) (hcircle : HasNoCircle roots)
    {way : List Partial.Step} {m : Member} (h : Shown defs roots way m) :
    (envelopeValue? defs roots).bind (Value.at? way) =
      some ((m.value defs (documentMessage? roots)).resolve (documentTargets defs roots) []) := by
  obtain ⟨envelope, henvelope, hleads⟩ := h.exists_leads hnodup
  have hacyclic := hcircle.isAcyclic defs
  rw [envelopeValue?, henvelope, Option.map_some, Option.bind_some, (hacyclic envelope).at?_resolve hleads,
    (hacyclic _).resolve_eq_substitute]

/-- What an element with an `href` is by itself is what stands in the one that it refers to. -/
theorem resolve_value_of_href? (hnodup : (childIds roots).Nodup) (hcircle : HasNoCircle roots)
    {reference target : Member} {href : String} (hhref : reference.element.href? = some href)
    (htarget : target ∈ documentMembers defs roots) (hid : target.element.id? = some (referent href)) :
    (reference.value defs (documentMessage? roots)).resolve (documentTargets defs roots) [] =
      target.unfolded defs roots := by
  rw [Member.value, standIn_of_href? _ hhref, ← referent, (hcircle.isAcyclic defs _).resolve_eq_substitute,
    Partial.substitute, Partial.standsFor, get?_documentTargets hnodup htarget hid]
  rfl

end

end Xml.Element

namespace Envelope

open Partial (childSteps itemSteps)
open Xml.Element (HasNoCircle Member Shown documentMembers)

/-- Where no `id` is given twice and none leads back to itself, a reference is shown as what stands in the element
that it refers to, wherever each of the two is. That is what this element is shown as in its own places, if it has
no `href` itself. If it has, it is shown as what stands in a third element, and they are shown as the same only if
there is such an element and the same stands in it. -/
theorem decode_shared (defs : Option Definitions) {text : String} {lead : Option String}
    {roots : List (Element × Option String)} (htext : (Xml.read text).events? = some (documentEvents lead roots))
    (hnodup : (childIds roots).Nodup) (hcircle : HasNoCircle roots) :
    decode defs text = ofValue? (envelopeValue? defs roots) ∧
    ∀ way reference href place target, Shown defs roots way reference → reference.element.href? = some href →
      Shown defs roots place target → target.element.id? = some (referent href) →
      (envelopeValue? defs roots).bind (Value.at? way) = some (target.unfolded defs roots) ∧
      ((envelopeValue? defs roots).bind (Value.at? place) = (envelopeValue? defs roots).bind (Value.at? way) ↔
        ∀ href', target.element.href? = some href' →
          ∃ third ∈ documentMembers defs roots, third.element.id? = some (referent href') ∧
            third.unfolded defs roots = target.unfolded defs roots) := by
  refine ⟨decode_eq_ofValue? defs htext, fun way reference href place target hreference hhref htarget hid => ?_⟩
  have hway := hreference.at?_envelopeValue? hnodup hcircle
  rw [Element.resolve_value_of_href? hnodup hcircle hhref htarget.mem_documentMembers hid] at hway
  have hplace := htarget.at?_envelopeValue? hnodup hcircle
  refine ⟨hway, ?_⟩
  rw [hway, hplace, Option.some.injEq]
  cases hhref' : target.element.href? with
  | none =>
    rw [Member.value, Element.standIn_of_href?_eq_none _ hhref']
    exact iff_of_true rfl fun href' h => absurd h (Option.some_ne_none href').symm
  | some href' =>
    constructor
    · rintro hsame _ ⟨⟩
      cases htargets : (documentTargets defs roots).get? (referent href') with
      | none =>
        rw [Member.value, Element.standIn_of_href? _ hhref', ← referent,
          Partial.resolve_ref_of_unknown htargets] at hsame
        exact absurd hsame.symm (target.unfolded_ne_null defs roots)
      | some node =>
        obtain ⟨third, hthird, hid', -⟩ := Element.exists_member_of_target htargets
        rw [Element.resolve_value_of_href? hnodup hcircle hhref' hthird hid'] at hsame
        exact ⟨third, hthird, hid', hsame⟩
    · intro h
      obtain ⟨third, hthird, hid', hsame⟩ := h href' rfl
      rw [Element.resolve_value_of_href? hnodup hcircle hhref' hthird hid']
      exact hsame

/-! ### A line that is a remark about a number -/

/-- A line that refers to a remark, and the number of the order. -/
def lineOfRemark : Element := ⟨.unqualified "line", [("href", "#r")], [], none, []⟩

def numberOfOrder : Element := ⟨.unqualified "id", [("id", "n")], [], some "7", []⟩

def orderWithRemark : Element := .plain "order" none [lineOfRemark, numberOfOrder]

/-- A remark that refers back to the number. -/
def aboutNumber : Element := ⟨.unqualified "about", [("href", "#n")], [], none, []⟩

def remarkOnNumber : Element := ⟨.unqualified "remark", [("id", "r")], [], none, [(aboutNumber, none)]⟩

def bodyOfOrder : Element := .plain "Body" none [orderWithRemark, remarkOnNumber]

def envelopeOfOrder : Element := .plain "Envelope" none [bodyOfOrder]

def remarkText : String :=
  "<Envelope><Body><order><line href=\"#r\"/><id id=\"n\">7</id></order>" ++
    "<remark id=\"r\"><about href=\"#n\"/></remark></Body></Envelope>"

theorem read_remarkText :
    (Xml.read remarkText).events? = some (documentEvents none [(envelopeOfOrder, none)]) := by decide +kernel

/-- The order is read by its types. -/
def readsOrder : Expectation where
  schema := some (.fields [("id", .leaf "xsd:int"), ("paid", .leaf "xsd:boolean"), ("line[]", .leaf "xsd:string")])
  typed := true

def readsEnvelope : Expectation := Expectation.outermost.child "Envelope"

def readsBody : Expectation := readsEnvelope.child "Body"

theorem children_bodyOfOrder :
    Member.children (some orders) (some 2) ⟨bodyOfOrder, readsBody, 1⟩ =
      [⟨orderWithRemark, readsOrder, 2⟩, ⟨remarkOnNumber, readsBody.child "remark", 5⟩] := by
  have hinside : Expectation.ofMessage (messageSchema (some orders) "order") = readsOrder := by
    rw [messageSchema_order]
    rfl
  rw [← hinside]
  rfl

/-- The number is shown in the order, and through the remark in the line. -/
theorem shown_remarkText :
    Shown (some orders) [(envelopeOfOrder, none)] [.field 0, .field 0, .field 1]
      ⟨numberOfOrder, readsOrder.child "id", 4⟩ ∧
    Shown (some orders) [(envelopeOfOrder, none)]
      [.field 0, .field 0, .field 0, .item 0, .target "r", .field 0]
      ⟨aboutNumber, (readsBody.child "remark").child "about", 6⟩ := by
  have henvelope : Shown (some orders) [(envelopeOfOrder, none)] [] ⟨envelopeOfOrder, readsEnvelope, 0⟩ :=
    .envelope [] [] rfl rfl
  have hbody : Shown (some orders) [(envelopeOfOrder, none)] [.field 0] ⟨bodyOfOrder, readsBody, 1⟩ :=
    .child henvelope rfl [] [] rfl
  have horder : Shown (some orders) [(envelopeOfOrder, none)] [.field 0, .field 0] ⟨orderWithRemark, readsOrder, 2⟩ :=
    .child hbody rfl [] _ children_bodyOfOrder
  have hremark : Shown (some orders) [(envelopeOfOrder, none)] [.field 0, .field 1]
      ⟨remarkOnNumber, readsBody.child "remark", 5⟩ :=
    .child hbody rfl [⟨orderWithRemark, readsOrder, 2⟩] [] children_bodyOfOrder
  have hline : Shown (some orders) [(envelopeOfOrder, none)] [.field 0, .field 0, .field 0, .item 0]
      ⟨lineOfRemark, readsOrder.child "line", 3⟩ :=
    .child horder rfl [] [⟨numberOfOrder, readsOrder.child "id", 4⟩] rfl
  refine ⟨.child horder rfl [⟨lineOfRemark, readsOrder.child "line", 3⟩] [] rfl, ?_⟩
  exact .referred hline rfl hremark.mem_documentMembers rfl [] [] rfl

/-- What the remark is about is shown as the number, in the remark and in the line. -/
theorem decode_shared_remark :
    (Xml.read remarkText).events? = some (documentEvents none [(envelopeOfOrder, none)]) ∧
    (childIds [(envelopeOfOrder, none)]).Nodup ∧
    HasNoCircle [(envelopeOfOrder, none)] ∧
    (envelopeValue? (some orders) [(envelopeOfOrder, none)]).bind
      (Value.at? [.field 0, .field 0, .field 0, .item 0, .target "r", .field 0]) = some (.int 7) ∧
    (envelopeValue? (some orders) [(envelopeOfOrder, none)]).bind (Value.at? [.field 0, .field 0, .field 1]) =
      some (.int 7) := by
  have hnodup : (childIds [(envelopeOfOrder, none)]).Nodup := by decide
  have hcircle : HasNoCircle [(envelopeOfOrder, none)] := by
    -- The only way leads from the remark to the number.
    have hone : Element.childCitations [(envelopeOfOrder, none)] = [("r", "n")] := by decide
    intro id h
    rw [hone] at h
    obtain ⟨_, hfirst, -⟩ := Relation.TransGen.head'_iff.mp h
    obtain ⟨_, -, hlast⟩ := Relation.TransGen.tail'_iff.mp h
    obtain ⟨rfl, -⟩ := Prod.mk.inj (List.mem_singleton.mp hfirst)
    obtain ⟨-, hn⟩ := Prod.mk.inj (List.mem_singleton.mp hlast)
    exact absurd hn (by decide)
  obtain ⟨hnumber, habout⟩ := shown_remarkText
  have hshared := (decode_shared (some orders) read_remarkText hnodup hcircle).2
  obtain ⟨hway, hsame⟩ := hshared _ _ "#n" _ _ habout rfl hnumber rfl
  have hunfolded : (Member.mk numberOfOrder (readsOrder.child "id") 4).unfolded (some orders)
      [(envelopeOfOrder, none)] = .int 7 := by
    have hcontent : (Member.mk numberOfOrder (readsOrder.child "id") 4).content (some orders) (some 2) =
        .scalar (.int 7) := rfl
    rw [Member.unfolded, show documentMessage? [(envelopeOfOrder, none)] = some 2 from rfl, hcontent,
      Partial.resolve]
  rw [hunfolded] at hway
  exact ⟨read_remarkText, hnodup, hcircle, hway, (hsame.mpr nofun).trans hway⟩

/-! ### A chain -/

/-- A note that refers to a line, a line that refers to a remark, and the remark. -/
def noteOnLine : Element := ⟨.unqualified "note", [("href", "#a")], [], none, []⟩

def lineOnRemark : Element := ⟨.unqualified "line", [("id", "a"), ("href", "#b")], [], none, []⟩

def remarkInChain : Element := ⟨.unqualified "remark", [("id", "b")], [], some "1", []⟩

def chainOfOrder : Element := .plain "order" none [noteOnLine, lineOnRemark, remarkInChain]

def chainBody : Element := .plain "Body" none [chainOfOrder]

def chainEnvelope : Element := .plain "Envelope" none [chainBody]

def chainText : String :=
  "<Envelope><Body><order><note href=\"#a\"/><line id=\"a\" href=\"#b\"/><remark id=\"b\">1</remark>" ++
    "</order></Body></Envelope>"

theorem envelopeValue?_chain :
    envelopeValue? none [(chainEnvelope, none)] = some (.object [("Body", .object [("order", .object [
      ("note", .object []), ("line", .string "1"), ("remark", .string "1")])])]) := by
  have henvelope : Element.envelope? none [(chainEnvelope, none)] = some (.object [("Body", .object [
      ("order", .object [("note", .ref "a"), ("line", .ref "b"), ("remark", .scalar (.string "1"))])])]) := rfl
  have htargets : documentTargets none [(chainEnvelope, none)] =
      [("a", .object []), ("b", .scalar (.string "1"))] := rfl
  rw [envelopeValue?, henvelope, htargets]
  simp [Partial.resolve, Partial.resolveFields, OrderedMap.get?]

/-- The note is not shown as the line, which is shown as the remark. -/
theorem not_shared_in_chain :
    (¬ ∀ (defs : Option Definitions) (text : String) (lead : Option String) (roots : List (Element × Option String)),
      (Xml.read text).events? = some (documentEvents lead roots) → (childIds roots).Nodup → HasNoCircle roots →
      ∀ way reference href place target, Shown defs roots way reference → reference.element.href? = some href →
        Shown defs roots place target → target.element.id? = some (referent href) →
        (envelopeValue? defs roots).bind (Value.at? way) = (envelopeValue? defs roots).bind (Value.at? place)) ∧
    decode none chainText = .ok {
      header := none
      body := .object [("order", .object [
        ("note", .object []), ("line", .string "1"), ("remark", .string "1")])] } := by
  have hread : (Xml.read chainText).events? = some (documentEvents none [(chainEnvelope, none)]) := by decide +kernel
  constructor
  · intro h
    have hcircle : HasNoCircle [(chainEnvelope, none)] := by
      have hnone : Element.childCitations [(chainEnvelope, none)] = [] := by decide
      intro id h
      rw [hnone] at h
      obtain ⟨_, hfirst, -⟩ := Relation.TransGen.head'_iff.mp h
      cases hfirst
    let reads : Expectation := .ofMessage (messageSchema none "order")
    have henvelope : Shown none [(chainEnvelope, none)] [] ⟨chainEnvelope, readsEnvelope, 0⟩ :=
      .envelope [] [] rfl rfl
    have hbody : Shown none [(chainEnvelope, none)] [.field 0] ⟨chainBody, readsBody, 1⟩ :=
      .child henvelope rfl [] [] rfl
    have horder : Shown none [(chainEnvelope, none)] [.field 0, .field 0] ⟨chainOfOrder, reads, 2⟩ :=
      .child hbody rfl [] [] rfl
    have hnote : Shown none [(chainEnvelope, none)] [.field 0, .field 0, .field 0]
        ⟨noteOnLine, reads.child "note", 3⟩ :=
      .child horder rfl [] [⟨lineOnRemark, reads.child "line", 4⟩, ⟨remarkInChain, reads.child "remark", 5⟩] rfl
    have hline : Shown none [(chainEnvelope, none)] [.field 0, .field 0, .field 1]
        ⟨lineOnRemark, reads.child "line", 4⟩ :=
      .child horder rfl [⟨noteOnLine, reads.child "note", 3⟩] [⟨remarkInChain, reads.child "remark", 5⟩] rfl
    have hsame := h none chainText none _ hread (by decide) hcircle _ _ "#a" _ _ hnote rfl hline rfl
    rw [envelopeValue?_chain] at hsame
    cases hsame
  · rw [decode_eq_ofValue? none hread, envelopeValue?_chain]
    rfl

end Envelope

end Soap
