import Soap.Proofs.Envelope.Redirection

/-!
# Where the elements of a document are shown

An element of a document is read as the elements around it say, and has a number there (`Xml.Element.Member`).
What is decoded shows it in places that the names around it tell (`Xml.Element.Shown`): as a field of what the
element around it is shown as, and as an item of this field if others have its name or it is declared to repeat.
An element with an `href` shows the children of the one it refers to instead of its own. So an element can be shown
in many places, and in every one of them stands what it is to the element around it
(`Xml.Element.Shown.exists_leads`).
-/

namespace Soap

open Xml (Element)
open Xml.Element (childClosings childIds childValues closings documentMessage? documentTargets documentValues
  envelope? referent)

/-! ## Steps to a child -/

namespace Partial

variable {targets : OrderedMap String Partial}

theorem Leads.append {root node inner : Partial} {way more : List Step} (h : Leads targets root way node)
    (hmore : Leads targets node more inner) : Leads targets root (way ++ more) inner := by
  induction h with
  | here _ => exact hmore
  | field hfield _ ih => exact .field hfield (ih hmore)
  | item hitem _ ih => exact .item hitem (ih hmore)
  | target htarget _ ih => exact .target htarget (ih hmore)

/-- The way to a child among those of its name: it is an item, unless it is the only one and does not repeat. -/
def itemSteps (repeatable : Bool) (earlier later : Nat) : List Step :=
  if repeatable = false ∧ earlier + later = 0 then [] else [.item earlier]

/-- The way to a child, between others of these names. -/
def childSteps (schema : Option Description) (before : List String) (name : String) (after : List String) :
    List Step :=
  .field ((before ++ name :: after).eraseDups.idxOf name) ::
    itemSteps (schema.any (·.isRepeated name)) (before.count name) (after.count name)

theorem leads_gather (targets : OrderedMap String Partial) (repeatable : Bool) (before after : List Partial)
    (child : Partial) :
    Leads targets (gather repeatable (before ++ child :: after)) (itemSteps repeatable before.length after.length)
      child := by
  have hitem : (before ++ child :: after)[before.length]? = some child := by simp
  unfold itemSteps
  split
  · next h =>
    obtain ⟨hrepeatable, hlength⟩ := h
    obtain rfl := List.length_eq_zero_iff.mp (Nat.eq_zero_of_add_eq_zero_right hlength)
    obtain rfl := List.length_eq_zero_iff.mp (Nat.eq_zero_of_add_eq_zero_left hlength)
    rw [hrepeatable]
    exact .here child
  · next h =>
    have hgather : gather repeatable (before ++ child :: after) = .list (before ++ child :: after) := by
      match before, after with
      | [], [] =>
        cases repeatable with
        | true => rfl
        | false => exact absurd ⟨rfl, rfl⟩ h
      | [], _ :: _ | [_], _ | _ :: _ :: _, _ => rfl
    rw [hgather]
    exact .item hitem (.here child)

theorem length_named (name : String) (children : List (String × Partial)) :
    (named name children).length = (children.map Prod.fst).count name := by
  rw [named, List.length_map, List.count, List.countP_map, List.countP_eq_length_filter]
  rfl

theorem named_split (before after : List (String × Partial)) (name : String) (child : Partial) :
    named name (before ++ (name, child) :: after) = named name before ++ child :: named name after := by
  rw [named, List.filter_append, List.filter_cons_of_pos (by rw [beq_self_eq_true]), List.map_append, List.map_cons,
    ← named, ← named]

theorem leads_collect (targets : OrderedMap String Partial) (schema : Option Description)
    (before after : List (String × Partial)) (name : String) (child : Partial) :
    Leads targets (.object (collect schema (before ++ (name, child) :: after)))
      (childSteps schema (before.map Prod.fst) name (after.map Prod.fst)) child := by
  have hnames : (before ++ (name, child) :: after).map Prod.fst =
      before.map Prod.fst ++ name :: after.map Prod.fst := by
    rw [List.map_append, List.map_cons]
  have hmem : name ∈ (before.map Prod.fst ++ name :: after.map Prod.fst).eraseDups :=
    List.mem_eraseDups.mpr (by simp)
  have hindex := List.getElem?_eq_getElem (List.idxOf_lt_length_iff.mpr hmem)
  rw [List.getElem_idxOf] at hindex
  have hitems := leads_gather targets (schema.any (·.isRepeated name)) (named name before) (named name after) child
  rw [length_named, length_named, ← named_split] at hitems
  have hfield : (collect schema (before ++ (name, child) :: after))[
      (before.map Prod.fst ++ name :: after.map Prod.fst).eraseDups.idxOf name]? =
      some (name, gather (schema.any (·.isRepeated name)) (named name (before ++ (name, child) :: after))) := by
    rw [collect, List.getElem?_map, hnames, hindex, Option.map_some]
  exact .field hfield hitems

end Partial

/-! ## Elements as they are read -/

namespace Xml.Element

/-- An element of a document, with how it is expected to look there and its number. -/
structure Member where
  element : Element
  expected : Expectation
  number : Nat

section

variable (defs : Option Definitions) (message : Option Nat)

namespace Member

/-- What stands in the element. -/
def content (m : Member) : Partial := m.element.content defs message m.expected m.number

/-- What the element is to the one around it. -/
def value (m : Member) : Partial := m.element.standIn (m.content defs message)

end Member

/-- Children of an element that is read as `x` says; the first one has the number `n`. -/
def childMembers (x : Expectation) (n : Nat) : List (Element × Option String) → List Member
  | [] => []
  | (child, _) :: rest =>
    ⟨child, x.inside defs message n child.localName, n⟩ :: childMembers x (n + child.size) rest

def Member.children (m : Member) : List Member :=
  childMembers defs message m.expected (m.number + 1) m.element.children

mutual

/-- An element and those in it, in the order of their end tags. -/
def members (x : Expectation) (n : Nat) : Element → List Member
  | ⟨name, attributes, declarations, text, children⟩ =>
    membersInside x (n + 1) children ++ [⟨⟨name, attributes, declarations, text, children⟩, x, n⟩]

def membersInside (x : Expectation) (n : Nat) : List (Element × Option String) → List Member
  | [] => []
  | (child, _) :: rest =>
    members (x.inside defs message n child.localName) n child ++ membersInside x (n + child.size) rest

end

theorem members_eq (x : Expectation) (n : Nat) (e : Element) :
    e.members defs message x n = membersInside defs message x (n + 1) e.children ++ [⟨e, x, n⟩] := by
  cases e
  rw [members, children]

theorem childValues_eq_map (x : Expectation) (n : Nat) (children : List (Element × Option String)) :
    childValues defs message x n children =
      (childMembers defs message x n children).map fun m => (m.element.localName, m.value defs message) := by
  induction children generalizing n with
  | nil => rfl
  | cons first rest ih =>
    rw [childValues, childMembers, List.map_cons, ih]
    rfl

mutual

theorem closings_eq_map (x : Expectation) (n : Nat) (e : Element) :
    e.closings defs message x n =
      (e.members defs message x n).map fun m => m.element.closing (m.content defs message) := by
  match e with
  | ⟨name, attributes, declarations, text, children⟩ =>
    rw [closings, members, List.map_append, childClosings_eq_map x (n + 1) children]
    rfl

theorem childClosings_eq_map (x : Expectation) (n : Nat) (children : List (Element × Option String)) :
    childClosings defs message x n children =
      (membersInside defs message x n children).map fun m => m.element.closing (m.content defs message) := by
  match children with
  | [] => rfl
  | (child, _) :: rest =>
    rw [childClosings, membersInside, List.map_append, closings_eq_map _ n child,
      childClosings_eq_map x (n + child.size) rest]

end

/-! ### Children of elements -/

theorem mem_members_self (x : Expectation) (n : Nat) (e : Element) :
    ⟨e, x, n⟩ ∈ e.members defs message x n := by
  rw [members_eq]
  exact List.mem_append_right _ List.mem_cons_self

variable {defs message}

theorem mem_membersInside_of_child {x : Expectation} {n : Nat} {children : List (Element × Option String)}
    {m : Member} (h : m ∈ childMembers defs message x n children) :
    m ∈ membersInside defs message x n children := by
  induction children generalizing n with
  | nil => cases h
  | cons first rest ih =>
    rw [membersInside]
    rcases List.mem_cons.mp h with rfl | h
    · exact List.mem_append_left _ (mem_members_self ..)
    · exact List.mem_append_right _ (ih h)

mutual

/-- With an element its children are there. -/
theorem mem_members_child {x : Expectation} {n : Nat} (e : Element) {parent m : Member}
    (h : parent ∈ e.members defs message x n) (hm : m ∈ parent.children defs message) :
    m ∈ e.members defs message x n := by
  match e with
  | ⟨name, attributes, declarations, text, children⟩ =>
    rw [members] at h ⊢
    rcases List.mem_append.mp h with h | h
    · exact List.mem_append_left _ (mem_membersInside_child children h hm)
    · obtain rfl := List.mem_singleton.mp h
      exact List.mem_append_left _ (mem_membersInside_of_child hm)

theorem mem_membersInside_child {x : Expectation} {n : Nat} (children : List (Element × Option String))
    {parent m : Member} (h : parent ∈ membersInside defs message x n children)
    (hm : m ∈ parent.children defs message) : m ∈ membersInside defs message x n children := by
  match children with
  | [] => cases h
  | (child, _) :: rest =>
    rw [membersInside] at h ⊢
    rcases List.mem_append.mp h with h | h
    · exact List.mem_append_left _ (mem_members_child child h hm)
    · exact List.mem_append_right _ (mem_membersInside_child rest h hm)

end

end

/-! ### Elements of a document -/

section

variable (defs : Option Definitions) (roots : List (Element × Option String))

def rootMembers : List Member := childMembers defs (documentMessage? roots) .outermost 0 roots

/-- All elements of a document. -/
def documentMembers : List Member := membersInside defs (documentMessage? roots) .outermost 0 roots

theorem documentValues_eq_map :
    documentValues defs roots = (rootMembers defs roots).map fun m =>
      (m.element.localName, m.value defs (documentMessage? roots)) :=
  childValues_eq_map defs (documentMessage? roots) .outermost 0 roots

theorem mem_registered_iff {id : String} {node : Partial} :
    (id, node) ∈ registered (childClosings defs (documentMessage? roots) .outermost 0 roots) ↔
      ∃ m ∈ documentMembers defs roots,
        m.element.id? = some id ∧ m.content defs (documentMessage? roots) = node := by
  rw [childClosings_eq_map, registered, List.mem_filterMap]
  simp only [List.mem_map, exists_exists_and_eq_and]
  refine exists_congr fun m => and_congr_right fun _ => ?_
  show (m.element.id?.map fun id => (id, m.content defs (documentMessage? roots))) = some (id, node) ↔ _
  rw [Option.map_eq_some_iff]
  constructor
  · rintro ⟨_, hid, heq⟩
    obtain ⟨rfl, rfl⟩ := Prod.mk.inj heq
    exact ⟨hid, rfl⟩
  · rintro ⟨hid, rfl⟩
    exact ⟨id, hid, rfl⟩

variable {defs roots}

/-- Behind an `id` is what stands in an element that has it. -/
theorem exists_member_of_target {id : String} {node : Partial}
    (h : (documentTargets defs roots).get? id = some node) :
    ∃ m ∈ documentMembers defs roots, m.element.id? = some id ∧ m.content defs (documentMessage? roots) = node := by
  refine (mem_registered_iff defs roots).mp ?_
  rw [documentTargets, OrderedMap.get?_ofList] at h
  exact List.mem_reverse.mp (OrderedMap.mem_of_get? h)

/-- Where no `id` is given twice, it is what stands in the element that has it. -/
theorem get?_documentTargets (hnodup : (childIds roots).Nodup) {m : Member}
    (h : m ∈ documentMembers defs roots) {id : String} (hid : m.element.id? = some id) :
    (documentTargets defs roots).get? id = some (m.content defs (documentMessage? roots)) := by
  rw [documentTargets, OrderedMap.get?_ofList_eq_some_iff]
  · exact (mem_registered_iff defs roots).mpr ⟨m, h, hid, rfl⟩
  · rw [keys_registered_childClosings]
    exact hnodup

end

/-! ## Places -/

/-- The names of elements. -/
def Member.names (ms : List Member) : List String := ms.map (·.element.localName)

/-- An element of a document is shown at the end of a way from the envelope. -/
inductive Shown (defs : Option Definitions) (roots : List (Element × Option String)) :
    List Partial.Step → Member → Prop
  /-- Of several envelopes each is an item. -/
  | envelope {m : Member} (before after : List Member) (h : rootMembers defs roots = before ++ m :: after)
      (hname : m.element.localName = "Envelope") :
      Shown defs roots (Partial.itemSteps false ((Member.names before).count "Envelope")
        ((Member.names after).count "Envelope")) m
  /-- A child stands in what the element around it is shown as. -/
  | child {way : List Partial.Step} {parent m : Member} (hparent : Shown defs roots way parent)
      (hhref : parent.element.href? = none) (before after : List Member)
      (h : parent.children defs (documentMessage? roots) = before ++ m :: after) :
      Shown defs roots (way ++ Partial.childSteps parent.expected.schema (Member.names before) m.element.localName
        (Member.names after)) m
  /-- So do the children of the element that this one refers to. -/
  | referred {way : List Partial.Step} {parent holder m : Member} {href : String}
      (hparent : Shown defs roots way parent) (hhref : parent.element.href? = some href)
      (hholder : holder ∈ documentMembers defs roots) (hid : holder.element.id? = some (referent href))
      (before after : List Member) (h : holder.children defs (documentMessage? roots) = before ++ m :: after) :
      Shown defs roots (way ++ .target (referent href) :: Partial.childSteps holder.expected.schema
        (Member.names before) m.element.localName (Member.names after)) m

section

variable {defs : Option Definitions} {roots : List (Element × Option String)}

theorem Shown.mem_documentMembers {way : List Partial.Step} {m : Member} (h : Shown defs roots way m) :
    m ∈ documentMembers defs roots := by
  induction h with
  | @envelope m before after h _ =>
    have hm : m ∈ rootMembers defs roots := h ▸ List.mem_append_right _ List.mem_cons_self
    exact mem_membersInside_of_child hm
  | child _ _ before after h ih =>
    exact mem_membersInside_child roots ih (h ▸ List.mem_append_right _ List.mem_cons_self)
  | referred _ _ hholder _ before after h _ =>
    exact mem_membersInside_child roots hholder (h ▸ List.mem_append_right _ List.mem_cons_self)

/-- What stands in an element leads to what its children are to it. -/
theorem Member.leads_child (targets : OrderedMap String Partial) {message : Option Nat}
    {parent m : Member} {before after : List Member} (h : parent.children defs message = before ++ m :: after) :
    Partial.Leads targets (parent.content defs message)
      (Partial.childSteps parent.expected.schema (names before) m.element.localName (names after))
      (m.value defs message) := by
  let entry (m : Member) : String × Partial := (m.element.localName, m.value defs message)
  have hvalues : childValues defs message parent.expected (parent.number + 1) parent.element.children =
      before.map entry ++ entry m :: after.map entry := by
    rw [childValues_eq_map, ← children, h, List.map_append, List.map_cons]
  have hobject : parent.content defs message =
      .object (Partial.collect parent.expected.schema (before.map entry ++ entry m :: after.map entry)) := by
    rw [content, content_eq, hvalues]
    cases before <;> rfl
  have hleads := Partial.leads_collect targets parent.expected.schema (before.map entry) (after.map entry)
    m.element.localName (m.value defs message)
  rw [List.map_map, List.map_map] at hleads
  rw [hobject]
  exact hleads

/-- Where an element is shown stands what it is to the one around it. -/
theorem Shown.exists_leads (hnodup : (childIds roots).Nodup) {way : List Partial.Step} {m : Member}
    (h : Shown defs roots way m) :
    ∃ envelope, envelope? defs roots = some envelope ∧
      Partial.Leads (documentTargets defs roots) envelope way (m.value defs (documentMessage? roots)) := by
  induction h with
  | @envelope m before after h hname =>
    have hrepeated : (some Envelope.overlay).any (·.isRepeated "Envelope") = false := by decide
    let entry (m : Member) : String × Partial := (m.element.localName, m.value defs (documentMessage? roots))
    have hvalues : documentValues defs roots =
        before.map entry ++ ("Envelope", m.value defs (documentMessage? roots)) :: after.map entry := by
      rw [documentValues_eq_map, h, List.map_append, List.map_cons, hname]
    have hnamed := Partial.named_split (before.map entry) (after.map entry) "Envelope"
      (m.value defs (documentMessage? roots))
    have hleads := Partial.leads_gather (documentTargets defs roots) false (Partial.named "Envelope" (before.map entry))
      (Partial.named "Envelope" (after.map entry)) (m.value defs (documentMessage? roots))
    rw [Partial.length_named, Partial.length_named, List.map_map, List.map_map] at hleads
    refine ⟨_, ?_, hleads⟩
    rw [envelope?, hvalues, Partial.get?_collect, hnamed, hrepeated]
    exact if_neg (List.append_ne_nil_of_right_ne_nil _ (List.cons_ne_nil _ _))
  | child _ hhref before after h ih =>
    obtain ⟨envelope, henvelope, hleads⟩ := ih
    rw [Member.value, standIn_of_href?_eq_none _ hhref] at hleads
    exact ⟨envelope, henvelope, hleads.append (Member.leads_child _ h)⟩
  | referred _ hhref hholder hid before after h ih =>
    obtain ⟨envelope, henvelope, hleads⟩ := ih
    rw [Member.value, standIn_of_href? _ hhref] at hleads
    exact ⟨envelope, henvelope, hleads.append
      (.target (get?_documentTargets hnodup hholder hid) (Member.leads_child _ h))⟩

end

end Xml.Element

end Soap
