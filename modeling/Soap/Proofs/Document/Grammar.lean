import Soap.Proofs.Document
import Soap.Proofs.Except

/-!
# Documents and the grammar

What a document's tree says about the grammar, whichever way the document was read.

* Every node has the kind that the grammar gives it inside its parent, and is generic if the grammar
  gives none (`Document.Progress.IsGraded.follow`). So below a generic node everything is generic.
* Reading strictly is reading leniently and finding nothing generic (`Document.parse_strict_iff`):
  both ways give the same tree wherever the strict one gives any.

A tree is built from its leaves, while the kind of a node depends on what is open around it. So both
facts are about documents read in part: the grammar relates each open element to the one around it,
and strict and lenient steps agree as long as nothing generic was met.
-/

namespace Soap

/-! ## Nodes of a tree -/

/-- A node holds itself, and what its children hold. -/
inductive Node.Holds : Node → Node → Prop where
  | self (n : Node) : Holds n n
  | child {n c m : Node} (hc : c ∈ n.children) (h : Holds c m) : Holds n m

namespace Node

theorem holds_iff {n m : Node} : n.Holds m ↔ m = n ∨ ∃ c ∈ n.children, c.Holds m := by
  constructor
  · intro h
    cases h with
    | self => exact .inl rfl
    | child hc h => exact .inr ⟨_, hc, h⟩
  · rintro (rfl | ⟨c, hc, h⟩)
    · exact .self m
    · exact .child hc h

theorem Holds.trans {a b c : Node} (h : a.Holds b) (h' : b.Holds c) : a.Holds c := by
  induction h with
  | self => exact h'
  | child hc _ ih => exact .child hc (ih h')

/-- Is the kind of `child` the one that it has inside `parent`? -/
def Grades (parent child : Node) : Prop :=
  child.kind = (parent.kind.child? child.name.localName).getD .generic

/-- All children in a tree have the kinds that they have inside their parents. -/
def IsGraded (n : Node) : Prop := ∀ parent, n.Holds parent → ∀ child ∈ parent.children, parent.Grades child

/-- Nothing in a tree is generic. -/
def IsKnown (n : Node) : Prop := ∀ m, n.Holds m → m.kind ≠ .generic

theorem isGraded_iff {n : Node} :
    n.IsGraded ↔ ∀ child ∈ n.children, n.Grades child ∧ child.IsGraded := by
  constructor
  · intro h child hchild
    exact ⟨h n (.self n) child hchild, fun parent hparent => h parent (.child hchild hparent)⟩
  · intro h parent hparent
    rcases holds_iff.mp hparent with rfl | ⟨c, hc, hparent⟩
    · exact fun child hchild => (h child hchild).1
    · exact (h c hc).2 parent hparent

theorem isKnown_iff {n : Node} : n.IsKnown ↔ n.kind ≠ .generic ∧ ∀ child ∈ n.children, child.IsKnown := by
  constructor
  · intro h
    exact ⟨h n (.self n), fun child hchild m hm => h m (.child hchild hm)⟩
  · rintro ⟨hkind, h⟩ m hm
    rcases holds_iff.mp hm with rfl | ⟨c, hc, hm⟩
    · exact hkind
    · exact h c hc m hm

/-- A new last child. -/
theorem isGraded_append {parent child : Node} :
    { parent with children := parent.children ++ [child] }.IsGraded ↔
      parent.IsGraded ∧ parent.Grades child ∧ child.IsGraded := by
  rw [isGraded_iff, isGraded_iff]
  constructor
  · intro h
    exact ⟨fun c hc => h c (List.mem_append_left _ hc), h child (by simp)⟩
  · rintro ⟨hparent, hchild⟩ c hc
    rcases List.mem_append.mp hc with hc | hc
    · exact hparent c hc
    · obtain rfl := List.mem_singleton.mp hc
      exact hchild

theorem isKnown_append {parent child : Node} :
    { parent with children := parent.children ++ [child] }.IsKnown ↔ parent.IsKnown ∧ child.IsKnown := by
  rw [isKnown_iff, isKnown_iff]
  constructor
  · rintro ⟨hkind, h⟩
    exact ⟨⟨hkind, fun c hc => h c (List.mem_append_left _ hc)⟩, h child (by simp)⟩
  · rintro ⟨⟨hkind, h⟩, hchild⟩
    refine ⟨hkind, fun c hc => ?_⟩
    rcases List.mem_append.mp hc with hc | hc
    · exact h c hc
    · obtain rfl := List.mem_singleton.mp hc
      exact hchild

/-- The text of a node does not matter. -/
theorem isGraded_withText {n : Node} {text : String} : { n with text := text }.IsGraded ↔ n.IsGraded := by
  rw [isGraded_iff, isGraded_iff]
  rfl

theorem isKnown_withText {n : Node} {text : String} : { n with text := text }.IsKnown ↔ n.IsKnown := by
  rw [isKnown_iff, isKnown_iff]

/-- Below a generic node everything is generic. -/
theorem IsGraded.generic {n : Node} (h : n.IsGraded) (hkind : n.kind = .generic) {m : Node}
    (hm : n.Holds m) : m.kind = .generic := by
  induction hm with
  | self => exact hkind
  | @child n c _ hc _ ih =>
    obtain ⟨hgrade, hgraded⟩ := isGraded_iff.mp h c hc
    apply ih hgraded
    rw [hgrade, hkind, Kind.child?_generic, Option.getD_none]

end Node

namespace Kind

/-- The grammar allows nothing generic. -/
theorem child?_ne_generic {parent kind : Kind} {name : String} (h : parent.child? name = some kind) :
    kind ≠ .generic := by
  rintro rfl
  obtain ⟨entry, hfind, hkind⟩ := Option.map_eq_some_iff.mp h
  have hmem := List.mem_of_find?_eq_some hfind
  have hnone : ∀ entry ∈ parent.allowedChildren, entry.2 ≠ .generic := by
    cases parent <;> decide
  exact hnone entry hmem hkind

theorem root?_eq_some {kind : Kind} {name : String} (h : root? name = some kind) :
    kind = .definitions ∨ kind = .schema := by
  unfold root? at h
  split at h
  · exact .inl (Option.some.inj h).symm
  split at h
  · exact .inr (Option.some.inj h).symm
  · cases h

end Kind

namespace Document

/-! ## Documents read in part -/

/-- The open elements, innermost first, have the kinds that they have inside each other, and so has
what was closed in them. -/
inductive AreGraded : List Node → Prop where
  | nil : AreGraded []
  | root {n : Node} (hkind : Kind.root? n.name.localName = some n.kind) (h : n.IsGraded) : AreGraded [n]
  | inside {n parent : Node} {outer : List Node} (hkind : parent.Grades n) (h : n.IsGraded)
    (hparent : AreGraded (parent :: outer)) : AreGraded (n :: parent :: outer)

/-- What was read so far follows the grammar. There is no root before its end tag. -/
structure Progress.IsGraded (p : Progress) : Prop where
  opened : AreGraded p.opened
  root : ∀ n, p.root = some n → p.opened = [] ∧ Kind.root? n.name.localName = some n.kind ∧ n.IsGraded

/-- What is open goes on by changes that its kinds do not see. -/
theorem AreGraded.congr {n n' : Node} {outer : List Node} (h : AreGraded (n :: outer))
    (hname : n'.name = n.name) (hkind : n'.kind = n.kind) (hgraded : n'.IsGraded) :
    AreGraded (n' :: outer) := by
  cases h with
  | root hroot _ => exact .root (by rw [hname, hkind, hroot]) hgraded
  | inside hparent _ hrest =>
    refine .inside ?_ hgraded hrest
    rw [Node.Grades, hname, hkind, hparent]

/-- An element is opened with the kind that it has inside what is open. -/
theorem kindFor_graded {strict : Bool} {p : Progress} {name : QName} {kind : Kind}
    (h : kindFor strict p name = .ok kind) :
    (p.opened = [] ∧ p.root = none ∧ Kind.root? name.localName = some kind) ∨
    ∃ parent outer, p.opened = parent :: outer ∧
      kind = (parent.kind.child? name.localName).getD .generic := by
  unfold kindFor at h
  split at h
  · next hopened =>
    split at h
    · next hroot hkind => exact .inl ⟨hopened, hroot, Except.ok.inj h ▸ hkind⟩
    · cases h
  · next parent outer hopened =>
    refine .inr ⟨parent, outer, hopened, ?_⟩
    split at h
    · next hkind => rw [hkind, Option.getD_some, Except.ok.inj h]
    · next hkind =>
      rw [hkind, Option.getD_none]
      split at h
      · cases h
      · exact (Except.ok.inj h).symm

/-! ## Single steps -/

/-- The innermost element joins the one around it, or is the root. -/
def Progress.close (p : Progress) : Progress :=
  match p.opened with
  | [] => p
  | [node] => { p with opened := [], root := some node }
  | node :: parent :: outer =>
    { p with
      opened := { parent with children := parent.children ++ [node] } :: outer
      namespaces := p.namespaces.extend node.declared }

/-- The innermost element takes text. -/
def Progress.addText (p : Progress) (content : String) : Progress :=
  match p.opened with
  | [] => p
  | node :: outer => { p with opened := { node with text := node.text ++ content } :: outer }

theorem step_stop (strict : Bool) (p : Progress) (name : QName) :
    step strict p (.stop name) = .ok p.close := by
  obtain ⟨opened, root, namespaces⟩ := p
  match opened with
  | [] => rfl
  | [_] => rfl
  | _ :: _ :: _ => rfl

theorem step_text (strict : Bool) (p : Progress) (content : String) :
    step strict p (.text content) = .ok (p.addText content) := by
  obtain ⟨opened, root, namespaces⟩ := p
  cases opened <;> rfl

/-! ## Following the grammar -/

theorem AreGraded.head {n : Node} {outer : List Node} (h : AreGraded (n :: outer)) : n.IsGraded := by
  cases h with
  | root _ h => exact h
  | inside _ h _ => exact h

theorem Progress.IsGraded.root_eq_none {p : Progress} (hp : p.IsGraded) {n : Node} {outer : List Node}
    (hopened : p.opened = n :: outer) : p.root = none := by
  cases hroot : p.root with
  | none => rfl
  | some root => cases hopened.symm.trans (hp.root root hroot).1

/-- An element is opened where the grammar puts it. -/
theorem Progress.IsGraded.open {strict : Bool} {p : Progress} (hp : p.IsGraded) {node : Node}
    (hkind : kindFor strict p node.name = .ok node.kind) (hleaf : node.children = [])
    (namespaces : OrderedMap String String) :
    Progress.IsGraded { p with opened := node :: p.opened, namespaces } := by
  have hgraded : node.IsGraded := Node.isGraded_iff.mpr (by simp [hleaf])
  have hopened := hp.opened
  rcases kindFor_graded hkind with ⟨hnil, hroot, hkind⟩ | ⟨parent, outer, hcons, hkind⟩
  · refine ⟨?_, fun n hn => ?_⟩
    · rw [hnil]
      exact .root hkind hgraded
    · cases hroot.symm.trans hn
  · refine ⟨?_, fun n hn => ?_⟩
    · rw [hcons] at hopened ⊢
      exact .inside hkind hgraded hopened
    · cases (hp.root_eq_none hcons).symm.trans hn

theorem Progress.IsGraded.close {p : Progress} (hp : p.IsGraded) : p.close.IsGraded := by
  have hopened := hp.opened
  unfold Progress.close
  split
  · exact hp
  · next node hone =>
    rw [hone] at hopened
    cases hopened with
    | root hkind hnode =>
      refine ⟨.nil, fun n hn => ?_⟩
      obtain rfl := Option.some.inj hn
      exact ⟨rfl, hkind, hnode⟩
  · next node parent outer hmore =>
    rw [hmore] at hopened
    cases hopened with
    | inside hkind hnode hparent =>
      refine ⟨?_, fun n hn => ?_⟩
      · exact hparent.congr rfl rfl (Node.isGraded_append.mpr ⟨hparent.head, hkind, hnode⟩)
      · cases (hp.root_eq_none hmore).symm.trans hn

theorem Progress.IsGraded.addText {p : Progress} (hp : p.IsGraded) (content : String) :
    (p.addText content).IsGraded := by
  have hopened := hp.opened
  unfold Progress.addText
  split
  · exact hp
  · next node outer hcons =>
    rw [hcons] at hopened
    refine ⟨?_, fun n hn => ?_⟩
    · exact hopened.congr rfl rfl (Node.isGraded_withText.mpr hopened.head)
    · cases (hp.root_eq_none hcons).symm.trans hn

/-- One step keeps to the grammar. -/
theorem Progress.IsGraded.step {strict : Bool} {p q : Progress} {event : Xml.Event} (hp : p.IsGraded)
    (h : step strict p event = .ok q) : q.IsGraded := by
  cases event with
  | start name attributes declared =>
    obtain ⟨kind, hkind, hq⟩ := bind_eq_ok h
    obtain rfl := Except.ok.inj hq
    exact hp.open hkind rfl _
  | stop name =>
    rw [step_stop] at h
    obtain rfl := Except.ok.inj h
    exact hp.close
  | text content =>
    rw [step_text] at h
    obtain rfl := Except.ok.inj h
    exact hp.addText content

/-- A whole run keeps to the grammar. -/
theorem Progress.IsGraded.follow {strict : Bool} {p q : Progress} {events : List Xml.Occurrence}
    (hp : p.IsGraded) (h : follow strict p events = .ok q) : q.IsGraded := by
  induction events generalizing p with
  | nil =>
    obtain rfl := Except.ok.inj h
    exact hp
  | cons first rest ih =>
    obtain ⟨r, hr, hq⟩ := bind_eq_ok h
    exact ih (hp.step hr) hq

theorem Progress.isGraded_start : ({} : Progress).IsGraded := ⟨.nil, by simp⟩

/-! ## Strict and lenient reading -/

/-- Nothing that was read so far is generic. -/
def Progress.IsKnown (p : Progress) : Prop := ∀ n ∈ p.opened ++ p.root.toList, n.IsKnown

theorem Progress.isKnown_close {p : Progress} (hp : p.IsGraded) : p.close.IsKnown ↔ p.IsKnown := by
  unfold Progress.close
  split
  · rfl
  · next node hone =>
    unfold Progress.IsKnown
    rw [hone, hp.root_eq_none hone]
    simp
  · next node parent outer hmore =>
    unfold Progress.IsKnown
    simp only [hmore, hp.root_eq_none hmore, Option.toList_none, List.append_nil, List.forall_mem_cons,
      Node.isKnown_append]
    exact ⟨fun ⟨⟨hparent, hnode⟩, hall⟩ => ⟨hnode, hparent, hall⟩,
      fun ⟨hnode, hparent, hall⟩ => ⟨⟨hparent, hnode⟩, hall⟩⟩

theorem Progress.isKnown_addText {p : Progress} {content : String} :
    (p.addText content).IsKnown ↔ p.IsKnown := by
  unfold Progress.addText
  split
  · rfl
  · next node outer hcons =>
    unfold Progress.IsKnown
    simp only [hcons, List.cons_append, List.forall_mem_cons, Node.isKnown_withText]

/-- A strict choice of a kind is a lenient one that is not generic. -/
theorem kindFor_strict_iff {p : Progress} {name : QName} {kind : Kind} :
    kindFor true p name = .ok kind ↔ kindFor false p name = .ok kind ∧ kind ≠ .generic := by
  unfold kindFor
  split
  · split
    · next hkind =>
      refine (and_iff_left_of_imp fun h => ?_).symm
      obtain rfl := Except.ok.inj h
      rcases Kind.root?_eq_some hkind with rfl | rfl <;> decide
    · simp
  · split
    · next hkind =>
      refine (and_iff_left_of_imp fun h => ?_).symm
      obtain rfl := Except.ok.inj h
      exact Kind.child?_ne_generic hkind
    · refine iff_of_false (by simp) ?_
      rintro ⟨h, hne⟩
      exact hne (Except.ok.inj h).symm

/-- A strict step from where nothing is generic is a lenient step to where nothing is. -/
theorem step_strict_iff {p q : Progress} {event : Xml.Event} (hp : p.IsGraded) :
    step true p event = .ok q ∧ p.IsKnown ↔ step false p event = .ok q ∧ q.IsKnown := by
  cases event with
  | start name attributes declared =>
    constructor
    · rintro ⟨h, hknown⟩
      obtain ⟨kind, hkind, hq⟩ := bind_eq_ok h
      obtain ⟨hlenient, hne⟩ := kindFor_strict_iff.mp hkind
      refine ⟨?_, ?_⟩
      · rw [step, hlenient]
        exact hq
      · obtain rfl := Except.ok.inj hq
        intro n hn
        rcases List.mem_cons.mp hn with rfl | hn
        · exact Node.isKnown_iff.mpr ⟨hne, by simp⟩
        · exact hknown n hn
    · rintro ⟨h, hknown⟩
      obtain ⟨kind, hkind, hq⟩ := bind_eq_ok h
      obtain rfl := Except.ok.inj hq
      obtain ⟨hnode, hrest⟩ := List.forall_mem_cons.mp hknown
      refine ⟨?_, hrest⟩
      rw [step, kindFor_strict_iff.mpr ⟨hkind, (Node.isKnown_iff.mp hnode).1⟩]
      rfl
  | stop name =>
    rw [step_stop, step_stop]
    refine and_congr_right fun h => ?_
    rw [← Except.ok.inj h, Progress.isKnown_close hp]
  | text content =>
    rw [step_text, step_text]
    refine and_congr_right fun h => ?_
    rw [← Except.ok.inj h, Progress.isKnown_addText]

/-- The same of a whole run. -/
theorem follow_strict_iff {p q : Progress} {events : List Xml.Occurrence} (hp : p.IsGraded) :
    follow true p events = .ok q ∧ p.IsKnown ↔ follow false p events = .ok q ∧ q.IsKnown := by
  induction events generalizing p with
  | nil =>
    refine and_congr_right fun h => ?_
    rw [Except.ok.inj h]
  | cons first rest ih =>
    constructor
    · rintro ⟨h, hknown⟩
      obtain ⟨r, hr, hq⟩ := bind_eq_ok h
      obtain ⟨hlenient, hknown⟩ := (step_strict_iff hp).mp ⟨hr, hknown⟩
      obtain ⟨hq, hknown⟩ := (ih (hp.step hlenient)).mp ⟨hq, hknown⟩
      refine ⟨?_, hknown⟩
      rw [follow, hlenient]
      exact hq
    · rintro ⟨h, hknown⟩
      obtain ⟨r, hr, hq⟩ := bind_eq_ok h
      obtain ⟨hq, hknown⟩ := (ih (hp.step hr)).mpr ⟨hq, hknown⟩
      obtain ⟨hstrict, hknown⟩ := (step_strict_iff hp).mpr ⟨hr, hknown⟩
      refine ⟨?_, hknown⟩
      rw [follow, hstrict]
      exact hq

/-- A document is what was read when everything is closed and there is a root. -/
theorem finish_eq_ok {p : Progress} {t : Document} (h : finish p = .ok t) :
    p.opened = [] ∧ p.root = some t.root := by
  unfold finish at h
  split at h
  · cases h
  · next hopened =>
    split at h
    · next root hroot =>
      obtain rfl := Except.ok.inj h
      exact ⟨hopened, hroot⟩
    · cases h

/-- A text that gives a document was followed to its end. -/
theorem parse_eq_ok {text : String} {strict : Bool} {t : Document} (h : parse text strict = .ok t) :
    ∃ p, follow strict {} (Xml.read text).events = .ok p ∧ (Xml.read text).error? = none ∧ finish p = .ok t := by
  obtain ⟨p, hp, hfinish⟩ := bind_eq_ok h
  cases herror : (Xml.read text).error? with
  | some e =>
    rw [herror] at hfinish
    cases hfinish
  | none =>
    rw [herror] at hfinish
    exact ⟨p, hp, rfl, hfinish⟩

theorem parse_of_follow {text : String} {strict : Bool} {p : Progress}
    (hp : follow strict {} (Xml.read text).events = .ok p) (herror : (Xml.read text).error? = none) :
    parse text strict = finish p := by
  rw [parse, ofReading, hp, ok_bind, herror]

theorem Progress.isKnown_iff_of_finish {p : Progress} {t : Document} (h : finish p = .ok t) :
    p.IsKnown ↔ t.root.IsKnown := by
  obtain ⟨hopened, hroot⟩ := finish_eq_ok h
  unfold Progress.IsKnown
  rw [hopened, hroot]
  simp

/-- A text is read strictly as a tree if it is read leniently as this tree and the tree holds nothing
generic. Read in either way, the root is a description or a schema, and every other node has the kind
that the grammar gives it inside its parent, and is generic if there is none: so what a generic node
holds is generic. -/
theorem parse_strict_iff (text : String) (t : Document) :
    (parse text true = .ok t ↔ parse text false = .ok t ∧ ∀ n, t.root.Holds n → n.kind ≠ .generic) ∧
    ∀ strict, parse text strict = .ok t →
      (t.root.kind = .definitions ∨ t.root.kind = .schema) ∧
      Kind.root? t.root.name.localName = some t.root.kind ∧
      ∀ n, t.root.Holds n →
        (∀ child ∈ n.children, child.kind = (n.kind.child? child.name.localName).getD .generic) ∧
        (n.kind = .generic → ∀ m, n.Holds m → m.kind = .generic) := by
  refine ⟨⟨fun h => ?_, fun ⟨h, hknown⟩ => ?_⟩, fun strict h => ?_⟩
  · obtain ⟨p, hp, herror, hfinish⟩ := parse_eq_ok h
    have hstart : ({} : Progress).IsKnown := by simp [Progress.IsKnown]
    obtain ⟨hlenient, hknown⟩ := (follow_strict_iff Progress.isGraded_start).mp ⟨hp, hstart⟩
    refine ⟨?_, (Progress.isKnown_iff_of_finish hfinish).mp hknown⟩
    rw [parse_of_follow hlenient herror, hfinish]
  · obtain ⟨p, hp, herror, hfinish⟩ := parse_eq_ok h
    have hend := (Progress.isKnown_iff_of_finish hfinish).mpr hknown
    obtain ⟨hstrict, -⟩ := (follow_strict_iff Progress.isGraded_start).mpr ⟨hp, hend⟩
    rw [parse_of_follow hstrict herror, hfinish]
  · obtain ⟨p, hp, -, hfinish⟩ := parse_eq_ok h
    obtain ⟨-, hroot, hgraded⟩ := (Progress.isGraded_start.follow hp).root _ (finish_eq_ok hfinish).2
    refine ⟨Kind.root?_eq_some hroot, hroot, fun n hn => ⟨hgraded n hn, fun hkind m hm => ?_⟩⟩
    exact Node.IsGraded.generic (fun parent hparent => hgraded parent (hn.trans hparent)) hkind hm

/-! ### A port type with a stray element -/

/-- A node without text, attributes and namespaces. -/
def bareNode (kind : Kind) (name : String) (children : List Node) : Node :=
  { kind, name := .unqualified name, attributes := [], declared := [], scope := [], text := "", children }

/-- An element that a port type does not have, around one that it has. -/
def strayNode : Node := bareNode .generic "stray" [bareNode .generic "operation" []]

def strayDocument : Document :=
  { root := bareNode .definitions "definitions" [bareNode .portType "portType" [strayNode]], namespaces := [] }

def strayText : String :=
  "<definitions><portType><stray><operation/></stray></portType></definitions>"

/-- Leniently, the stray element is generic with all that it holds. Strictly, there is no document. -/
theorem parse_strict_iff_stray :
    parse strayText false = .ok strayDocument ∧ (∀ n, strayNode.Holds n → n.kind = .generic) ∧
    ∀ t, parse strayText true ≠ .ok t := by
  have hlenient : parse strayText false = .ok strayDocument := rfl
  have hholds : strayDocument.root.Holds strayNode :=
    .child List.mem_cons_self (.child List.mem_cons_self (.self strayNode))
  have hgraded := ((parse_strict_iff strayText strayDocument).2 false hlenient).2.2 strayNode hholds
  refine ⟨hlenient, hgraded.2 rfl, fun t hstrict => ?_⟩
  obtain ⟨ht, hknown⟩ := (parse_strict_iff strayText t).1.mp hstrict
  obtain rfl := Except.ok.inj (hlenient.symm.trans ht)
  exact hknown strayNode hholds rfl

end Document

end Soap
