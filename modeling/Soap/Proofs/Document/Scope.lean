import Soap.Proofs.Document.Grammar
import Soap.Proofs.OrderedMap

/-!
# Namespaces in scope

Where a prefix is bound in a document, and to what. Two tables are kept while a document is read.

* The bindings in scope at a node: a prefix is bound there to what the nearest node around it
  declares, the node itself included (`Document.resolvePrefix?_eq_nearest`).
* The bindings of the document: a prefix is bound to what was declared last, where the root comes
  first and the other nodes in the order in which they close (`Document.get?_namespaces`).

Both tables are there as soon as a node is opened or closed, so they are related to the tree read so
far, step by step (`Document.Progress.IsScoped`). What one table says of a prefix, the other says as
well where all declarations of the prefix agree (`Document.AgreesOn`).
-/

namespace Soap

namespace OrderedMap

variable {κ α : Type} [DecidableEq κ]

/-- Entries of different keys count before what they extend. -/
theorem get?_extend_of_nodup {m entries : OrderedMap κ α} (h : entries.keys.Nodup) (k : κ) :
    (m.extend entries).get? k = (entries.get? k <|> m.get? k) := by
  rw [get?_extend, ← get?_ofList, ofList_of_nodup h]

end OrderedMap

namespace Xml

/-! ## Declarations of a tag -/

/-- An opening tag declares no prefix twice. -/
def Event.DeclaresOnce : Event → Prop
  | .start _ _ declarations => declarations.keys.Nodup
  | .stop _ | .text _ => True

theorem nodup_fileAttribute {attributes declarations : OrderedMap String String} (h : declarations.keys.Nodup)
    (key value : List Char) : (fileAttribute attributes declarations key value).2.keys.Nodup := by
  unfold fileAttribute
  dsimp only
  split
  · exact OrderedMap.nodup_insert h _ _
  · split
    · exact OrderedMap.nodup_insert h _ _
    · exact h

theorem nodup_fileAttributes {raw : List (List Char × List Char)}
    {attributes declarations : OrderedMap String String} (h : declarations.keys.Nodup)
    {filed : OrderedMap String String × OrderedMap String String}
    (hfiled : fileAttributes raw attributes declarations = .ok filed) : filed.2.keys.Nodup := by
  induction raw generalizing attributes declarations with
  | nil =>
    obtain rfl := Except.ok.inj hfiled
    exact h
  | cons first rest ih =>
    obtain ⟨key, content⟩ := first
    obtain ⟨value, -, hrest⟩ := bind_eq_ok hfiled
    exact ih (nodup_fileAttribute h key value) hrest

theorem declaresOnce_startEvent {content : List Char} {name : QName} {event : Event}
    (h : startEvent content = .ok (name, event)) : event.DeclaresOnce := by
  obtain ⟨⟨attributes, declarations⟩, hfiled, h⟩ := bind_eq_ok h
  have hnone : (OrderedMap.keys ([] : OrderedMap String String)).Nodup := List.nodup_nil
  have hnodup : declarations.keys.Nodup := nodup_fileAttributes hnone (mapError_eq_ok hfiled)
  dsimp only at h
  split at h
  · cases h
  · obtain rfl := (Prod.mk.inj (Except.ok.inj h)).2
    exact hnodup

/-- All tags of these events declare no prefix twice. -/
def DeclareOnce (events : List Occurrence) : Prop := ∀ o ∈ events, o.1.DeclaresOnce

theorem declareOnce_nil : DeclareOnce [] := by
  intro o ho
  cases ho

theorem declareOnce_flush (run : List Char) (pos : Nat) : DeclareOnce (flush run pos) := by
  unfold flush
  split
  · exact declareOnce_nil
  · intro o ho
    obtain rfl := List.mem_singleton.mp ho
    trivial

theorem DeclareOnce.append {a b : List Occurrence} (ha : DeclareOnce a) (hb : DeclareOnce b) :
    DeclareOnce (a ++ b) := by
  intro o ho
  exact (List.mem_append.mp ho).elim (ha o) (hb o)

/-- In a reading, no tag declares a prefix twice. -/
theorem declareOnce_eventsFrom (ending : Ending) (run : List Char) (items : List Placed) :
    DeclareOnce (eventsFrom ending run items).events := by
  induction items generalizing run with
  | nil =>
    cases ending with
    | done pos => exact declareOnce_flush run pos
    | failed _ => exact declareOnce_nil
  | cons item rest ih =>
    obtain ⟨token, pos⟩ := item
    cases token with
    | startTag content =>
      rw [eventsFrom]
      split
      · exact declareOnce_nil
      · next event hevent =>
        have htag : DeclareOnce [(event, pos)] :=
          List.forall_mem_singleton.mpr (declaresOnce_startEvent hevent)
        exact ((declareOnce_flush run pos).append htag).append (ih [])
    | emptyTag content =>
      rw [eventsFrom]
      split
      · exact declareOnce_nil
      · next name event hevent =>
        have htags : DeclareOnce [(event, pos), (.stop name, pos)] :=
          List.forall_mem_cons.mpr ⟨declaresOnce_startEvent hevent, List.forall_mem_singleton.mpr trivial⟩
        exact ((declareOnce_flush run pos).append htags).append (ih [])
    | endTag name =>
      have htag : DeclareOnce [(.stop (QName.parse (String.ofList name)), pos)] :=
        List.forall_mem_singleton.mpr trivial
      exact ((declareOnce_flush run pos).append htag).append (ih [])
    | text more => exact ih (run ++ more)
    | cdata more => exact ih (run ++ more)
    | other => exact ih run
    | reference name =>
      rw [eventsFrom]
      split
      · exact ih _
      · exact declareOnce_nil

end Xml

/-! ## Nodes inside nodes -/

/-- A node of a tree, and the nodes around it, innermost first. -/
inductive Node.Within (root : Node) : Node → List Node → Prop where
  | root : Within root root []
  | child {parent child : Node} {outer : List Node} (h : Within root parent outer)
    (hchild : child ∈ parent.children) : Within root child (parent :: outer)

namespace Node

theorem Within.holds {root n : Node} {outer : List Node} (h : root.Within n outer) : root.Holds n := by
  induction h with
  | root => exact .self root
  | child _ hchild ih => exact ih.trans (.child hchild (.self _))

/-- What is around a node is in the tree as well. -/
theorem Within.holds_of_mem {root n m : Node} {outer : List Node} (h : root.Within n outer)
    (hm : m ∈ n :: outer) : root.Holds m := by
  induction h with
  | root =>
    obtain rfl := List.mem_singleton.mp hm
    exact .self m
  | child hwithin hchild ih =>
    rcases List.mem_cons.mp hm with rfl | hm
    · exact (hwithin.child hchild).holds
    · exact ih hm

/-- A node inside a node of the tree. -/
theorem Within.trans {root a n : Node} {above between : List Node} (h : root.Within a above)
    (hn : a.Within n between) : root.Within n (between ++ above) := by
  induction hn with
  | root => exact h
  | child _ hchild ih => exact ih.child hchild

/-- What the nearest declaration around a node binds a prefix to. -/
def nearest? (n : Node) (outer : List Node) (name : String) : Option String :=
  (n :: outer).findSome? fun m => m.declared.get? name

theorem nearest?_eq (n : Node) (outer : List Node) (name : String) :
    n.nearest? outer name =
      (n.declared.get? name <|> outer.findSome? fun m => m.declared.get? name) := by
  rw [nearest?, List.findSome?_cons]
  cases n.declared.get? name <;> rfl

/-- A node sees what is seen around it, and its own declarations before that. -/
structure Sees (outer : OrderedMap String String) (n : Node) : Prop where
  scope : n.scope = outer.extend n.declared
  declared : n.declared.keys.Nodup

/-- All nodes in a tree see what their parents see. -/
def IsScoped (n : Node) : Prop := ∀ parent, n.Holds parent → ∀ child ∈ parent.children, Sees parent.scope child

theorem isScoped_iff {n : Node} : n.IsScoped ↔ ∀ child ∈ n.children, Sees n.scope child ∧ child.IsScoped := by
  constructor
  · intro h child hchild
    exact ⟨h n (.self n) child hchild, fun parent hparent => h parent (.child hchild hparent)⟩
  · intro h parent hparent
    rcases holds_iff.mp hparent with rfl | ⟨c, hc, hparent⟩
    · exact fun child hchild => (h child hchild).1
    · exact (h c hc).2 parent hparent

theorem Sees.get?_scope {outer : OrderedMap String String} {n : Node} (h : Sees outer n) (name : String) :
    n.scope.get? name = (n.declared.get? name <|> outer.get? name) := by
  rw [h.scope, OrderedMap.get?_extend_of_nodup h.declared]

/-- In a tree where everything sees what is around it, a prefix is bound by the nearest declaration. -/
theorem Within.resolvePrefix?_eq {root n : Node} {outer : List Node} (h : root.Within n outer)
    (hroot : Sees [] root) (hscoped : root.IsScoped) (name : String) :
    n.resolvePrefix? name = n.nearest? outer name := by
  induction h with
  | root =>
    show root.scope.get? name = _
    rw [hroot.get?_scope, nearest?_eq]
    rfl
  | @child parent child outer hwithin hchild ih =>
    have hparent : parent.scope.get? name = parent.nearest? outer name := ih
    show child.scope.get? name = _
    rw [(hscoped _ hwithin.holds _ hchild).get?_scope, hparent, nearest?_eq child, nearest?]

/-! ## Declarations in the order in which nodes close -/

mutual

/-- What is declared in a tree, in the order in which its nodes close. -/
def closing : Node → List (String × String)
  | ⟨_, _, _, declared, _, _, children⟩ => closingAll children ++ declared

def closingAll : List Node → List (String × String)
  | [] => []
  | n :: rest => n.closing ++ closingAll rest

end

theorem closing_eq (n : Node) : n.closing = closingAll n.children ++ n.declared := by
  cases n
  rfl

theorem closingAll_append (a b : List Node) : closingAll (a ++ b) = closingAll a ++ closingAll b := by
  induction a with
  | nil => rfl
  | cons n rest ih => rw [List.cons_append, closingAll, closingAll, ih, List.append_assoc]

mutual

/-- They are what its nodes declare. -/
theorem mem_closing {n : Node} {e : String × String} : e ∈ n.closing ↔ ∃ m, n.Holds m ∧ e ∈ m.declared := by
  match n with
  | ⟨kind, name, attributes, declared, scope, text, children⟩ =>
    rw [closing, List.mem_append, mem_closingAll]
    constructor
    · rintro (⟨c, hc, m, hm, he⟩ | he)
      · exact ⟨m, .child hc hm, he⟩
      · exact ⟨_, .self _, he⟩
    · rintro ⟨m, hm, he⟩
      rcases holds_iff.mp hm with rfl | ⟨c, hc, hm⟩
      · exact .inr he
      · exact .inl ⟨c, hc, m, hm, he⟩

theorem mem_closingAll {ns : List Node} {e : String × String} :
    e ∈ closingAll ns ↔ ∃ n ∈ ns, ∃ m, n.Holds m ∧ e ∈ m.declared := by
  match ns with
  | [] => simp [closingAll]
  | n :: rest =>
    rw [closingAll, List.mem_append, mem_closing, mem_closingAll]
    simp only [List.mem_cons, exists_eq_or_imp]

end

/-- What is declared in a document with this root: first by the root, then in the order in which the
others close. -/
def declarations (n : Node) : List (String × String) := n.declared ++ closingAll n.children

theorem mem_declarations {n : Node} {e : String × String} :
    e ∈ n.declarations ↔ ∃ m, n.Holds m ∧ e ∈ m.declared := by
  rw [← mem_closing, closing_eq, declarations, List.mem_append, List.mem_append, or_comm]

end Node

namespace Document

open Node (Sees closingAll closingAll_append)

/-! ## Documents read in part -/

/-- What is seen inside the open elements. -/
def seenIn : List Node → OrderedMap String String
  | [] => []
  | n :: _ => n.scope

/-- The open elements, innermost first, see what is around them, and so does what was closed in
them. -/
inductive AreScoped : List Node → Prop where
  | nil : AreScoped []
  | cons {n : Node} {outer : List Node} (hsees : Sees (seenIn outer) n) (h : n.IsScoped)
    (houter : AreScoped outer) : AreScoped (n :: outer)

/-- What the open elements and those that were closed in them declare, in the order in which it
came to the table. -/
def declaredIn : List Node → List (String × String)
  | [] => []
  | [root] => root.declarations
  | n :: outer => declaredIn outer ++ closingAll n.children

/-- What was read so far has its declarations in both tables. -/
structure Progress.IsScoped (p : Progress) : Prop where
  opened : AreScoped p.opened
  root : ∀ n, p.root = some n → Sees [] n ∧ n.IsScoped
  namespaces : p.namespaces = OrderedMap.ofList (match p.root with
    | some n => n.declarations
    | none => declaredIn p.opened)

theorem Progress.isScoped_start : ({} : Progress).IsScoped := ⟨.nil, by simp, rfl⟩

theorem scopeFor_eq (p : Progress) (declared : OrderedMap String String) :
    scopeFor p declared = (seenIn p.opened).extend declared := by
  unfold scopeFor
  cases p.opened <;> rfl

/-- A new innermost element declares nothing more than itself. -/
theorem declaredIn_cons_leaf {n : Node} (hleaf : n.children = []) (outer : List Node) :
    declaredIn (n :: outer) = declaredIn outer ++ (if outer.isEmpty then n.declared else []) := by
  cases outer with
  | nil => simp [declaredIn, Node.declarations, hleaf, closingAll]
  | cons => simp [declaredIn, hleaf, closingAll]

/-- An element that joins the one around it adds its own declarations. -/
theorem declaredIn_close (n parent : Node) (outer : List Node) :
    declaredIn ({ parent with children := parent.children ++ [n] } :: outer) =
      declaredIn (n :: parent :: outer) ++ n.declared := by
  have hchildren : closingAll (parent.children ++ [n]) =
      closingAll parent.children ++ closingAll n.children ++ n.declared := by
    rw [closingAll_append, closingAll, closingAll, List.append_nil, Node.closing_eq, List.append_assoc]
  cases outer with
  | nil => simp [declaredIn, Node.declarations, hchildren]
  | cons => simp [declaredIn, hchildren]

theorem declaredIn_withText (n : Node) (text : String) (outer : List Node) :
    declaredIn ({ n with text := text } :: outer) = declaredIn (n :: outer) := by
  cases outer <;> rfl

/-! ## Steps -/

theorem AreScoped.head {n : Node} {outer : List Node} (h : AreScoped (n :: outer)) :
    Sees (seenIn outer) n ∧ n.IsScoped ∧ AreScoped outer := by
  cases h with
  | cons hsees h houter => exact ⟨hsees, h, houter⟩

/-- An element is opened with the bindings around it and its own. -/
theorem Progress.IsScoped.open {p : Progress} (hp : p.IsScoped) (hroot : p.root = none) {n : Node}
    (hscope : n.scope = scopeFor p n.declared) (hnodup : n.declared.keys.Nodup) (hleaf : n.children = []) :
    Progress.IsScoped { p with
      opened := n :: p.opened
      namespaces := if p.opened.isEmpty then p.namespaces.extend n.declared else p.namespaces } where
  opened := by
    have hscoped : n.IsScoped := Node.isScoped_iff.mpr (by simp [hleaf])
    refine .cons ⟨?_, hnodup⟩ hscoped hp.opened
    rw [hscope, scopeFor_eq]
  root m hm := nomatch hroot.symm.trans hm
  namespaces := by
    have hnamespaces := hp.namespaces
    simp only [hroot] at hnamespaces ⊢
    rw [declaredIn_cons_leaf hleaf, hnamespaces]
    split
    · rw [OrderedMap.ofList, OrderedMap.ofList, OrderedMap.extend_append]
    · rw [List.append_nil]

theorem Progress.IsScoped.close {p : Progress} (hp : p.IsScoped) (hgraded : p.IsGraded) :
    p.close.IsScoped := by
  have hopened := hp.opened
  have hnamespaces := hp.namespaces
  unfold Progress.close
  split
  · exact hp
  · next node hone =>
    rw [hone] at hopened hnamespaces
    obtain ⟨hsees, hscoped, -⟩ := hopened.head
    rw [hgraded.root_eq_none hone] at hnamespaces
    refine ⟨.nil, fun n hn => ?_, hnamespaces⟩
    obtain rfl := Option.some.inj hn
    exact ⟨hsees, hscoped⟩
  · next node parent outer hmore =>
    have hroot := hgraded.root_eq_none hmore
    rw [hmore] at hopened hnamespaces
    rw [hroot] at hnamespaces
    obtain ⟨hsees, hscoped, hparent⟩ := hopened.head
    obtain ⟨hparentSees, hparentScoped, houter⟩ := hparent.head
    refine ⟨.cons ⟨hparentSees.scope, hparentSees.declared⟩ ?_ houter, fun n hn => ?_, ?_⟩
    · rw [Node.isScoped_iff] at hparentScoped ⊢
      intro c hc
      rcases List.mem_append.mp hc with hc | hc
      · exact hparentScoped c hc
      · obtain rfl := List.mem_singleton.mp hc
        exact ⟨hsees, hscoped⟩
    · cases hroot.symm.trans hn
    · simp only [hroot]
      rw [declaredIn_close, hnamespaces, OrderedMap.ofList, OrderedMap.ofList, OrderedMap.extend_append]

theorem Progress.IsScoped.addText {p : Progress} (hp : p.IsScoped) (content : String) :
    (p.addText content).IsScoped := by
  have hopened := hp.opened
  have hnamespaces := hp.namespaces
  unfold Progress.addText
  split
  · exact hp
  · next node outer hcons =>
    rw [hcons] at hopened hnamespaces
    obtain ⟨hsees, hscoped, houter⟩ := hopened.head
    refine ⟨.cons ⟨hsees.scope, hsees.declared⟩ ?_ houter, hp.root, ?_⟩
    · rw [Node.isScoped_iff] at hscoped ⊢
      exact hscoped
    · simp only [declaredIn_withText]
      exact hnamespaces

/-- One step keeps both tables. -/
theorem Progress.IsScoped.step {strict : Bool} {p q : Progress} {event : Xml.Event} (hp : p.IsScoped)
    (hgraded : p.IsGraded) (hevent : event.DeclaresOnce) (h : step strict p event = .ok q) : q.IsScoped := by
  cases event with
  | start name attributes declared =>
    obtain ⟨kind, hkind, hq⟩ := bind_eq_ok h
    obtain rfl := Except.ok.inj hq
    have hroot : p.root = none := by
      rcases kindFor_graded hkind with ⟨-, hroot, -⟩ | ⟨parent, outer, hcons, -⟩
      · exact hroot
      · exact hgraded.root_eq_none hcons
    exact hp.open hroot rfl hevent rfl
  | stop name =>
    rw [step_stop] at h
    obtain rfl := Except.ok.inj h
    exact hp.close hgraded
  | text content =>
    rw [step_text] at h
    obtain rfl := Except.ok.inj h
    exact hp.addText content

/-- A whole run keeps both tables. -/
theorem Progress.IsScoped.follow {strict : Bool} {p q : Progress} {events : List Xml.Occurrence}
    (hp : p.IsScoped) (hgraded : p.IsGraded) (hevents : Xml.DeclareOnce events)
    (h : follow strict p events = .ok q) : q.IsScoped := by
  induction events generalizing p with
  | nil =>
    obtain rfl := Except.ok.inj h
    exact hp
  | cons first rest ih =>
    obtain ⟨hfirst, hrest⟩ := List.forall_mem_cons.mp hevents
    obtain ⟨r, hr, hq⟩ := bind_eq_ok h
    exact ih (hp.step hgraded hfirst hr) (hgraded.step hr) hrest hq

/-! ## Whole documents -/

variable {text : String} {strict : Bool} {doc : Document}

theorem finish_namespaces {p : Progress} (h : finish p = .ok doc) : doc.namespaces = p.namespaces := by
  unfold finish at h
  split at h
  · cases h
  · split at h
    · obtain rfl := Except.ok.inj h
      rfl
    · cases h

theorem scoped_of_parse (h : parse text strict = .ok doc) :
    Sees [] doc.root ∧ doc.root.IsScoped ∧ doc.namespaces = OrderedMap.ofList doc.root.declarations := by
  obtain ⟨p, hp, -, hfinish⟩ := parse_eq_ok h
  have hscoped := Progress.isScoped_start.follow Progress.isGraded_start
    (Xml.declareOnce_eventsFrom _ _ _) hp
  obtain ⟨-, hroot⟩ := finish_eq_ok hfinish
  obtain ⟨hsees, htree⟩ := hscoped.root _ hroot
  refine ⟨hsees, htree, ?_⟩
  rw [finish_namespaces hfinish, hscoped.namespaces, hroot]

/-- At a node, a prefix is bound to what the nearest node around it declares. -/
theorem resolvePrefix?_eq_nearest (h : parse text strict = .ok doc) {n : Node} {outer : List Node}
    (hn : doc.root.Within n outer) (name : String) : n.resolvePrefix? name = n.nearest? outer name := by
  obtain ⟨hsees, hscoped, -⟩ := scoped_of_parse h
  exact hn.resolvePrefix?_eq hsees hscoped name

/-- In a document, a prefix is bound to what was declared last. -/
theorem get?_namespaces (h : parse text strict = .ok doc) (name : String) :
    doc.namespaces.get? name = OrderedMap.get? doc.root.declarations.reverse name := by
  obtain ⟨-, -, hnamespaces⟩ := scoped_of_parse h
  rw [hnamespaces, OrderedMap.get?_ofList]

/-- A document declares a prefix as nothing else. -/
def AgreesOn (doc : Document) (name uri : String) : Prop :=
  ∀ m, doc.root.Holds m → ∀ other, (name, other) ∈ m.declared → other = uri

/-- A nearest declaration is one of the document. -/
theorem AgreesOn.nearest? {name uri other : String} (h : doc.AgreesOn name uri) {n : Node}
    {outer : List Node} (hn : doc.root.Within n outer) (hother : n.nearest? outer name = some other) :
    other = uri := by
  obtain ⟨m, hm, hdeclared⟩ := List.exists_of_findSome?_eq_some hother
  exact h m (hn.holds_of_mem hm) other (OrderedMap.mem_of_get? hdeclared)

/-- Where there is a declaration and all of them agree, the document says the same. -/
theorem AgreesOn.get?_namespaces {name uri : String} (h : doc.AgreesOn name uri)
    (hparse : parse text strict = .ok doc) {n : Node} {outer : List Node} (hn : doc.root.Within n outer)
    (hnearest : n.nearest? outer name = some uri) : doc.namespaces.get? name = some uri := by
  obtain ⟨-, -, hnamespaces⟩ := scoped_of_parse hparse
  have hkey : name ∈ doc.namespaces.keys := by
    obtain ⟨m, hm, hdeclared⟩ := List.exists_of_findSome?_eq_some hnearest
    have hmem : (name, uri) ∈ doc.root.declarations :=
      Node.mem_declarations.mpr ⟨m, hn.holds_of_mem hm, OrderedMap.mem_of_get? hdeclared⟩
    rw [hnamespaces, OrderedMap.mem_keys_ofList]
    exact List.mem_map.mpr ⟨_, hmem, rfl⟩
  obtain ⟨other, hother⟩ := Option.isSome_iff_exists.mp (OrderedMap.get?_isSome_iff.mpr hkey)
  have hmem : (name, other) ∈ doc.root.declarations := by
    rw [hnamespaces] at hother
    exact OrderedMap.mem_ofList (OrderedMap.mem_of_get? hother)
  obtain ⟨m, hm, hdeclared⟩ := Node.mem_declarations.mp hmem
  rw [hother, h m hm other hdeclared]

end Document

end Soap
