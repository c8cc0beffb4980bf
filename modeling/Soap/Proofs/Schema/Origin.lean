import Soap.Proofs.Definitions.Origin
import Soap.Proofs.Document.Scope

/-!
# Where schema declarations come from

A declaration of a schema, at whatever depth, is read off an `element` node inside the `schema`
element, and is owned by the target namespace of that (`Node.Makes`). To register schemas puts their
declarations together and makes no others, so every declaration of a document comes from one of its
`schema` elements (`Declarations.exists_schema_of_declares`).
-/

namespace Soap

namespace Node

/-! ## Declarations in a tree -/

/-- A declaration is read off an `element` node in a tree. -/
def Makes (tree : Node) (owner : Option String) (decl : ElementDecl) : Prop :=
  ∃ n between, tree.Within n between ∧ n.kind = .element ∧ ElementDecl.ofNode? owner n = some decl

theorem Makes.child {tree c : Node} {owner : Option String} {decl : ElementDecl} (hc : c ∈ tree.children)
    (h : c.Makes owner decl) : tree.Makes owner decl := by
  obtain ⟨n, between, hn, hkind, hdecl⟩ := h
  exact ⟨n, between ++ [tree], (Within.root.child hc).trans hn, hkind, hdecl⟩

theorem makes_of_mem_membersOf {owner : Option String} {decl : ElementDecl} (ns : List Node)
    (h : decl ∈ membersOf owner ns) : ∃ n ∈ ns, n.Makes owner decl := by
  match ns with
  | [] => cases h
  | ⟨kind, name, attributes, declared, scope, text, children⟩ :: rest =>
    rw [membersOf] at h
    rcases List.mem_append.mp h with hfirst | hrest
    · refine ⟨_, List.mem_cons_self, ?_⟩
      split at hfirst
      · next hkind => exact ⟨_, [], .root, hkind, Option.mem_toList.mp hfirst⟩
      · split at hfirst
        · obtain ⟨c, hc, hmakes⟩ := makes_of_mem_membersOf children hfirst
          exact hmakes.child hc
        · cases hfirst
    · obtain ⟨n, hn, hmakes⟩ := makes_of_mem_membersOf rest hrest
      exact ⟨n, List.mem_cons_of_mem _ hn, hmakes⟩

theorem makes_of_mem_groupsOf {owner : Option String} {decl : ElementDecl} (ns : List Node)
    (h : decl ∈ groupsOf owner ns) : ∃ n ∈ ns, n.Makes owner decl := by
  induction ns with
  | nil => cases h
  | cons n rest ih =>
    obtain ⟨kind, name, attributes, declared, scope, text, children⟩ := n
    rw [groupsOf] at h
    rcases List.mem_append.mp h with hfirst | hrest
    · split at hfirst
      · obtain ⟨c, hc, hmakes⟩ := makes_of_mem_membersOf children hfirst
        exact ⟨_, List.mem_cons_self, hmakes.child hc⟩
      · cases hfirst
    · obtain ⟨n, hn, hmakes⟩ := ih hrest
      exact ⟨n, List.mem_cons_of_mem _ hn, hmakes⟩

theorem makes_of_mem_complexTypeOf {owner : Option String} {decl : ElementDecl} {n : Node}
    (h : decl ∈ (complexTypeOf owner n).content) : n.Makes owner decl := by
  obtain ⟨kind, name, attributes, declared, scope, text, children⟩ := n
  obtain ⟨c, hc, hmakes⟩ := makes_of_mem_groupsOf children h
  exact hmakes.child hc

theorem makes_of_inlineTypeOf {owner : Option String} {ct : ComplexType} {decl : ElementDecl} {ns : List Node}
    (h : inlineTypeOf owner ns = some ct) (hdecl : decl ∈ ct.content) : ∃ n ∈ ns, n.Makes owner decl := by
  induction ns with
  | nil => cases h
  | cons n rest ih =>
    rw [inlineTypeOf] at h
    split at h
    · obtain rfl := Option.some.inj h
      exact ⟨n, List.mem_cons_self, makes_of_mem_complexTypeOf hdecl⟩
    · obtain ⟨m, hm, hmakes⟩ := ih h
      exact ⟨m, List.mem_cons_of_mem _ hm, hmakes⟩

/-- What the fields of a declaration are read off. -/
theorem ofNode?_eq_some {owner : Option String} {n : Node} {decl : ElementDecl}
    (h : ElementDecl.ofNode? owner n = some decl) :
    decl.owner = owner ∧ decl.typeRef = n.attr? "type" ∧ decl.inline = inlineTypeOf owner n.children := by
  obtain ⟨kind, name, attributes, declared, scope, text, children⟩ := n
  obtain ⟨_, -, rfl⟩ := Option.map_eq_some_iff.mp h
  exact ⟨rfl, rfl, rfl⟩

/-- So is what is declared in place. -/
theorem Makes.inline {tree : Node} {owner : Option String} {decl child : ElementDecl} {ct : ComplexType}
    (h : tree.Makes owner decl) (hinline : decl.inline = some ct) (hchild : child ∈ ct.content) :
    tree.Makes owner child := by
  obtain ⟨n, between, hn, -, hdecl⟩ := h
  obtain ⟨-, -, hn'⟩ := ofNode?_eq_some hdecl
  obtain ⟨c, hc, m, inside, hm, hkind, hmdecl⟩ := makes_of_inlineTypeOf (hn'.symm.trans hinline) hchild
  exact ⟨m, inside ++ n :: between, (hn.child hc).trans hm, hkind, hmdecl⟩

end Node

/-! ## Declarations of a schema document -/

namespace SchemaDocument

/-- The declarations of elements and those of complex types. -/
structure AllMade (P : ElementDecl → Prop) (doc : SchemaDocument) : Prop where
  elements : ∀ e ∈ doc.elements, P e.2
  complexTypes : ∀ t ∈ doc.complexTypes, ∀ decl ∈ t.2.content, P decl

variable {P : ElementDecl → Prop} {doc other : SchemaDocument}

theorem AllMade.extend (h : doc.AllMade P) (hother : other.AllMade P) : (doc.extend other).AllMade P where
  elements e he := (OrderedMap.mem_extend he).elim (h.elements e) (hother.elements e)
  complexTypes t ht := (OrderedMap.mem_extend ht).elim (h.complexTypes t) (hother.complexTypes t)

/-- A child of a `schema` element changes neither the namespace nor the bindings. -/
theorem addChild_fixed (doc : SchemaDocument) (child : Node) :
    (doc.addChild child).targetNamespace = doc.targetNamespace ∧
    (doc.addChild child).namespaces = doc.namespaces := by
  unfold addChild
  dsimp only
  split
  · exact ⟨rfl, rfl⟩
  split
  · exact ⟨rfl, rfl⟩
  · exact ⟨rfl, rfl⟩
  · exact ⟨rfl, rfl⟩
  · split <;> exact ⟨rfl, rfl⟩
  · exact ⟨rfl, rfl⟩
  · exact ⟨rfl, rfl⟩

theorem foldl_addChild_fixed (doc : SchemaDocument) (children : List Node) :
    (children.foldl addChild doc).targetNamespace = doc.targetNamespace ∧
    (children.foldl addChild doc).namespaces = doc.namespaces := by
  induction children generalizing doc with
  | nil => exact ⟨rfl, rfl⟩
  | cons c rest ih =>
    obtain ⟨htarget, hnamespaces⟩ := addChild_fixed doc c
    rw [List.foldl_cons, ← htarget, ← hnamespaces]
    exact ih _

theorem targetNamespace_ofNode (n : Node) : (ofNode n).targetNamespace = n.attr? "targetNamespace" :=
  (foldl_addChild_fixed _ n.children).1

theorem namespaces_ofNode (n : Node) : (ofNode n).namespaces = n.scope :=
  (foldl_addChild_fixed _ n.children).2

/-- What a child of a `schema` element adds is read off it. -/
theorem AllMade.addChild {tree child : Node} (h : doc.AllMade (tree.Makes doc.targetNamespace))
    (hchild : child ∈ tree.children) : (doc.addChild child).AllMade (tree.Makes doc.targetNamespace) := by
  unfold SchemaDocument.addChild
  dsimp only
  split
  · exact h
  split
  · exact ⟨h.elements, h.complexTypes⟩
  · exact ⟨h.elements, h.complexTypes⟩
  · refine ⟨h.elements, fun t ht decl hdecl => ?_⟩
    rcases OrderedMap.mem_insert ht with rfl | ht
    · exact (Node.makes_of_mem_complexTypeOf hdecl).child hchild
    · exact h.complexTypes t ht decl hdecl
  · next hkind _ =>
    split
    · next decl hdecl =>
      refine ⟨fun e he => ?_, h.complexTypes⟩
      rcases OrderedMap.mem_insert he with rfl | he
      · exact ⟨child, [tree], .child .root hchild, hkind, hdecl⟩
      · exact h.elements e he
    · exact h
  · exact ⟨h.elements, h.complexTypes⟩
  · exact h

theorem AllMade.addChildren {tree : Node} (children : List Node) (hchildren : ∀ c ∈ children, c ∈ tree.children)
    (h : doc.AllMade (tree.Makes doc.targetNamespace)) :
    (children.foldl SchemaDocument.addChild doc).AllMade (tree.Makes doc.targetNamespace) := by
  induction children generalizing doc with
  | nil => exact h
  | cons c rest ih =>
    obtain ⟨hc, hrest⟩ := List.forall_mem_cons.mp hchildren
    have hstep := h.addChild hc
    obtain ⟨htarget, -⟩ := addChild_fixed doc c
    rw [← htarget] at hstep ⊢
    exact ih hrest hstep

/-- A schema document declares what is read off its nodes. -/
theorem allMade_ofNode (n : Node) : (ofNode n).AllMade (n.Makes (n.attr? "targetNamespace")) := by
  let start : SchemaDocument := { targetNamespace := n.attr? "targetNamespace", namespaces := n.scope }
  have hstart : start.AllMade (n.Makes start.targetNamespace) := by
    constructor
    · intro e he
      cases he
    · intro t ht
      cases ht
  exact AllMade.addChildren n.children (fun _ hc => hc) hstart

end SchemaDocument

/-! ## Declarations of a registry -/

namespace SchemaRegistry

/-- A registry declares elements, those of complex types, and what is declared in place in any of
them. -/
inductive Declares (reg : SchemaRegistry) : ElementDecl → Prop where
  | element {ns : String} {doc : SchemaDocument} {e : String × ElementDecl} (hdoc : (ns, doc) ∈ reg.schemas)
    (he : e ∈ doc.elements) : Declares reg e.2
  | content {ns : String} {doc : SchemaDocument} {t : String × ComplexType} {decl : ElementDecl}
    (hdoc : (ns, doc) ∈ reg.schemas) (ht : t ∈ doc.complexTypes) (hdecl : decl ∈ t.2.content) :
    Declares reg decl
  | inline {decl child : ElementDecl} {ct : ComplexType} (h : Declares reg decl)
    (hinline : decl.inline = some ct) (hchild : child ∈ ct.content) : Declares reg child

/-- All documents of a registry declare only `P`. -/
def AllMade (P : ElementDecl → Prop) (reg : SchemaRegistry) : Prop := ∀ e ∈ reg.schemas, e.2.AllMade P

theorem AllMade.registerAll {P : ElementDecl → Prop} {reg : SchemaRegistry} (h : reg.AllMade P)
    (nodes : List Node) (hnodes : ∀ n ∈ nodes, (SchemaDocument.ofNode n).AllMade P) :
    (nodes.foldl SchemaRegistry.register reg).AllMade P := by
  apply forall_mem_registerAll h hnodes
  intro n hn existing hexisting
  exact SchemaDocument.AllMade.extend hexisting (hnodes n hn)

end SchemaRegistry

/-- Every declaration of a document is read off a node in one of its schemas. -/
theorem Declarations.exists_schema_of_declares {doc : Document} {d : Declarations}
    (h : ofDocument doc = .ok d) {decl : ElementDecl} (hdecl : d.schemas.Declares decl) :
    ∃ schema ∈ doc.schemas, schema.Makes (schema.attr? "targetNamespace") decl := by
  have hall : d.schemas.AllMade fun decl =>
      ∃ schema ∈ doc.schemas, schema.Makes (schema.attr? "targetNamespace") decl := by
    rw [(schemas_of_ofDocument h).2]
    apply SchemaRegistry.AllMade.registerAll
    · intro e he
      cases he
    · intro n hn
      have hnode := SchemaDocument.allMade_ofNode n
      exact ⟨fun e he => ⟨n, hn, hnode.elements e he⟩,
        fun t ht decl hdecl => ⟨n, hn, hnode.complexTypes t ht decl hdecl⟩⟩
  induction hdecl with
  | element hdoc he => exact (hall _ hdoc).elements _ he
  | content hdoc ht hdecl => exact (hall _ hdoc).complexTypes _ ht _ hdecl
  | inline _ hinline hchild ih =>
    obtain ⟨schema, hschema, hmakes⟩ := ih
    exact ⟨schema, hschema, hmakes.inline hinline hchild⟩

end Soap
