import Mathlib.Data.List.Basic
import Soap.Proofs.Definitions.Declaration

/-!
# Where declarations come from

Each section of a document adds entries to the table of its kind, which depend on the section alone, and leaves the
other tables as they are. So what the sections declare is said at once for all of them
(`Declarations.addSections_eq_ok`): the messages and the bindings of a document are those of its sections, its schemas
are registered in document order (`schemas_of_ofDocument`), and its namespaces are all that are declared in it.

A document therefore has everything under its own name, the settings of its bindings included
(`isFiled_of_parse`).
-/

namespace Soap

/-- The schemas in a section. -/
def Node.schemas (n : Node) : List Node := if n.kind = .types then n.childrenOf .schema else []

/-- The `schema` elements of a document, in document order. -/
def Document.schemas (doc : Document) : List Node :=
  if doc.root.kind = .schema then [doc.root] else doc.root.children.flatMap Node.schemas

/-- Register what a `schema` element declares, in its namespace. -/
def SchemaRegistry.register (reg : SchemaRegistry) (node : Node) : SchemaRegistry :=
  reg.merge (SchemaDocument.ofNode node).key (SchemaDocument.ofNode node)

namespace SchemaRegistry

variable {P : String × SchemaDocument → Prop} {reg : SchemaRegistry}

/-- What holds of all that is registered and of a schema that is merged, and goes over to extensions by
this schema, holds of all that is registered then. -/
theorem forall_mem_merge (h : ∀ e ∈ reg.schemas, P e) {k : String} {doc : SchemaDocument} (hdoc : P (k, doc))
    (hextend : ∀ existing : SchemaDocument, P (k, existing) → P (k, existing.extend doc)) :
    ∀ e ∈ (reg.merge k doc).schemas, P e := by
  intro e he
  unfold merge at he
  split at he
  · next existing hexisting =>
    rcases OrderedMap.mem_insert he with rfl | he
    · exact hextend existing (h _ (OrderedMap.mem_of_get? hexisting))
    · exact h e he
  · rcases OrderedMap.mem_insert he with rfl | he
    · exact hdoc
    · exact h e he

theorem forall_mem_registerAll (h : ∀ e ∈ reg.schemas, P e) {nodes : List Node}
    (hnodes : ∀ n ∈ nodes, P ((SchemaDocument.ofNode n).key, .ofNode n))
    (hextend : ∀ n ∈ nodes, ∀ existing : SchemaDocument, P ((SchemaDocument.ofNode n).key, existing) →
      P ((SchemaDocument.ofNode n).key, existing.extend (.ofNode n))) :
    ∀ e ∈ (nodes.foldl register reg).schemas, P e := by
  induction nodes generalizing reg with
  | nil => exact h
  | cons n rest ih =>
    obtain ⟨hn, hrest⟩ := List.forall_mem_cons.mp hnodes
    obtain ⟨hextendn, hextendrest⟩ := List.forall_mem_cons.mp hextend
    exact ih (forall_mem_merge h hn hextendn) hrest hextendrest

end SchemaRegistry

/-! ## What sections add -/

namespace Node

/-- The entry that a section of this kind makes. -/
def item? {α : Type} (kind : Kind) (read : Node → Except ParseError α) (name : α → String) (n : Node) :
    Option (String × α) :=
  if n.kind = kind then (read n).toOption.map fun a => (name a, a) else none

def message? : Node → Option (String × MessageDecl) := item? .message MessageDecl.ofNode MessageDecl.name

def portType? : Node → Option (String × PortTypeDecl) := item? .portType PortTypeDecl.ofNode PortTypeDecl.name

/-- Bindings to other transports are left out. -/
def binding? (n : Node) : Option (String × BindingDecl) :=
  (item? .binding BindingDecl.ofNode BindingDecl.name n).filter fun b => httpTransports.contains b.2.transport

def service? : Node → Option (String × ServiceDecl) := item? .service ServiceDecl.ofNode ServiceDecl.name

/-- Is nothing missing that the kind of the section asks for? -/
structure IsReadable (n : Node) : Prop where
  message : n.kind = .message → ∃ m, MessageDecl.ofNode n = .ok m
  portType : n.kind = .portType → ∃ p, PortTypeDecl.ofNode n = .ok p
  binding : n.kind = .binding → ∃ b, BindingDecl.ofNode n = .ok b
  service : n.kind = .service → ∃ s, ServiceDecl.ofNode n = .ok s

section

variable {α : Type} {kind : Kind} {read : Node → Except ParseError α} {name : α → String} {n : Node}

theorem item?_of_kind_ne (h : n.kind ≠ kind) : item? kind read name n = none := if_neg h

theorem item?_of_read {a : α} (hkind : n.kind = kind) (h : read n = .ok a) :
    item? kind read name n = some (name a, a) := by
  rw [item?, if_pos hkind, h]
  rfl

theorem item?_eq_some {e : String × α} :
    item? kind read name n = some e ↔ n.kind = kind ∧ ∃ a, read n = .ok a ∧ (name a, a) = e := by
  rw [item?, Option.ite_none_right_eq_some, Option.map_eq_some_iff]
  cases read n <;> simp [Except.toOption]

theorem schemas_of_kind_ne (h : n.kind ≠ .types) : n.schemas = [] := if_neg h

end

end Node

namespace Declarations

variable {d d' : Declarations} {node : Node} {nodes : List Node}

/-- Declarations with what these sections add. -/
def withSections (d : Declarations) (nodes : List Node) : Declarations :=
  { d with
    schemas := (nodes.flatMap Node.schemas).foldl SchemaRegistry.register d.schemas
    messages := d.messages.extend (nodes.filterMap Node.message?)
    portTypes := d.portTypes.extend (nodes.filterMap Node.portType?)
    bindings := d.bindings.extend (nodes.filterMap Node.binding?)
    services := d.services.extend (nodes.filterMap Node.service?) }

theorem withSections_append (d : Declarations) (nodes nodes' : List Node) :
    d.withSections (nodes ++ nodes') = (d.withSections nodes).withSections nodes' := by
  simp only [withSections, List.flatMap_append, List.foldl_append, List.filterMap_append, OrderedMap.extend_append]

theorem withSections_singleton (d : Declarations) (node : Node) : d.withSections [node] =
    { d with
      schemas := node.schemas.foldl SchemaRegistry.register d.schemas
      messages := d.messages.extend node.message?.toList
      portTypes := d.portTypes.extend node.portType?.toList
      bindings := d.bindings.extend node.binding?.toList
      services := d.services.extend node.service?.toList } := by
  simp only [withSections, List.filterMap_eq_flatMap_toList, List.flatMap_singleton]

theorem foldl_addSchema (nodes : List Node) (d : Declarations) :
    nodes.foldl addSchema d = { d with schemas := nodes.foldl SchemaRegistry.register d.schemas } := by
  induction nodes generalizing d with
  | nil => rfl
  | cons node rest ih => exact ih _

/-- A section adds entries to the table of its kind. -/
theorem addSection_eq (d : Declarations) (h : node.IsReadable) : d.addSection node = .ok (d.withSections [node]) := by
  rw [withSections_singleton]
  unfold addSection Node.message? Node.portType? Node.binding? Node.service?
  split
  · next hkind =>
    rw [foldl_addSchema]
    simp only [Node.item?, Node.schemas, hkind, reduceCtorEq, if_false, if_true]
    rfl
  · next hkind =>
    obtain ⟨m, hm⟩ := h.message hkind
    rw [hm, ok_bind, Node.item?_of_read hkind hm]
    simp only [Node.item?, Node.schemas, hkind, reduceCtorEq, if_false]
    rfl
  · next hkind =>
    obtain ⟨p, hp⟩ := h.portType hkind
    rw [hp, ok_bind, Node.item?_of_read hkind hp]
    simp only [Node.item?, Node.schemas, hkind, reduceCtorEq, if_false]
    rfl
  · next hkind =>
    obtain ⟨b, hb⟩ := h.binding hkind
    rw [hb, ok_bind, Node.item?_of_read hkind hb, Option.filter_some]
    simp only [Node.item?, Node.schemas, hkind, reduceCtorEq, if_false]
    split
    · rfl
    · rfl
  · next hkind =>
    obtain ⟨s, hs⟩ := h.service hkind
    rw [hs, ok_bind, Node.item?_of_read hkind hs]
    simp only [Node.item?, Node.schemas, hkind, reduceCtorEq, if_false]
    rfl
  · next htypes hmessage hportType hbinding hservice =>
    rw [Node.item?_of_kind_ne hmessage, Node.item?_of_kind_ne hportType, Node.item?_of_kind_ne hbinding,
      Node.item?_of_kind_ne hservice, Node.schemas_of_kind_ne htypes]
    rfl

theorem isReadable_of_addSection (h : d.addSection node = .ok d') : node.IsReadable where
  message hkind := by
    rw [addSection, hkind] at h
    exact (bind_eq_ok h).imp fun _ => And.left
  portType hkind := by
    rw [addSection, hkind] at h
    exact (bind_eq_ok h).imp fun _ => And.left
  binding hkind := by
    rw [addSection, hkind] at h
    exact (bind_eq_ok h).imp fun _ => And.left
  service hkind := by
    rw [addSection, hkind] at h
    exact (bind_eq_ok h).imp fun _ => And.left

/-- Sections are read one by one and add to the tables all at once. -/
theorem addSections_eq_ok :
    nodes.foldlM addSection d = .ok d' ↔ (∀ n ∈ nodes, n.IsReadable) ∧ d' = d.withSections nodes := by
  induction nodes generalizing d with
  | nil =>
    constructor
    · intro h
      exact ⟨by simp, (Except.ok.inj h).symm⟩
    · rintro ⟨-, rfl⟩
      rfl
  | cons node rest ih =>
    rw [List.foldlM_cons, List.forall_mem_cons]
    constructor
    · intro h
      obtain ⟨next, hnext, h⟩ := bind_eq_ok h
      obtain ⟨hrest, rfl⟩ := ih.mp h
      have hnode := isReadable_of_addSection hnext
      rw [addSection_eq d hnode] at hnext
      obtain rfl := Except.ok.inj hnext
      exact ⟨⟨hnode, hrest⟩, (d.withSections_append [node] rest).symm⟩
    · rintro ⟨⟨hnode, hrest⟩, rfl⟩
      rw [addSection_eq d hnode, ok_bind]
      exact ih.mpr ⟨hrest, d.withSections_append [node] rest⟩

/-! ## Whole documents -/

variable {doc : Document}

/-- The schemas of a document are registered one after the other, over all of its namespaces. -/
theorem schemas_of_ofDocument (h : ofDocument doc = .ok d) :
    d.namespaces = doc.namespaces ∧
    d.schemas = doc.schemas.foldl SchemaRegistry.register { namespaces := doc.namespaces } := by
  unfold Document.schemas
  simp only [ofDocument] at h
  split at h
  · next hroot =>
    obtain rfl := Except.ok.inj h
    rw [if_pos hroot]
    exact ⟨rfl, rfl⟩
  · next hroot =>
    obtain ⟨-, rfl⟩ := addSections_eq_ok.mp h
    rw [if_neg hroot]
    exact ⟨rfl, rfl⟩

/-- A message of a document is declared by one of its sections. -/
theorem mem_messages_of_ofDocument (h : ofDocument doc = .ok d) {m : String × MessageDecl}
    (hm : m ∈ d.messages) :
    ∃ node ∈ doc.root.children, node.kind = .message ∧ MessageDecl.ofNode node = .ok m.2 := by
  simp only [ofDocument] at h
  split at h
  · obtain rfl := Except.ok.inj h
    cases hm
  · obtain ⟨-, rfl⟩ := addSections_eq_ok.mp h
    obtain ⟨node, hnode, hitem⟩ := List.mem_filterMap.mp (OrderedMap.mem_ofList hm)
    obtain ⟨hkind, _, hread, rfl⟩ := Node.item?_eq_some.mp hitem
    exact ⟨node, hnode, hkind, hread⟩

/-- A binding of a document is declared by one of its sections. -/
theorem mem_bindings_of_ofDocument (h : ofDocument doc = .ok d) {b : String × BindingDecl}
    (hb : b ∈ d.bindings) : ∃ node ∈ doc.root.children, BindingDecl.ofNode node = .ok b.2 := by
  simp only [ofDocument] at h
  split at h
  · obtain rfl := Except.ok.inj h
    cases hb
  · obtain ⟨-, rfl⟩ := addSections_eq_ok.mp h
    obtain ⟨node, hnode, hitem⟩ := List.mem_filterMap.mp (OrderedMap.mem_ofList hb)
    obtain ⟨hitem, -⟩ := Option.filter_eq_some_iff.mp hitem
    obtain ⟨-, _, hread, rfl⟩ := Node.item?_eq_some.mp hitem
    exact ⟨node, hnode, hread⟩

/-! ## Everything under its own name -/

/-- Messages, port types, bindings, services and the settings of bindings are filed under their
names. -/
structure IsFiled (d : Declarations) : Prop extends d.IsKeyed where
  settings : ∀ b ∈ d.bindings, b.2.operations.IsKeyedBy OperationDecl.name

theorem settings_of_ofNode {b : BindingDecl} (h : BindingDecl.ofNode node = .ok b) :
    b.operations.IsKeyedBy OperationDecl.name := by
  obtain ⟨name, -, h⟩ := bind_eq_ok h
  obtain ⟨portType, -, h⟩ := bind_eq_ok h
  obtain ⟨operations, hoperations, h⟩ := bind_eq_ok h
  obtain rfl := Except.ok.inj h
  exact isKeyedBy_of_allOf hoperations

/-- The declarations of a document are filed under their names, whatever schemas are included. -/
theorem isFiled_of_parse {text : String} {strict : Bool} (h : Declarations.parse text strict = .ok d)
    (schemas : SchemaRegistry) : ({ d with schemas } : Declarations).IsFiled where
  toIsKeyed := (isKeyed_of_parse h).withSchemas schemas
  settings b hb := by
    obtain ⟨doc, -, hdoc⟩ := bind_eq_ok h
    obtain ⟨node, -, hnode⟩ := mem_bindings_of_ofDocument hdoc hb
    exact settings_of_ofNode hnode

end Declarations

end Soap
