import Soap.Definitions.Resolution
import Soap.Proofs.Definitions.Equality
import Soap.Proofs.Document
import Soap.Proofs.Schema.Origin

/-!
# Which namespace a reference means

The prefix of a reference is bound by the nearest declaration around it, if it is read as XML reads
it. Declarations keep their references as they are written, and forget where they stood; so the
prefix is looked up elsewhere, and this is where.

* For the element of a message part: in the bindings of the whole document, where of several
  declarations of a prefix the last one to close counts. If it stands in for the type of the part, its
  prefix is then looked up once more, as for a type in the schemas of the namespace that was found.
* For the type of an element declaration: in the bindings at the `schema` element around it, then in
  those of the document. Schemas of one target namespace share their bindings, and the first counts.

So a nearer declaration may be passed over for another one (`Declarations.pass_over_nearest`). That
makes no difference where all declarations of a prefix agree, nor for a type whose prefix is declared
at the `schema` element or around it and not again inside (`Declarations.references_lookedUp`).
-/

namespace Soap

/-- The prefix of a reference, empty for the default namespace. -/
def prefixOf (reference : String) : String := (QName.parse reference).qualifierOrDefault

/-- The schemas for a namespace, in document order. Without a target namespace it is the empty one. -/
def Document.schemasFor (doc : Document) (ns : String) : List Node :=
  doc.schemas.filter fun n => (n.attr? "targetNamespace").getD "" = ns

/-- The schemas for a namespace bind a prefix as nothing else. -/
def Document.SchemasAgreeOn (doc : Document) (ns name uri : String) : Prop :=
  ∀ s ∈ doc.schemasFor ns, ∀ other, s.resolvePrefix? name = some other → other = uri

/-- The last declaration of a prefix in a document. -/
def Document.lastDeclared? (doc : Document) (name : String) : Option String :=
  OrderedMap.get? doc.root.declarations.reverse name

/-! ## Bindings of schemas -/

namespace OrderedMap

variable {κ α : Type} [DecidableEq κ]

theorem get?_insertNew (m : OrderedMap κ α) (k j : κ) (v : α) :
    (m.insertNew k v).get? j = (m.get? j <|> if k = j then some v else none) := by
  unfold insertNew
  split
  · next hknown =>
    obtain ⟨w, hw⟩ := Option.isSome_iff_exists.mp hknown
    by_cases hj : k = j
    · subst hj
      rw [hw]
      rfl
    · rw [if_neg hj]
      cases m.get? j <;> rfl
  · rw [get?_append]
    rfl

/-- Entries that are added unless their keys are known count after what is there. -/
theorem get?_foldl_insertNew (m entries : OrderedMap κ α) (k : κ) :
    (entries.foldl (fun m e => m.insertNew e.1 e.2) m).get? k = (m.get? k <|> entries.get? k) := by
  induction entries generalizing m with
  | nil => cases h : m.get? k <;> simp [get?, h]
  | cons first rest ih =>
    rw [List.foldl_cons, ih, get?_insertNew, get?]
    cases m.get? k with
    | some v => rfl
    | none => split <;> rfl

end OrderedMap

namespace SchemaRegistry

/-- What the schemas for a namespace bind a prefix to. -/
def boundIn? (reg : SchemaRegistry) (ns name : String) : Option String :=
  (reg.get? ns).bind fun doc => doc.namespaces.get? name

theorem boundIn?_register (reg : SchemaRegistry) (n : Node) (ns name : String) :
    (reg.register n).boundIn? ns name =
      if (n.attr? "targetNamespace").getD "" = ns then (reg.boundIn? ns name <|> n.resolvePrefix? name)
      else reg.boundIn? ns name := by
  have hkey : (SchemaDocument.ofNode n).key = (n.attr? "targetNamespace").getD "" := by
    rw [SchemaDocument.key, SchemaDocument.targetNamespace_ofNode]
  have hbound : (SchemaDocument.ofNode n).namespaces.get? name = n.resolvePrefix? name := by
    rw [SchemaDocument.namespaces_ofNode]
    rfl
  rw [← hkey, register, merge]
  split
  · next existing hexisting =>
    rw [boundIn?, get?, insert, OrderedMap.get?_insert]
    split
    · next hns =>
      rw [← hns, boundIn?, hexisting, Option.bind_some, Option.bind_some, SchemaDocument.extend,
        OrderedMap.get?_foldl_insertNew, hbound]
    · rfl
  · next hnone =>
    rw [boundIn?, get?, insert, OrderedMap.get?_insert]
    split
    · next hns =>
      rw [← hns, boundIn?, hnone, Option.bind_some, hbound]
      rfl
    · rfl

/-- Of the schemas for a namespace the first that binds a prefix counts. -/
theorem boundIn?_registerAll (reg : SchemaRegistry) (nodes : List Node) (ns name : String) :
    (nodes.foldl register reg).boundIn? ns name =
      (reg.boundIn? ns name <|> (nodes.filter fun n => (n.attr? "targetNamespace").getD "" = ns).findSome?
        (·.resolvePrefix? name)) := by
  induction nodes generalizing reg with
  | nil => cases h : reg.boundIn? ns name <;> simp [h]
  | cons n rest ih =>
    rw [List.foldl_cons, ih, boundIn?_register]
    by_cases hns : (n.attr? "targetNamespace").getD "" = ns
    · rw [if_pos hns, List.filter_cons_of_pos (by simpa using hns), List.findSome?_cons]
      cases reg.boundIn? ns name with
      | some uri => rfl
      | none => cases n.resolvePrefix? name <;> rfl
    · rw [if_neg hns, List.filter_cons_of_neg (by simpa using hns)]

theorem namespaces_registerAll (reg : SchemaRegistry) (nodes : List Node) :
    (nodes.foldl register reg).namespaces = reg.namespaces := by
  induction nodes generalizing reg with
  | nil => rfl
  | cons n rest ih =>
    rw [List.foldl_cons, ih, register, merge]
    split <;> rfl

end SchemaRegistry

/-! ## Where references stand -/

/-- A part of a message says what its node says. -/
structure PartDecl.IsReadOff (part : PartDecl) (n : Node) : Prop where
  kind : n.kind = .part
  name : n.attr? "name" = some part.name
  element : n.attr? "element" = part.element
  typeRef : n.attr? "type" = part.typeRef

theorem Node.required_eq_ok {n : Node} {attr value : String} (h : n.required attr = .ok value) :
    n.attr? attr = some value := by
  unfold required at h
  split at h
  · next found hfound =>
    obtain rfl := Except.ok.inj h
    exact hfound
  · cases h

theorem MessageDecl.exists_node_of_mem_parts {message : Node} {m : MessageDecl}
    (h : MessageDecl.ofNode message = .ok m) {part : PartDecl} (hpart : part ∈ m.parts) :
    ∃ n ∈ message.children, part.IsReadOff n := by
  obtain ⟨parts, hparts, h⟩ := bind_eq_ok h
  obtain ⟨name, -, h⟩ := bind_eq_ok h
  obtain rfl := Except.ok.inj h
  obtain ⟨n, hn, hread⟩ := exists_of_mem_mapM hparts hpart
  obtain ⟨hchild, hkind⟩ := List.mem_filter.mp hn
  obtain ⟨name, hname, hread⟩ := bind_eq_ok hread
  obtain rfl := Except.ok.inj hread
  exact ⟨n, hchild, eq_of_beq hkind, Node.required_eq_ok hname, rfl, rfl⟩

/-- Around a node inside a tree, the root is outermost. -/
theorem Node.Within.eq_root_or {root n : Node} {outer : List Node} (h : root.Within n outer) :
    n = root ∧ outer = [] ∨ ∃ inner, outer = inner ++ [root] := by
  induction h with
  | root => exact .inl ⟨rfl, rfl⟩
  | @child parent child outer _ _ ih =>
    rcases ih with ⟨rfl, rfl⟩ | ⟨inner, rfl⟩
    · exact .inr ⟨[], rfl⟩
    · exact .inr ⟨parent :: inner, rfl⟩

/-- An `element` node in a schema of a document: the nodes around it inside the `schema` element, and
the nodes around that. -/
structure Document.Site (doc : Document) (schema n : Node) (inner above : List Node) : Prop where
  mem : schema ∈ doc.schemas
  above : doc.root.Within schema above
  inside : schema.Within n (inner ++ [schema])
  kind : n.kind = .element

theorem Document.Site.within {doc : Document} {schema n : Node} {inner above : List Node}
    (h : doc.Site schema n inner above) : doc.root.Within n (inner ++ schema :: above) := by
  have hwithin := h.above.trans h.inside
  rwa [List.append_assoc] at hwithin

/-- Without declarations in between, a prefix is bound inside a schema as it is at the schema. -/
theorem Node.nearest?_of_not_declared {schema n : Node} {inner above : List Node} {name : String}
    (h : ∀ m ∈ n :: inner, m.declared.get? name = none) :
    n.nearest? (inner ++ schema :: above) name = schema.nearest? above name := by
  rw [nearest?, ← List.cons_append, List.findSome?_append, List.findSome?_eq_none_iff.mpr h, Option.none_or]
  rfl

/-- The schemas of a document are in its tree. -/
theorem Document.within_of_mem_schemas {doc : Document} {schema : Node} (h : schema ∈ doc.schemas) :
    schema.kind = .schema ∧ ∃ above, doc.root.Within schema above := by
  unfold schemas at h
  split at h
  · next hroot =>
    obtain rfl := List.mem_singleton.mp h
    exact ⟨hroot, [], .root⟩
  · obtain ⟨types, htypes, h⟩ := List.mem_flatMap.mp h
    unfold Node.schemas at h
    split at h
    · obtain ⟨hchild, hkind⟩ := List.mem_filter.mp h
      exact ⟨eq_of_beq hkind, [types, doc.root], (Node.Within.root.child htypes).child hchild⟩
    · cases h

namespace Document

variable {doc : Document} {ns name uri : String}

/-- Schemas that agree leave a prefix unbound, or bind it as agreed. -/
theorem SchemasAgreeOn.findSome?_eq (h : doc.SchemasAgreeOn ns name uri) :
    (doc.schemasFor ns).findSome? (·.resolvePrefix? name) = none ∨
    (doc.schemasFor ns).findSome? (·.resolvePrefix? name) = some uri := by
  cases hfirst : (doc.schemasFor ns).findSome? (·.resolvePrefix? name) with
  | none => exact .inl rfl
  | some other =>
    obtain ⟨s, hs, hother⟩ := List.exists_of_findSome?_eq_some hfirst
    rw [h s hs other hother]
    exact .inr rfl

/-- If one of them binds it, so does the first. -/
theorem SchemasAgreeOn.findSome?_of_mem (h : doc.SchemasAgreeOn ns name uri) {schema : Node}
    (hschema : schema ∈ doc.schemasFor ns) (hbound : schema.resolvePrefix? name = some uri) :
    (doc.schemasFor ns).findSome? (·.resolvePrefix? name) = some uri := by
  refine h.findSome?_eq.resolve_left fun hnone => ?_
  have hunbound := List.findSome?_eq_none_iff.mp hnone schema hschema
  cases hunbound.symm.trans hbound

/-- Where there is a declaration and all of them agree, so does the last. -/
theorem AgreesOn.lastDeclared? {text : String} {strict : Bool} (h : doc.AgreesOn name uri)
    (hdoc : parse text strict = .ok doc) {n : Node} {outer : List Node} (hn : doc.root.Within n outer)
    (hnearest : n.nearest? outer name = some uri) : doc.lastDeclared? name = some uri := by
  rw [Document.lastDeclared?, ← Document.get?_namespaces hdoc]
  exact h.get?_namespaces hdoc hn hnearest

/-- Where the document agrees on a prefix, its schemas do. -/
theorem AgreesOn.schemas {text : String} {strict : Bool} (h : doc.AgreesOn name uri)
    (hdoc : parse text strict = .ok doc) (ns : String) : doc.SchemasAgreeOn ns name uri := by
  intro s hs other hother
  obtain ⟨-, outer, houter⟩ := within_of_mem_schemas (List.mem_filter.mp hs).1
  rw [resolvePrefix?_eq_nearest hdoc houter] at hother
  exact h.nearest? houter hother

end Document

namespace Declarations

variable {text : String} {strict : Bool} {doc : Document} {d : Declarations}

theorem exists_node_of_mem_parts (hd : ofDocument doc = .ok d) {e : String × MessageDecl} (he : e ∈ d.messages)
    {part : PartDecl} (hpart : part ∈ e.2.parts) :
    ∃ n outer, doc.root.Within n outer ∧ part.IsReadOff n := by
  obtain ⟨message, hmessage, -, hread⟩ := mem_messages_of_ofDocument hd he
  obtain ⟨n, hn, hpart⟩ := MessageDecl.exists_node_of_mem_parts hread hpart
  exact ⟨n, [message, doc.root], (Node.Within.root.child hmessage).child hn, hpart⟩

theorem exists_site_of_declares (hd : ofDocument doc = .ok d) {decl : ElementDecl}
    (hdecl : d.schemas.Declares decl) :
    ∃ schema n inner above, doc.Site schema n inner above ∧
      ElementDecl.ofNode? (schema.attr? "targetNamespace") n = some decl := by
  obtain ⟨schema, hschema, n, between, hn, hkind, hread⟩ := exists_schema_of_declares hd hdecl
  obtain ⟨hschemaKind, above, habove⟩ := Document.within_of_mem_schemas hschema
  rcases hn.eq_root_or with ⟨rfl, -⟩ | ⟨inner, rfl⟩
  · cases hkind.symm.trans hschemaKind
  · exact ⟨schema, n, inner, above, ⟨hschema, habove, hn, hkind⟩, hread⟩

/-! ## Where references are looked up -/

/-- The prefix of a part's element is bound by the last declaration in the document. -/
theorem namespaceOf?_eq (hdoc : Document.parse text strict = .ok doc) (hd : ofDocument doc = .ok d) (q : QName) :
    d.namespaceOf? q = doc.lastDeclared? q.qualifierOrDefault := by
  rw [namespaceOf?, (schemas_of_ofDocument hd).1, Document.get?_namespaces hdoc]
  rfl

/-- The prefix of a type is bound by the first schema for its owner that binds it, else by the last
declaration in the document; and the owner itself stands for the empty prefix. -/
theorem resolvePrefix?_eq (hdoc : Document.parse text strict = .ok doc) (hd : ofDocument doc = .ok d)
    (ns name : String) :
    d.schemas.resolvePrefix? (some ns) name =
      ((doc.schemasFor ns).findSome? (·.resolvePrefix? name) <|> doc.lastDeclared? name <|>
        if name = "" then some ns else none) := by
  show (d.schemas.boundIn? ns name <|> d.schemas.namespaces.get? name <|> _) = _
  rw [(schemas_of_ofDocument hd).2, SchemaRegistry.boundIn?_registerAll, SchemaRegistry.namespaces_registerAll,
    Document.get?_namespaces hdoc]
  rfl

/-- Where the document binds a prefix, it is bound for every owner whose schemas do not bind it
otherwise. -/
theorem resolvePrefix?_of_lastDeclared? (hdoc : Document.parse text strict = .ok doc) (hd : ofDocument doc = .ok d)
    {owner : Option String} {name uri : String}
    (hschemas : ∀ ns, owner = some ns → doc.SchemasAgreeOn ns name uri)
    (hlast : doc.lastDeclared? name = some uri) : d.schemas.resolvePrefix? owner name = some uri := by
  cases owner with
  | none =>
    show (d.schemas.namespaces.get? name <|> _) = _
    rw [(schemas_of_ofDocument hd).2, SchemaRegistry.namespaces_registerAll, Document.get?_namespaces hdoc]
    exact congrArg (· <|> _) hlast
  | some ns =>
    rw [resolvePrefix?_eq hdoc hd, hlast]
    rcases (hschemas ns rfl).findSome?_eq with hfirst | hfirst
    · rw [hfirst]
      rfl
    · rw [hfirst]
      rfl

/-! ## References and scopes -/

/-- How the element of a part is looked up. -/
structure ElementLookup (doc : Document) (d : Declarations) (part : PartDecl) (reference : String) : Prop where
  /-- The part stands in the document. -/
  stands : ∃ n outer, doc.root.Within n outer ∧ part.IsReadOff n
  /-- Its prefix is bound by the last declaration in the document. -/
  bound : d.namespaceOf? (.parse reference) = doc.lastDeclared? (prefixOf reference)
  /-- As a type it is looked up from there: the first schema for that namespace counts that binds the
  prefix. -/
  asType : ∀ ns, d.namespaceOf? (.parse reference) = some ns →
    d.schemas.resolvePrefix? (some ns) (prefixOf reference) =
      ((doc.schemasFor ns).findSome? (·.resolvePrefix? (prefixOf reference)) <|> some ns)
  /-- Both are what the nearest declaration says, if the document agrees on the prefix. -/
  agreed : ∀ n outer uri, doc.root.Within n outer → part.IsReadOff n →
    n.nearest? outer (prefixOf reference) = some uri → doc.AgreesOn (prefixOf reference) uri →
    d.namespaceOf? (.parse reference) = some uri ∧
    d.schemas.resolvePrefix? (some uri) (prefixOf reference) = some uri

/-- How the type of an element declaration is looked up. -/
structure TypeLookup (doc : Document) (d : Declarations) (decl : ElementDecl) (reference : String) : Prop where
  /-- The declaration stands in a schema of the document. -/
  stands : ∃ schema n inner above, doc.Site schema n inner above ∧
    ElementDecl.ofNode? (schema.attr? "targetNamespace") n = some decl
  /-- Its prefix is bound by the first schema for its target namespace that binds it, else by the last
  declaration in the document; and the empty prefix stands for the target namespace. -/
  bound : ∀ ns, decl.owner = some ns → d.schemas.resolvePrefix? decl.owner (prefixOf reference) =
    ((doc.schemasFor ns).findSome? (·.resolvePrefix? (prefixOf reference)) <|>
      doc.lastDeclared? (prefixOf reference) <|> if prefixOf reference = "" then some ns else none)
  /-- That is what the nearest declaration says, if the document agrees on the prefix. -/
  agreed : ∀ schema n inner above uri, doc.Site schema n inner above →
    ElementDecl.ofNode? (schema.attr? "targetNamespace") n = some decl →
    n.nearest? (inner ++ schema :: above) (prefixOf reference) = some uri →
    doc.AgreesOn (prefixOf reference) uri → d.schemas.resolvePrefix? decl.owner (prefixOf reference) = some uri
  /-- It is as well if that declaration is not inside the `schema` element, and no schema for the target
  namespace binds the prefix otherwise. -/
  kept : ∀ schema n inner above uri ns, doc.Site schema n inner above →
    ElementDecl.ofNode? (schema.attr? "targetNamespace") n = some decl →
    n.nearest? (inner ++ schema :: above) (prefixOf reference) = some uri →
    (∀ m ∈ n :: inner, m.declared.get? (prefixOf reference) = none) → decl.owner = some ns →
    doc.SchemasAgreeOn ns (prefixOf reference) uri →
    d.schemas.resolvePrefix? decl.owner (prefixOf reference) = some uri

theorem elementLookup_of_mem_parts (hdoc : Document.parse text strict = .ok doc) (hd : ofDocument doc = .ok d)
    {e : String × MessageDecl} (he : e ∈ d.messages) {part : PartDecl} (hpart : part ∈ e.2.parts)
    (reference : String) : ElementLookup doc d part reference where
  stands := exists_node_of_mem_parts hd he hpart
  bound := namespaceOf?_eq hdoc hd _
  asType ns hns := by
    rw [namespaceOf?_eq hdoc hd, ← prefixOf] at hns
    rw [resolvePrefix?_eq hdoc hd, hns]
    rfl
  agreed n outer uri hn _ hnearest hagree := by
    have hlast := hagree.lastDeclared? hdoc hn hnearest
    rw [namespaceOf?_eq hdoc hd]
    exact ⟨hlast, resolvePrefix?_of_lastDeclared? hdoc hd (fun ns _ => hagree.schemas hdoc ns) hlast⟩

theorem typeLookup_of_declares (hdoc : Document.parse text strict = .ok doc) (hd : ofDocument doc = .ok d)
    {decl : ElementDecl} (hdecl : d.schemas.Declares decl) (reference : String) : TypeLookup doc d decl reference where
  stands := exists_site_of_declares hd hdecl
  bound ns hns := by
    rw [hns]
    exact resolvePrefix?_eq hdoc hd ns _
  agreed schema n inner above uri hsite _ hnearest hagree := by
    have hlast := hagree.lastDeclared? hdoc hsite.within hnearest
    exact resolvePrefix?_of_lastDeclared? hdoc hd (fun ns _ => hagree.schemas hdoc ns) hlast
  kept schema n inner above uri ns hsite hread hnearest hinner hns hschemas := by
    -- The prefix means at the schema element what it means at the node.
    rw [Node.nearest?_of_not_declared hinner, ← Document.resolvePrefix?_eq_nearest hdoc hsite.above] at hnearest
    have htarget : schema.attr? "targetNamespace" = some ns := (Node.ofNode?_eq_some hread).1.symm.trans hns
    have hmem : schema ∈ doc.schemasFor ns := List.mem_filter.mpr ⟨hsite.mem, by simp [htarget]⟩
    rw [hns, resolvePrefix?_eq hdoc hd, hschemas.findSome?_of_mem hmem hnearest]
    rfl

/-- A node sees its nearest declarations. The references of message parts and of element declarations
are not looked up there, but in the tables of the document and of the schemas, which say the same as the
nearest declarations where these agree with the others. -/
theorem references_lookedUp (hdoc : Document.parse text strict = .ok doc) (hd : ofDocument doc = .ok d) :
    (∀ n outer, doc.root.Within n outer → ∀ name, n.resolvePrefix? name = n.nearest? outer name) ∧
    (∀ e ∈ d.messages, ∀ part ∈ e.2.parts, ∀ reference, part.element = some reference →
      ElementLookup doc d part reference) ∧
    ∀ decl, d.schemas.Declares decl → ∀ reference, decl.typeRef = some reference →
      TypeLookup doc d decl reference := by
  refine ⟨?_, ?_, ?_⟩
  · intro n outer hn name
    exact Document.resolvePrefix?_eq_nearest hdoc hn name
  · intro e he part hpart reference _
    exact elementLookup_of_mem_parts hdoc hd he hpart reference
  · intro decl hdecl reference _
    exact typeLookup_of_declares hdoc hd hdecl reference

/-! ### Apples and pears -/

/-- The root declares a prefix for apples, the schema for pears, and an element in it for apples again. -/
def orchardMarkup : Xml.Markup :=
  .element "definitions" [("xmlns:f", "urn:apples")]
    [.plain "types"
      [.element "schema" [("xmlns:f", "urn:pears"), ("targetNamespace", "urn:pears")]
        [leafMarkup "element" [("name", "pear"), ("type", "f:Kind")],
          leafMarkup "element" [("xmlns:f", "urn:apples"), ("name", "graft"), ("type", "f:Kind")]]],
      .element "message" [("name", "Basket")] [leafMarkup "part" [("name", "body"), ("element", "f:apple")]]]

def pearNode : Node where
  kind := .element
  name := .unqualified "element"
  attributes := [("name", "pear"), ("type", "f:Kind")]
  declared := []
  scope := [("f", "urn:pears")]
  text := ""
  children := []

def graftNode : Node where
  kind := .element
  name := .unqualified "element"
  attributes := [("name", "graft"), ("type", "f:Kind")]
  declared := [("f", "urn:apples")]
  scope := [("f", "urn:apples")]
  text := ""
  children := []

def pearSchema : Node where
  kind := .schema
  name := .unqualified "schema"
  attributes := [("targetNamespace", "urn:pears")]
  declared := [("f", "urn:pears")]
  scope := [("f", "urn:pears")]
  text := ""
  children := [pearNode, graftNode]

def orchardTypes : Node where
  kind := .types
  name := .unqualified "types"
  attributes := []
  declared := []
  scope := [("f", "urn:apples")]
  text := ""
  children := [pearSchema]

def applePart : Node where
  kind := .part
  name := .unqualified "part"
  attributes := [("name", "body"), ("element", "f:apple")]
  declared := []
  scope := [("f", "urn:apples")]
  text := ""
  children := []

def basketNode : Node where
  kind := .message
  name := .unqualified "message"
  attributes := [("name", "Basket")]
  declared := []
  scope := [("f", "urn:apples")]
  text := ""
  children := [applePart]

def orchardDocument : Document where
  root :=
    { kind := .definitions
      name := .unqualified "definitions"
      attributes := []
      declared := [("f", "urn:apples")]
      scope := [("f", "urn:apples")]
      text := ""
      children := [orchardTypes, basketNode] }
  namespaces := [("f", "urn:pears")]

def fruitDecl (name : String) : ElementDecl where
  name
  occurs := ⟨none, none⟩
  typeRef := some "f:Kind"
  inline := none
  owner := some "urn:pears"

def pears : SchemaDocument where
  targetNamespace := some "urn:pears"
  namespaces := [("f", "urn:pears")]
  elements := [("pear", fruitDecl "pear"), ("graft", fruitDecl "graft")]

def orchard : Declarations where
  namespaces := [("f", "urn:pears")]
  schemas := { namespaces := [("f", "urn:pears")], schemas := [("urn:pears", pears)] }
  messages := [("Basket",
    { name := "Basket", parts := [⟨"body", some "f:apple", none⟩], documentation := none })]

theorem parse_orchardDocument : Document.parse orchardMarkup.render true = .ok orchardDocument := by
  have hw : orchardMarkup.IsWritable := by decide +kernel
  rw [orchardMarkup, Document.parse_render hw]
  rfl

theorem ofDocument_orchard : ofDocument orchardDocument = .ok orchard := by
  decide +kernel

/-- What stands in the schema of pears. -/
theorem orchard_site {n : Node} (hn : n ∈ pearSchema.children) (hkind : n.kind = .element) :
    orchardDocument.Site pearSchema n [] [orchardTypes, orchardDocument.root] where
  mem := List.mem_singleton.mpr rfl
  above := (Node.Within.root.child List.mem_cons_self).child List.mem_cons_self
  inside := Node.Within.root.child hn
  kind := hkind

theorem orchard_declares {name : String} (h : (name, fruitDecl name) ∈ pears.elements) :
    orchard.schemas.Declares (fruitDecl name) := by
  have hdoc : ("urn:pears", pears) ∈ orchard.schemas.schemas := List.mem_cons_self
  exact .element hdoc h

/-- The type of a pear is among the pears, where the nearest declaration has it. -/
theorem references_lookedUp_orchard :
    Document.parse orchardMarkup.render true = .ok orchardDocument ∧ ofDocument orchardDocument = .ok orchard ∧
    orchard.namespaceOf? (.parse "f:apple") = orchardDocument.lastDeclared? (prefixOf "f:apple") ∧
    pearNode.nearest? [pearSchema, orchardTypes, orchardDocument.root] "f" = some "urn:pears" ∧
    orchard.schemas.resolvePrefix? (some "urn:pears") "f" = some "urn:pears" := by
  obtain ⟨-, helements, htypes⟩ := references_lookedUp parse_orchardDocument ofDocument_orchard
  have hbound := (helements _ List.mem_cons_self _ List.mem_cons_self "f:apple" rfl).bound
  have hlookup := htypes (fruitDecl "pear") (orchard_declares List.mem_cons_self) "f:Kind" rfl
  have hsite := orchard_site List.mem_cons_self (n := pearNode) rfl
  have hnearest : pearNode.nearest? [pearSchema, orchardTypes, orchardDocument.root] "f" = some "urn:pears" := rfl
  have hinner : ∀ m ∈ [pearNode], m.declared.get? (prefixOf "f:Kind") = none := by
    intro m hm
    obtain rfl := List.mem_singleton.mp hm
    rfl
  have hschemas : orchardDocument.SchemasAgreeOn "urn:pears" (prefixOf "f:Kind") "urn:pears" := by
    intro s hs other hother
    obtain rfl := List.mem_singleton.mp hs
    exact (Option.some.inj hother).symm
  refine ⟨parse_orchardDocument, ofDocument_orchard, hbound, hnearest, ?_⟩
  exact hlookup.kept pearSchema pearNode [] _ "urn:pears" "urn:pears" hsite rfl hnearest hinner rfl hschemas

/-- The apple is looked up among the pears, for the root's declaration is not the last one. So is the
type of the graft, whose own declaration is forgotten. -/
theorem pass_over_nearest :
    Document.parse orchardMarkup.render true = .ok orchardDocument ∧ ofDocument orchardDocument = .ok orchard ∧
    (∃ e ∈ orchard.messages, ∃ part ∈ e.2.parts, ∃ n outer,
      orchardDocument.root.Within n outer ∧ part.IsReadOff n ∧ part.element = some "f:apple" ∧
      n.nearest? outer (prefixOf "f:apple") = some "urn:apples" ∧
      orchard.namespaceOf? (.parse "f:apple") = some "urn:pears") ∧
    ∃ decl schema n inner above, orchard.schemas.Declares decl ∧ orchardDocument.Site schema n inner above ∧
      ElementDecl.ofNode? (schema.attr? "targetNamespace") n = some decl ∧ decl.typeRef = some "f:Kind" ∧
      isPrimitive (localPart "f:Kind") = false ∧
      n.nearest? (inner ++ schema :: above) (prefixOf "f:Kind") = some "urn:apples" ∧
      orchard.schemas.resolvePrefix? decl.owner (prefixOf "f:Kind") = some "urn:pears" := by
  refine ⟨parse_orchardDocument, ofDocument_orchard, ?_, ?_⟩
  · have hwithin : orchardDocument.root.Within applePart [basketNode, orchardDocument.root] :=
      (Node.Within.root.child (List.mem_cons_of_mem _ List.mem_cons_self)).child List.mem_cons_self
    exact ⟨_, List.mem_cons_self, _, List.mem_cons_self, applePart, _, hwithin, ⟨rfl, rfl, rfl, rfl⟩, rfl, rfl, rfl⟩
  · have hsite := orchard_site (List.mem_cons_of_mem _ List.mem_cons_self) (n := graftNode) rfl
    have hkind : isPrimitive (localPart "f:Kind") = false := by decide
    have hgraft : ("graft", fruitDecl "graft") ∈ pears.elements := List.mem_cons_of_mem _ List.mem_cons_self
    exact ⟨fruitDecl "graft", _, _, _, _, orchard_declares hgraft, hsite, rfl, rfl, hkind, rfl, rfl⟩

end Declarations

end Soap
