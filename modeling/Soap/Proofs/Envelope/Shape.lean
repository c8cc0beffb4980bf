import Soap.Proofs.Namespace

/-!
# How values are spelt

A document and a call write a value as the same tree of elements; they differ in the prefixes alone.
`Spells name v content` says that `content` is that tree: one element per item and field, tagged
with its name behind any prefix or none. What is proved of spelt values holds of both encoders
(`spells_encodeDocument`, `spells_encodeCall`).
-/

namespace Soap

open Xml (Markup isLocalName AreReadable IsTag)

/-! ## Tags -/

/-- `tag` is `name`, possibly behind a prefix. -/
def IsTagOf (tag name : String) : Prop :=
  tag = name ∨ ∃ space, isLocalName space = true ∧ tag = space ++ ":" ++ name

theorem IsTagOf.isTag {tag name : String} (h : IsTagOf tag name) (hname : isLocalName name = true) :
    IsTag tag.toList := by
  rcases h with rfl | ⟨space, hspace, rfl⟩
  · exact IsTag.ofName hname
  · exact IsTag.ofQualified hspace hname

/-- The name is what follows the prefix. -/
theorem IsTagOf.localName {tag name : String} (h : IsTagOf tag name)
    (hname : isLocalName name = true) : (QName.parse tag).localName = name := by
  have hcolon : ∀ {n : String}, isLocalName n = true → ∀ c ∈ n.toList, (c == ':') = false := by
    intro n hn c hc
    simpa using Xml.ne_colon_of_isNameChar (Xml.isNameChar_of_isLocalName hn c hc)
  rcases h with rfl | ⟨space, hspace, rfl⟩
  · rw [QName.parse_eq_unqualified fun c hc => by simpa using hcolon hname c hc]
    rfl
  · have hcut : (space ++ ":" ++ name).toList = space.toList ++ ':' :: name.toList := by
      simp [String.toList_append]
    rw [QName.parse, hcut, Text.splitFirst_append _ (hcolon hspace) (by decide)]
    simp

/-- Attributes that declare namespaces and nothing else. -/
structure AreDeclarations (attributes : List (String × String)) : Prop where
  readable : AreReadable attributes
  declare : ∀ a ∈ attributes, ∃ name, a.1 = "xmlns:" ++ name

theorem AreDeclarations.nil : AreDeclarations [] :=
  ⟨⟨by simp, by simp, by simp⟩, by simp⟩

/-! ## Spelling -/

mutual

/-- `content` is the value written as the element `name`. -/
def Spells (name : String) (content : List Markup) : Value → Prop
  | .null => content = []
  | .list items => SpellItems name content items
  | .object fields =>
    ∃ tag attributes inside, IsTagOf tag name ∧ AreDeclarations attributes ∧
      content = [.element tag attributes inside] ∧ SpellFields inside fields
  | v@(.string _) | v@(.int _) | v@(.float _) | v@(.bool _) | v@(.dateTime _) =>
    ∃ tag attributes, IsTagOf tag name ∧ AreDeclarations attributes ∧
      content = [.element tag attributes (v.scalarText?.map Markup.text).toList]

/-- `content` is the items, each written as the element `name`. -/
def SpellItems (name : String) (content : List Markup) : List Value → Prop
  | [] => content = []
  | item :: rest =>
    ∃ first later, content = first ++ later ∧ Spells name first item ∧ SpellItems name later rest

/-- `content` is the fields, each written under its key. -/
def SpellFields (content : List Markup) : List (String × Value) → Prop
  | [] => content = []
  | (key, v) :: rest =>
    ∃ first later, content = first ++ later ∧ Spells key first v ∧ SpellFields later rest

end

/-- A scalar is one element around its text. -/
theorem spells_scalar {name text : String} {v : Value} (htext : v.scalarText? = some text)
    {content : List Markup} :
    Spells name content v ↔
      ∃ tag attributes, IsTagOf tag name ∧ AreDeclarations attributes ∧
        content = [.element tag attributes [.text text]] := by
  cases v <;> simp_all [Value.scalarText?, Spells]

/-! ## Calls -/

mutual

theorem spells_encodeShape (name : String) (v : Value) : Spells name (encodeShape name v) v := by
  match v with
  | .null => exact rfl
  | .list items => exact spellItems_encodeShapes name items
  | .object fields =>
    exact ⟨name, [], _, .inl rfl, .nil, rfl, spellFields_encodeParameters fields⟩
  | .string _ | .int _ | .float _ | .bool _ | .dateTime _ => exact ⟨name, [], .inl rfl, .nil, rfl⟩

theorem spellItems_encodeShapes (name : String) (items : List Value) :
    SpellItems name (encodeShapes name items) items := by
  match items with
  | [] => exact rfl
  | item :: rest =>
    exact ⟨_, _, rfl, spells_encodeShape name item, spellItems_encodeShapes name rest⟩

theorem spellFields_encodeParameters (fields : List (String × Value)) :
    SpellFields (encodeParameters fields) fields := by
  match fields with
  | [] => exact rfl
  | (key, v) :: rest =>
    exact ⟨_, _, rfl, spells_encodeShape key v, spellFields_encodeParameters rest⟩

end

/-- A namespace that is either never declared or can be written. -/
def IsWritableUri (uri : String) : Prop := isInfrastructureUri uri = false → IsPlainUri uri

instance (uri : String) : Decidable (IsWritableUri uri) := by unfold IsWritableUri; infer_instance

/-- A clean table qualifies a name with some prefix or none, and stays clean. -/
theorem qualify_spec {table : NamespaceTable} (ht : table.IsClean) {space : Option String}
    (hspace : ∀ u ∈ space, IsWritableUri u) (name : String) :
    IsTagOf (qualify table space name).1 name ∧ (qualify table space name).2.IsClean := by
  cases space with
  | none => exact ⟨.inl rfl, ht⟩
  | some u =>
    have hu := ht.prefixFor (hspace u rfl)
    exact ⟨.inr ⟨_, hu.1, rfl⟩, hu.2⟩

/-- A call spells the object of its parameters. -/
theorem spells_encodeCall {table : NamespaceTable} (ht : table.IsClean) {space : Option String}
    (hspace : ∀ u ∈ space, IsWritableUri u) (name : String) (fields : List (String × Value)) :
    Spells name (encodeCall table name space (.object fields)).1 (.object fields) ∧
      (encodeCall table name space (.object fields)).2.IsClean := by
  have hq := qualify_spec ht hspace name
  exact ⟨⟨_, [], _, hq.1, .nil, rfl, spellFields_encodeParameters fields⟩, hq.2⟩

/-! ## Documents -/

mutual

/-- The namespaces that own a declaration and those inside it, at any depth. -/
def ElementDecl.owners : ElementDecl → List String
  | ⟨_, _, _, inline, owner⟩ => owner.toList ++ inlineOwners inline

/-- The namespaces that own the declarations of an inline type. -/
def inlineOwners : Option (ContentModel ElementDecl) → List String
  | none => []
  | some ⟨_, content⟩ => allOwners content

/-- The namespaces that own the declarations of a list. -/
def allOwners : List ElementDecl → List String
  | [] => []
  | decl :: rest => decl.owners ++ allOwners rest

end

/-- The namespaces that own the declarations of the named complex types. -/
def SchemaRegistry.owners (reg : SchemaRegistry) : List String :=
  reg.schemas.flatMap fun (_, doc) => doc.complexTypes.flatMap fun (_, ct) => allOwners ct.content

theorem mem_allOwners {decls : List ElementDecl} {decl : ElementDecl} (hd : decl ∈ decls)
    {u : String} (hu : u ∈ decl.owners) : u ∈ allOwners decls := by
  induction decls with
  | nil => cases hd
  | cons first rest ih =>
    rw [allOwners, List.mem_append]
    rcases List.mem_cons.mp hd with rfl | hd
    · exact .inl hu
    · exact .inr (ih hd)

theorem ElementDecl.mem_owners_of_owner {decl : ElementDecl} {u : String} (h : u ∈ decl.owner) :
    u ∈ decl.owners := by
  obtain ⟨_, _, _, inline, owner⟩ := decl
  exact List.mem_append_left _ (Option.mem_toList.mpr h)

/-- A type that a reference resolves to is one of the registry's. -/
theorem SchemaRegistry.owners_of_lookupType? {reg : SchemaRegistry} {owner : Option String}
    {typeRef ns : String} {ct : ComplexType}
    (h : reg.lookupType? owner typeRef = some (.complex ct, ns)) {u : String}
    (hu : u ∈ allOwners ct.content) : u ∈ reg.owners := by
  simp only [lookupType?] at h
  -- Primitive types, unbound prefixes and namespaces without a schema resolve to nothing.
  split at h
  · cases h
  split at h
  · cases h
  split at h
  · cases h
  next doc hdoc =>
  obtain ⟨d, hd, heq⟩ := Option.map_eq_some_iff.mp h
  simp only [Prod.mk.injEq] at heq
  obtain ⟨rfl, rfl⟩ := heq
  simp only [SchemaDocument.type?] at hd
  split at hd
  · next ct' hct =>
    simp only [Option.some.injEq, TypeDef.complex.injEq] at hd
    subst hd
    exact List.mem_flatMap.mpr ⟨_, OrderedMap.mem_of_get? hdoc,
      List.mem_flatMap.mpr ⟨_, OrderedMap.mem_of_get? hct, hu⟩⟩
  · obtain ⟨_, _, h⟩ := Option.map_eq_some_iff.mp hd
    cases h

/-- The content model of a declaration is its own or the registry's. -/
theorem SchemaRegistry.owners_of_contentModel? {reg : SchemaRegistry} {decl : ElementDecl}
    {ct : ComplexType} (h : reg.contentModel? decl = some ct) {u : String}
    (hu : u ∈ allOwners ct.content) : u ∈ decl.owners ∨ u ∈ reg.owners := by
  obtain ⟨_, _, typeRef, inline, owner⟩ := decl
  unfold contentModel? at h
  cases inline with
  | some model =>
    simp only [Option.some.injEq] at h
    subst h
    exact .inl (List.mem_append_right _ hu)
  | none =>
    right
    simp only at h
    split at h
    · next ct' ns hlookup =>
      simp only [Option.some.injEq] at h
      subst h
      obtain ⟨ref, href, hct⟩ := Option.bind_eq_some_iff.mp hlookup
      exact owners_of_lookupType? hct hu
    · cases h

theorem mem_of_field? {ct : ComplexType} {key : String} {decl : ElementDecl}
    (h : ct.field? key = some decl) : decl ∈ ct.content :=
  List.mem_of_find?_eq_some h

section Document

variable {reg : SchemaRegistry}

/-- The fields of an element are owned by namespaces that can be written, if the element is. -/
theorem owners_of_field (hreg : ∀ u ∈ reg.owners, IsWritableUri u) {decl : Option ElementDecl}
    (hdecl : ∀ d ∈ decl, ∀ u ∈ d.owners, IsWritableUri u) (key : String) :
    ∀ d ∈ (decl.bind reg.contentModel?).bind (·.field? key), ∀ u ∈ d.owners, IsWritableUri u := by
  intro d hd u hu
  obtain ⟨ct, hct, hfield⟩ := Option.bind_eq_some_iff.mp hd
  obtain ⟨e, he, hmodel⟩ := Option.bind_eq_some_iff.mp hct
  -- The field is declared in place, inside a declaration that can be written, or by a named type.
  rcases SchemaRegistry.owners_of_contentModel? hmodel
    (mem_allOwners (mem_of_field? hfield) hu) with h | h
  · exact hdecl e he u h
  · exact hreg u h

theorem elementSpace_writable {decl : Option ElementDecl}
    (hdecl : ∀ d ∈ decl, ∀ u ∈ d.owners, IsWritableUri u) {parent : Option String}
    (hparent : ∀ u ∈ parent, IsWritableUri u) :
    ∀ u ∈ elementSpace decl parent, IsWritableUri u := by
  intro u hu
  unfold elementSpace at hu
  cases howner : decl.bind ElementDecl.owner with
  | none =>
    rw [howner] at hu
    exact hparent u hu
  | some w =>
    rw [howner] at hu
    obtain ⟨d, hd, hw⟩ := Option.bind_eq_some_iff.mp howner
    obtain rfl : w = u := Option.some.inj hu
    exact hdecl d hd w (ElementDecl.mem_owners_of_owner hw)

mutual

theorem spells_encodeElement (hreg : ∀ u ∈ reg.owners, IsWritableUri u)
    {table : NamespaceTable} (ht : table.IsClean) (name : String)
    {decl : Option ElementDecl} (hdecl : ∀ d ∈ decl, ∀ u ∈ d.owners, IsWritableUri u)
    {parent : Option String} (hparent : ∀ u ∈ parent, IsWritableUri u) (v : Value) :
    Spells name (encodeElement reg table name decl parent v).1 v ∧
      (encodeElement reg table name decl parent v).2.IsClean := by
  have hspace := elementSpace_writable hdecl hparent
  have hq := qualify_spec ht hspace name
  match v with
  | .null => exact ⟨rfl, ht⟩
  | .list items => exact spellItems_encodeItems hreg ht name hdecl hparent items
  | .object fields =>
    have hfields := spellFields_encodeFields hreg hq.2 (owners_of_field hreg hdecl) hspace fields
    exact ⟨⟨_, [], _, hq.1, .nil, rfl, hfields.1⟩, hfields.2⟩
  | .string _ | .int _ | .float _ | .bool _ | .dateTime _ => exact ⟨⟨_, [], hq.1, .nil, rfl⟩, hq.2⟩

theorem spellItems_encodeItems (hreg : ∀ u ∈ reg.owners, IsWritableUri u)
    {table : NamespaceTable} (ht : table.IsClean) (name : String)
    {decl : Option ElementDecl} (hdecl : ∀ d ∈ decl, ∀ u ∈ d.owners, IsWritableUri u)
    {parent : Option String} (hparent : ∀ u ∈ parent, IsWritableUri u) (items : List Value) :
    SpellItems name (encodeItems reg table name decl parent items).1 items ∧
      (encodeItems reg table name decl parent items).2.IsClean := by
  match items with
  | [] => exact ⟨rfl, ht⟩
  | item :: rest =>
    have hfirst := spells_encodeElement hreg ht name hdecl hparent item
    have hlater := spellItems_encodeItems hreg hfirst.2 name hdecl hparent rest
    exact ⟨⟨_, _, rfl, hfirst.1, hlater.1⟩, hlater.2⟩

theorem spellFields_encodeFields (hreg : ∀ u ∈ reg.owners, IsWritableUri u) {table : NamespaceTable}
    (ht : table.IsClean) {model : Option ComplexType}
    (hmodel : ∀ key, ∀ d ∈ model.bind (·.field? key), ∀ u ∈ d.owners, IsWritableUri u)
    {space : Option String} (hspace : ∀ u ∈ space, IsWritableUri u)
    (fields : List (String × Value)) :
    SpellFields (encodeFields reg table model space fields).1 fields ∧
      (encodeFields reg table model space fields).2.IsClean := by
  match fields with
  | [] => exact ⟨rfl, ht⟩
  | (key, v) :: rest =>
    have hfirst := spells_encodeElement hreg ht key (hmodel key) hspace v
    have hlater := spellFields_encodeFields hreg hfirst.2 hmodel hspace rest
    exact ⟨⟨_, _, rfl, hfirst.1, hlater.1⟩, hlater.2⟩

end

/-- A document spells its value. -/
theorem spells_encodeDocument (hreg : ∀ u ∈ reg.owners, IsWritableUri u)
    {table : NamespaceTable} (ht : table.IsClean) (name : String)
    {decl : ElementDecl} (hdecl : ∀ u ∈ decl.owners, IsWritableUri u) (v : Value) :
    Spells name (encodeDocument reg table name decl v).1 v ∧
      (encodeDocument reg table name decl v).2.IsClean :=
  spells_encodeElement hreg ht name (by rintro d ⟨⟩; exact hdecl) (by simp) v

end Document

end Soap
