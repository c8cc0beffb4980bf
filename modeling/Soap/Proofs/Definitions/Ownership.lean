import Soap.Proofs.Definitions.History
import Soap.Proofs.Schema.Origin

/-!
# Who owns a declaration

Every declaration that is registered for a namespace, at whatever depth, is owned by it
(`SchemaDocument.IsFiledUnder`): it is when a schema is read, when schemas are put together, and when one
without a namespace is moved into another. So it is when everything is included, if bare schemas are
included for the namespace that they declare (`Declarations.owner_eq_key`).

The owner is where the prefixes of type references are looked up first. That of a schema without a
namespace is the exception: it is registered for the empty namespace and owns its declarations, and yet
its own bindings are passed over (`Declarations.scope_of_shelf_passed_over`).
-/

namespace Soap

/-! ## Declarations of a schema document -/

namespace SchemaDocument

/-- A document declares elements, those of complex types, and what is declared in place in any of
them. -/
inductive Declares (doc : SchemaDocument) : ElementDecl → Prop where
  | element {e : String × ElementDecl} (he : e ∈ doc.elements) : Declares doc e.2
  | content {t : String × ComplexType} {decl : ElementDecl} (ht : t ∈ doc.complexTypes)
    (hdecl : decl ∈ t.2.content) : Declares doc decl
  | inline {decl child : ElementDecl} {ct : ComplexType} (h : Declares doc decl)
    (hinline : decl.inline = some ct) (hchild : child ∈ ct.content) : Declares doc child

variable {doc other : SchemaDocument} {decl : ElementDecl} {ns : String}

/-- What holds at the top, and goes from a declaration to those in place, holds of all. -/
theorem Declares.of_allMade {P : ElementDecl → Prop} (hall : doc.AllMade P)
    (hinline : ∀ decl ct child, P decl → decl.inline = some ct → child ∈ ct.content → P child)
    (h : doc.Declares decl) : P decl := by
  induction h with
  | element he => exact hall.elements _ he
  | content ht hdecl => exact hall.complexTypes _ ht _ hdecl
  | inline _ h hchild ih => exact hinline _ _ _ ih h hchild

theorem Declares.of_extend (h : (doc.extend other).Declares decl) : doc.Declares decl ∨ other.Declares decl := by
  induction h with
  | element he =>
    rcases OrderedMap.mem_extend he with he | he
    · exact .inl (.element he)
    · exact .inr (.element he)
  | content ht hdecl =>
    rcases OrderedMap.mem_extend ht with ht | ht
    · exact .inl (.content ht hdecl)
    · exact .inr (.content ht hdecl)
  | inline _ hinline hchild ih =>
    rcases ih with ih | ih
    · exact .inl (ih.inline hinline hchild)
    · exact .inr (ih.inline hinline hchild)

/-- A document that was read owns what it declares. -/
theorem owner_of_ofNode {n : Node} (h : (ofNode n).Declares decl) : decl.owner = n.attr? "targetNamespace" := by
  have hmade : n.Makes (n.attr? "targetNamespace") decl := by
    apply h.of_allMade (allMade_ofNode n)
    intro decl ct child hdecl hinline hchild
    exact hdecl.inline hinline hchild
  obtain ⟨m, between, -, -, hm⟩ := hmade
  exact (Node.ofNode?_eq_some hm).1

/-! ### Moving into a namespace -/

theorem mem_allOwnedBy {decls : List ElementDecl} (h : decl ∈ allOwnedBy ns decls) :
    ∃ before, decl = ElementDecl.ownedBy ns before := by
  induction decls with
  | nil => cases h
  | cons first rest ih =>
    rcases List.mem_cons.mp h with rfl | h
    · exact ⟨first, rfl⟩
    · exact ih h

theorem owner_ownedBy (ns : String) (decl : ElementDecl) : (decl.ownedBy ns).owner = some ns := by
  obtain ⟨_, _, _, _, _⟩ := decl
  rfl

/-- What is declared in place moves along. -/
theorem mem_inline_ownedBy {before child : ElementDecl} {ct : ComplexType}
    (hinline : (before.ownedBy ns).inline = some ct) (hchild : child ∈ ct.content) :
    ∃ before, child = ElementDecl.ownedBy ns before := by
  obtain ⟨name, occurs, typeRef, inline, owner⟩ := before
  cases inline with
  | none => cases hinline
  | some model =>
    obtain rfl := Option.some.inj hinline
    exact mem_allOwnedBy hchild

/-- A document that is moved into a namespace is owned by it at every depth. -/
theorem owner_of_adopt (h : (doc.adopt ns).Declares decl) : decl.owner = some ns := by
  have hmoved : ∃ before, decl = ElementDecl.ownedBy ns before := by
    apply h.of_allMade
    · constructor
      · rintro ⟨name, e⟩ he
        obtain ⟨before, -, rfl⟩ := OrderedMap.mem_mapValues he
        exact ⟨before, rfl⟩
      · intro t ht decl hdecl
        obtain ⟨before, -, rfl⟩ := List.mem_map.mp ht
        exact mem_allOwnedBy hdecl
    · rintro _ ct child ⟨before, rfl⟩ hinline hchild
      exact mem_inline_ownedBy hinline hchild
  obtain ⟨before, rfl⟩ := hmoved
  exact owner_ownedBy ns before

/-! ### Documents for a namespace -/

/-- A document is one for the namespace `ns`, which owns all its declarations. No namespace counts as the
empty one. -/
structure IsFiledUnder (doc : SchemaDocument) (ns : String) : Prop where
  key : doc.key = ns
  owner : ∀ decl, doc.Declares decl → decl.owner.getD "" = ns

theorem isFiledUnder_ofNode (n : Node) : (ofNode n).IsFiledUnder (ofNode n).key where
  key := rfl
  owner decl h := by rw [owner_of_ofNode h, key, targetNamespace_ofNode]

theorem isFiledUnder_adopt (doc : SchemaDocument) (ns : String) : (doc.adopt ns).IsFiledUnder ns where
  key := rfl
  owner decl h := by
    rw [owner_of_adopt h]
    rfl

theorem IsFiledUnder.extend (h : doc.IsFiledUnder ns) (hother : other.IsFiledUnder ns) :
    (doc.extend other).IsFiledUnder ns where
  key := h.key
  owner decl hdecl := by
    rcases hdecl.of_extend with hdecl | hdecl
    · exact h.owner decl hdecl
    · exact hother.owner decl hdecl

end SchemaDocument

/-! ## Registries -/

namespace SchemaRegistry

/-- Every document is one for the namespace that it is registered for. -/
def IsFiled (reg : SchemaRegistry) : Prop := ∀ e ∈ reg.schemas, e.2.IsFiledUnder e.1

variable {reg : SchemaRegistry} {ns : String} {doc : SchemaDocument}

theorem IsFiled.insert (h : reg.IsFiled) (hdoc : doc.IsFiledUnder ns) : (reg.insert ns doc).IsFiled := by
  intro e he
  rcases OrderedMap.mem_insert he with rfl | he
  · exact hdoc
  · exact h e he

theorem IsFiled.merge (h : reg.IsFiled) (hdoc : doc.IsFiledUnder ns) : (reg.merge ns doc).IsFiled := by
  apply forall_mem_merge h hdoc
  intro existing hexisting
  exact SchemaDocument.IsFiledUnder.extend hexisting hdoc

theorem IsFiled.contribute (h : reg.IsFiled) {c : String × SchemaDocument} (hc : c.2.IsFiledUnder c.1)
    (owned : List String) : (reg.contribute owned c).IsFiled := by
  unfold SchemaRegistry.contribute
  split
  · exact h.merge hc
  · exact h.insert hc

theorem IsFiled.registerAll (h : reg.IsFiled) (nodes : List Node) : (nodes.foldl register reg).IsFiled := by
  apply forall_mem_registerAll h
  · intro n _
    exact SchemaDocument.isFiledUnder_ofNode n
  · intro n _ existing hexisting
    exact SchemaDocument.IsFiledUnder.extend hexisting (SchemaDocument.isFiledUnder_ofNode n)

/-- The prefixes of an owner are looked up among its own bindings first. -/
theorem resolvePrefix?_some (hdoc : reg.get? ns = some doc) (name : String) :
    reg.resolvePrefix? (some ns) name =
      (doc.namespaces.get? name <|> reg.namespaces.get? name <|> if name = "" then some ns else none) := by
  rw [resolvePrefix?, Option.bind_some, hdoc, Option.bind_some]

/-- Without an owner there are only the bindings of the description as a whole. -/
theorem resolvePrefix?_none (reg : SchemaRegistry) (name : String) :
    reg.resolvePrefix? none name = reg.namespaces.get? name := by
  rw [resolvePrefix?, Option.bind_none, Option.bind_none, ite_self]
  cases reg.namespaces.get? name <;> rfl

end SchemaRegistry

/-! ## Descriptions -/

/-- A bare schema that declares a namespace was included for this one, or for none. -/
def Followed.IsNamedAsDeclared (f : Followed) : Prop :=
  f.document.isSchema = true → ∀ doc ∈ f.document.schemas.schemas.values, ∀ ns,
    doc.targetNamespace = some ns → f.wanted.inclusion.space = some ns ∨ f.wanted.inclusion.space = none

namespace Declarations

variable {d : Declarations} {text : String} {strict : Bool}

theorem isFiled_of_schemas (h : Declarations.parse text strict = .ok d) : d.schemas.IsFiled := by
  obtain ⟨doc, -, hdoc⟩ := bind_eq_ok h
  rw [(schemas_of_ofDocument hdoc).2]
  apply SchemaRegistry.IsFiled.registerAll
  intro e he
  cases he

/-- What an inclusion contributes to a namespace is owned by it. -/
theorem isFiledUnder_contributions {f : Followed} (hparse : Declarations.parse text strict = .ok f.document)
    (hnamed : f.IsNamedAsDeclared) {c : String × SchemaDocument} (hc : c ∈ f.contributions) :
    c.2.IsFiledUnder c.1 := by
  have hfiled : f.document.schemas.IsFiled := isFiled_of_schemas hparse
  unfold Followed.contributions contributions at hc
  split at hc
  · next hschema =>
    obtain ⟨doc, hdoc, rfl⟩ := List.mem_map.mp hc
    obtain ⟨e, he, rfl⟩ := List.mem_map.mp hdoc
    have hown : e.2.IsFiledUnder e.2.key := by
      rw [(hfiled e he).key]
      exact hfiled e he
    dsimp only
    cases htarget : e.2.targetNamespace with
    | none =>
      cases f.wanted.inclusion.space with
      | none => exact hown
      | some ns => exact SchemaDocument.isFiledUnder_adopt e.2 ns
    | some ns =>
      have hkey : e.2.key = ns := by rw [SchemaDocument.key, htarget, Option.getD_some]
      rcases hnamed hschema e.2 hdoc ns htarget with hspace | hspace
      · rw [hspace, Option.getD_some, ← hkey]
        exact hown
      · rw [hspace]
        exact hown
  · exact hfiled c hc

variable {source : Source} {base? : Option String} {reg : SchemaRegistry}

/-- If bare schemas are included for the namespace that they declare, then every document is registered for
its own namespace, and this owns all that it declares. Prefixes of type references are looked up among the
bindings of what is registered for the owner, unless the schema has no namespace at all: then only
those of the description as a whole count. -/
theorem owner_eq_key (hparse : Declarations.parse text strict = .ok d) {strict' : Bool}
    (hok : (d.followInclusions base? source strict').outcome = .ok reg) :
    ∃ history, d.Completes source.fetch strict' base? history reg ∧
      ((∀ f ∈ history, f.IsNamedAsDeclared) →
        ∀ ns doc, reg.get? ns = some doc → doc.key = ns ∧ ∀ decl, doc.Declares decl →
          decl.owner.getD "" = ns ∧
          ((decl.owner = some ns ∧ ∀ name, reg.resolvePrefix? decl.owner name =
              (doc.namespaces.get? name <|> reg.namespaces.get? name <|>
                if name = "" then some ns else none)) ∨
            (decl.owner = none ∧ ns = "" ∧
              ∀ name, reg.resolvePrefix? decl.owner name = reg.namespaces.get? name))) := by
  obtain ⟨history, hcompletes⟩ := followInclusions_eq_ok_iff.mp hok
  refine ⟨history, hcompletes, ?_⟩
  intro hnamed ns doc hdoc
  have hreg : reg.IsFiled := by
    rw [hcompletes.registry_eq]
    apply SchemaRegistry.foldl_contribute (isFiled_of_schemas hparse)
    intro reg c hreg hc
    obtain ⟨f, hf, hc⟩ := List.mem_flatMap.mp hc
    obtain ⟨text', -, hparse'⟩ := hcompletes.exists_text hf
    exact hreg.contribute (isFiledUnder_contributions hparse' (hnamed f hf) hc) _
  have hfiled : doc.IsFiledUnder ns := hreg _ (OrderedMap.mem_of_get? hdoc)
  refine ⟨hfiled.key, ?_⟩
  intro decl hdecl
  have howner := hfiled.owner decl hdecl
  refine ⟨howner, ?_⟩
  cases h : decl.owner with
  | none =>
    rw [h] at howner
    exact .inr ⟨rfl, howner.symm, reg.resolvePrefix?_none⟩
  | some owner =>
    rw [h] at howner
    obtain rfl : owner = ns := howner
    exact .inl ⟨rfl, SchemaRegistry.resolvePrefix?_some hdoc⟩

/-! ### A letter and what it includes -/

def paperFollowed : Followed := ⟨{ base := some "letter.wsdl", inclusion := letterInclusion "paper.xsd" }, paper⟩

def stampFollowed : Followed := ⟨{ base := some "paper.xsd", inclusion := letterInclusion "stamp.xsd" }, stamp⟩

theorem location_paperFollowed : paperFollowed.wanted.location = "paper.xsd" := by decide

theorem location_stampFollowed : stampFollowed.wanted.location = "stamp.xsd" := by decide

/-- The inclusions of the letter that are followed: paper, and the stamp that paper wants. -/
def letterHistory : List Followed := [paperFollowed, stampFollowed]

def lettersRegistry : SchemaRegistry where
  schemas := [("urn:letters", lettersSchema)]

theorem completes_letter :
    letter.Completes stationery.fetch false (some "letter.wsdl") letterHistory lettersRegistry := by
  have hpaper : resolveLocation (some "stamp.xsd") "paper.xsd" = "paper.xsd" := by decide
  have hletter : resolveLocation (some "paper.xsd") "letter.wsdl" = "letter.wsdl" := by decide
  have hstamp : resolveLocation (some "letter.wsdl") "stamp.xsd" = "stamp.xsd" := by decide
  refine ⟨lettersAt ["paper.xsd", "stamp.xsd"] lettersSchema, ?_, rfl⟩
  refine Traversal.Completes.follow location_paperFollowed (by decide) visit_paper ?_
  refine Traversal.Completes.follow location_stampFollowed (by decide) visit_stamp ?_
  -- what is left has been visited: by the stamp, by paper and by the letter
  refine Traversal.Completes.revisit hpaper (by decide) ?_
  refine Traversal.Completes.revisit hletter (by decide) ?_
  refine Traversal.Completes.revisit hstamp (by decide) ?_
  exact .nil

theorem isNamedAsDeclared_letterHistory : ∀ f ∈ letterHistory, f.IsNamedAsDeclared := by
  intro f hf _ doc hdoc ns htarget
  rcases List.mem_pair.mp hf with rfl | rfl
  · -- paper is for letters, as the letter says
    obtain rfl := List.mem_singleton.mp hdoc
    exact .inl htarget
  · obtain rfl := List.mem_singleton.mp hdoc
    cases htarget

/-- The stamp was moved to the namespace of the letter, which owns paper and stamp. -/
theorem owner_eq_key_letter :
    Declarations.parse letterMarkup.render false = .ok letter ∧
    (letter.followInclusions (some "letter.wsdl") stationery false).outcome = .ok lettersRegistry ∧
    (∀ f ∈ letterHistory, f.IsNamedAsDeclared) ∧
    lettersSchema.key = "urn:letters" ∧
    ∀ decl, lettersSchema.Declares decl → decl.owner.getD "" = "urn:letters" := by
  have hok := followInclusions_eq_ok_iff.mpr ⟨_, completes_letter⟩
  obtain ⟨history, hcompletes, h⟩ := owner_eq_key parse_letter hok
  obtain rfl := completes_letter.unique hcompletes
  obtain ⟨hkey, howner⟩ := h isNamedAsDeclared_letterHistory "urn:letters" lettersSchema rfl
  exact ⟨parse_letter, hok, isNamedAsDeclared_letterHistory, hkey, fun decl hdecl => (howner decl hdecl).1⟩

/-! ### A schema without a namespace -/

/-- A library has shelves, of which another document says that they hold books. -/
def libraryMarkup : Xml.Markup :=
  .element "definitions" [("xmlns", "")]
    [.element "types" []
      [.element "schema" [] [inclusionMarkup "shelf.xsd"],
        .element "schema" [("targetNamespace", "urn:books")]
          [.element "complexType" [("name", "Book")]
            [.element "sequence" [] [leafMarkup "element" [("name", "pages"), ("type", "xsd:int")]]]]],
      .element "message" [("name", "Shelf")] [leafMarkup "part" [("name", "body"), ("element", "shelf")]]]

def shelfMarkup : Xml.Markup :=
  .element "schema" [("xmlns:b", "urn:books")] [leafMarkup "element" [("name", "shelf"), ("type", "b:Book")]]

def shelfInclusion : Inclusion := { space := none, location := "shelf.xsd" }

def booksSchema : SchemaDocument where
  targetNamespace := some "urn:books"
  namespaces := [("", "")]
  complexTypes := [("Book", ⟨some "Book", [⟨"pages", ⟨none, none⟩, some "xsd:int", none, some "urn:books"⟩]⟩)]

def library : Declarations where
  namespaces := [("", "")]
  schemas :=
    { schemas := [("", { namespaces := [("", "")], inclusions := [shelfInclusion] }), ("urn:books", booksSchema)]
      namespaces := [("", "")] }
  messages := [("Shelf", ⟨"Shelf", [⟨"body", some "shelf", none⟩], none⟩)]

def shelfElement : ElementDecl := ⟨"shelf", ⟨none, none⟩, some "b:Book", none, none⟩

def shelf : Declarations where
  namespaces := [("b", "urn:books")]
  schemas :=
    { schemas := [("", { namespaces := [("b", "urn:books")], elements := [("shelf", shelfElement)] })]
      namespaces := [("b", "urn:books")] }
  isSchema := true

theorem parse_library : Declarations.parse libraryMarkup.render false = .ok library := by
  have hw : libraryMarkup.IsWritable := by decide +kernel
  rw [Declarations.parse, libraryMarkup, Document.parse_render hw]
  decide +kernel

theorem parse_shelf : Declarations.parse shelfMarkup.render false = .ok shelf := by
  have hw : shelfMarkup.IsWritable := by decide +kernel
  rw [Declarations.parse, shelfMarkup, Document.parse_render hw]
  decide +kernel

def shelves : Source := .ofDocuments [("shelf.xsd", shelfMarkup.render)]

/-- What is registered without a namespace once the shelf is there. -/
def furniture : SchemaDocument where
  namespaces := [("", ""), ("b", "urn:books")]
  elements := [("shelf", shelfElement)]
  inclusions := [shelfInclusion]

def libraryRegistry : SchemaRegistry where
  schemas := [("", furniture), ("urn:books", booksSchema)]
  namespaces := [("", "")]

def libraryHistory : List Followed := [⟨{ base := some "library.wsdl", inclusion := shelfInclusion }, shelf⟩]

theorem completes_library :
    library.Completes shelves.fetch false (some "library.wsdl") libraryHistory libraryRegistry := by
  have hlocation : resolveLocation (some "library.wsdl") "shelf.xsd" = "shelf.xsd" := by decide
  have hfetch : shelves.fetch "shelf.xsd" = .ok shelfMarkup.render := rfl
  exact ⟨_, .follow hlocation (by decide) (Traversal.visit_of_parse hfetch parse_shelf _ _) .nil, rfl⟩

/-- The bindings of a schema without a namespace do not count for what it declares, though it is named
as it should be and registered where it belongs. The type of the shelf is there and is not found. -/
theorem scope_of_shelf_passed_over :
    Declarations.parse libraryMarkup.render false = .ok library ∧
    (library.followInclusions (some "library.wsdl") shelves false).outcome = .ok libraryRegistry ∧
    library.Completes shelves.fetch false (some "library.wsdl") libraryHistory libraryRegistry ∧
    (∀ f ∈ libraryHistory, f.IsNamedAsDeclared) ∧
    ¬ (∀ ns doc, libraryRegistry.get? ns = some doc → ∀ decl, doc.Declares decl → ∀ name uri,
      doc.namespaces.get? name = some uri → libraryRegistry.resolvePrefix? decl.owner name = some uri) ∧
    (libraryRegistry.lookupType? (some "") "b:Book").isSome ∧
    libraryRegistry.lookupType? shelfElement.owner "b:Book" = none := by
  refine ⟨parse_library, followInclusions_eq_ok_iff.mpr ⟨_, completes_library⟩, completes_library, ?_, ?_,
    by decide +kernel, by decide +kernel⟩
  · intro f hf _ doc hdoc ns htarget
    obtain rfl := List.mem_singleton.mp hf
    obtain rfl := List.mem_singleton.mp hdoc
    cases htarget
  · intro h
    have hmem : ("shelf", shelfElement) ∈ furniture.elements := List.mem_singleton_self _
    have hshelf : furniture.Declares shelfElement := .element hmem
    have hbound := h "" furniture rfl shelfElement hshelf "b" "urn:books" rfl
    cases hbound

end Declarations

end Soap
