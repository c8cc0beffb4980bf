import Soap.Proofs.Definitions.Lookup
import Soap.Proofs.Definitions.References
import Soap.Proofs.Schema.Describer
import Soap.Proofs.Schema.Merging

/-!
# Where the types of parts are found

The prefix of a part's type is looked up twice: in the bindings of the whole document, which gives the
namespace that the part is recorded with, and then in the bindings of what is registered for that
namespace. Both mean the same namespace if the latter binds the prefix to nothing else, and then the
part has its type from there. Otherwise it has it from the namespace that the prefix is bound to there,
whatever is registered for the recorded one (`Wsdl.IsLoaded.finds_types_of_parts`).
-/

namespace Soap

open Xml (Markup)

/-! ## Prefix bindings of loaded descriptions -/

namespace SchemaRegistry

theorem namespaces_contribute (reg : SchemaRegistry) (owned : List String) (c : String × SchemaDocument) :
    (reg.contribute owned c).namespaces = reg.namespaces := by
  unfold contribute merge
  split
  · split <;> rfl
  · rfl

end SchemaRegistry

namespace Declarations

/-- The registry of a document has the prefix bindings of the document, also with everything
included. -/
theorem namespaces_of_followInclusions {text : String} {strict strict' : Bool} {d : Declarations}
    {base? : Option String} {source : Source} {reg : SchemaRegistry} (hparse : parse text strict = .ok d)
    (hok : (d.followInclusions base? source strict').outcome = .ok reg) : reg.namespaces = d.namespaces := by
  obtain ⟨history, hcompletes⟩ := followInclusions_eq_ok_iff.mp hok
  obtain ⟨doc, hdoc, hd⟩ := bind_eq_ok hparse
  rw [hcompletes.registry_eq]
  refine SchemaRegistry.foldl_contribute (P := fun reg => reg.namespaces = d.namespaces) ?_ _ ?_
  · rw [(schemas_of_ofDocument hd).2, SchemaRegistry.namespaces_registerAll, (schemas_of_ofDocument hd).1]
  · intro reg c hreg _
    rw [SchemaRegistry.namespaces_contribute, hreg]

end Declarations

namespace Wsdl

/-- What is loaded is what the document declares, resolved with the schemas that following its
inclusions gives. -/
theorem IsLoaded.exists_followed {wsdl : Wsdl} (h : wsdl.IsLoaded) :
    ∃ strict d base? source schemas, Declarations.parse wsdl.source strict = .ok d ∧
      (d.followInclusions base? source strict).outcome = .ok schemas ∧
      wsdl.definitions = ({ d with schemas } : Declarations).resolve.1 := by
  have of_text {text : String} {location : Option String} {source : Source} {options : LoadOptions}
      (h : (Wsdl.ofText text location source options).outcome = .ok wsdl) :
      ∃ strict d base? source schemas, Declarations.parse wsdl.source strict = .ok d ∧
        (d.followInclusions base? source strict).outcome = .ok schemas ∧
        wsdl.definitions = ({ d with schemas } : Declarations).resolve.1 := by
    unfold Wsdl.ofText at h
    split at h
    · cases h
    · next d hd =>
      obtain ⟨schemas, hschemas, h⟩ := bind_eq_ok h
      obtain ⟨hsource, hdefs⟩ := declared_of_ofDeclarations h
      exact ⟨_, d, _, _, schemas, hsource ▸ hd, hschemas, hdefs⟩
  cases h with
  | parse text options h =>
    obtain ⟨d, hd, h⟩ := bind_eq_ok h
    split at h
    · next hnone =>
      obtain ⟨hsource, hdefs⟩ := declared_of_ofDeclarations h
      refine ⟨_, d, none, .ofDocuments [], d.schemas, hsource ▸ mapError_eq_ok hd, ?_, hdefs⟩
      rw [Declarations.followInclusions, hnone, List.map_nil, followInclusions]
    · cases h
  | ofText text location source options h => exact of_text h
  | fetch location source options h =>
    unfold Wsdl.fetch at h
    split at h
    · cases h
    · exact of_text h

end Wsdl

/-! ## Types in a registry -/

namespace SchemaRegistry

variable {reg : SchemaRegistry} {ns space ref : String}

/-- The type of this name that is registered for a namespace. -/
def typeIn? (reg : SchemaRegistry) (ns name : String) : Option TypeDef := (reg.get? ns).bind (·.type? name)

/-- The description of a named type. -/
def describeNamed (reg : SchemaRegistry) (id : TypeId) : TypeDef → Description
  | .complex ct => .fields (OrderedMap.ofList (reg.describeContent [id] ct.content))
  | .simple st => .ofSimple st

/-- Everything that the content of a type leads to resolves. -/
def ContentResolves (reg : SchemaRegistry) (type : TypeDef) : Prop :=
  ∀ ct, type = .complex ct → ∀ decl ∈ ct.content, reg.AllResolve decl

/-- References of the namespace `ns` with this prefix mean types of `space`, if the description as a whole
binds the prefix to `ns`: what is registered for `ns` binds it to `space`, or not at all. -/
def Redirects (reg : SchemaRegistry) (ns name space : String) : Prop :=
  (reg.boundIn? ns name).getD ns = space

theorem lookupType?_of_redirects (hspace : reg.Redirects ns (prefixOf ref) space)
    (hbound : reg.namespaces.get? (prefixOf ref) = some ns) (href : isPrimitive (localPart ref) = false) :
    reg.lookupType? (some ns) ref = (reg.typeIn? space (localPart ref)).map fun type => (type, space) := by
  have huri : reg.resolvePrefix? (some ns) (prefixOf ref) = some space := by
    show (reg.boundIn? ns (prefixOf ref) <|> reg.namespaces.get? (prefixOf ref) <|> _) = some space
    rw [hbound, ← hspace]
    cases reg.boundIn? ns (prefixOf ref) <;> rfl
  rw [lookupType?_eq, if_neg (by rw [href]; decide), huri, Option.bind_some, typeIn?]
  cases reg.get? space <;> rfl

theorem describeType_of_lookupType? {owner : Option String} {type : TypeDef}
    (h : reg.lookupType? owner ref = some (type, space)) :
    reg.describeType owner ref = reg.describeNamed (space, localPart ref) type := by
  cases type with
  | complex ct => exact describeRef_complex h List.not_mem_nil
  | simple st => exact describeRef_simple h

end SchemaRegistry

/-! ## Parts of messages -/

namespace Declarations

variable {d : Declarations} {part : PartDecl} {ns : String}

theorem typeRef_resolvePart (d : Declarations) (part : PartDecl) :
    (d.resolvePart part).1.typeRef = part.reference := rfl

theorem resolvePart_space_eq_some (h : (d.resolvePart part).1.space = some ns) :
    d.namespaces.get? (prefixOf part.reference) = some ns ∧ d.schemas.contains ns = true := by
  have hfilter : (d.namespaceOf? (.parse part.reference)).filter d.schemas.contains = some ns := h
  obtain ⟨hbound, hschema⟩ := Option.filter_eq_some_iff.mp hfilter
  exact ⟨hbound, hschema⟩

/-- The parts of a message that has no element are those that it declares, of two of one name the
later. -/
theorem exists_part_of_resolveMessage {m : MessageDecl} {parts : OrderedMap String Part}
    (hbody : (d.resolveMessage m).1.body = .parts parts) {name : String} {part : Part}
    (hpart : parts.get? name = some part) :
    ∃ decl ∈ m.parts, decl.name = name ∧ (d.resolvePart decl).1 = part := by
  have hresolved : (d.resolveBody m.parts).1 = .parts parts := hbody
  unfold resolveBody at hresolved
  split at hresolved
  · next reference _ =>
    unfold resolveElement at hresolved
    dsimp only at hresolved
    split at hresolved <;> cases hresolved
  · have hparts := MessageBody.parts.inj hresolved
    have hmem := OrderedMap.mem_ofList (hparts ▸ OrderedMap.mem_of_get? hpart)
    rw [List.map_map] at hmem
    obtain ⟨decl, hdecl, heq⟩ := List.mem_map.mp hmem
    obtain ⟨hname, hvalue⟩ := Prod.mk.inj heq
    exact ⟨decl, hdecl, hname, hvalue⟩

/-- A part of a message has its type from the namespace `space`: it is described with the type that is
registered for it there, and passes strict resolution just if all that this leads to resolves. If there
is no such type, the part is a leaf and does not pass. -/
structure HasTypeFrom (d : Declarations) (m : Message) (part : PartDecl) (space : String) : Prop where
  found : ∀ type, d.schemas.typeIn? space (localPart part.reference) = some type →
    (d.resolve.1.describeMessage m).at? [part.name] =
      some (d.schemas.describeNamed (space, localPart part.reference) type) ∧
    ((d.resolvePart part).2 = [] ↔ d.schemas.ContentResolves type)
  missing : d.schemas.typeIn? space (localPart part.reference) = none →
    (d.resolve.1.describeMessage m).at? [part.name] = some (.leaf part.reference) ∧
    (d.resolvePart part).2 = [⟨.type, part.reference⟩]

end Declarations

/-- A part is described by its type, as seen from the namespace that it is recorded with. -/
theorem Definitions.at?_describeMessage (d : Definitions) {m : Message} {parts : OrderedMap String Part}
    (hbody : m.body = .parts parts) {name : String} {part : Part} (hpart : parts.get? name = some part) :
    (d.describeMessage m).at? [name] = some (d.schemas.describeType part.space part.typeRef) := by
  have hentries : (d.describeMessage m).fields? =
      some (OrderedMap.mapValues (fun part => d.schemas.describeType part.space part.typeRef) parts) := by
    rw [describeMessage, hbody]
    rfl
  rw [Description.at?, hentries, Option.bind_some, OrderedMap.get?_mapValues, hpart]
  rfl

theorem Declarations.hasTypeFrom {d : Declarations} {m : Message} {parts : OrderedMap String Part}
    {part : PartDecl} {ns space : String} (hsame : d.schemas.namespaces = d.namespaces)
    (hbody : m.body = .parts parts) (hpart : parts.get? part.name = some (d.resolvePart part).1)
    (hns : (d.resolvePart part).1.space = some ns) (href : isPrimitive (localPart part.reference) = false)
    (hspace : d.schemas.Redirects ns (prefixOf part.reference) space) : d.HasTypeFrom m part space := by
  obtain ⟨hbound, hschema⟩ := resolvePart_space_eq_some hns
  have hlookup := SchemaRegistry.lookupType?_of_redirects hspace (by rw [hsame, hbound]) href
  have hdescribed : (d.resolve.1.describeMessage m).at? [part.name] =
      some (d.schemas.describeType (some ns) part.reference) := by
    rw [Definitions.at?_describeMessage d.resolve.1 hbody hpart, hns]
    rfl
  constructor
  case found =>
    intro type htype
    rw [htype, Option.map_some] at hlookup
    rw [hdescribed, SchemaRegistry.describeType_of_lookupType? hlookup, resolvePart_eq_nil]
    refine ⟨rfl, ?_, fun hcontent ns' hns' _ => ?_⟩
    · intro hresolves
      obtain ⟨found, space', hfound, hcontent⟩ := hresolves ns hbound hschema
      obtain ⟨rfl, -⟩ := Prod.mk.inj (Option.some.inj (hlookup.symm.trans hfound))
      exact hcontent
    · obtain rfl : ns = ns' := Option.some.inj (hbound.symm.trans hns')
      exact ⟨type, space, hlookup, hcontent⟩
  case missing =>
    intro htype
    rw [htype, Option.map_none] at hlookup
    have hfails : d.partTypeResolves (some ns) part.reference = false := by
      rw [partTypeResolves, hlookup]
    refine ⟨by rw [hdescribed, SchemaRegistry.describeType, SchemaRegistry.describeRef_none hlookup], ?_⟩
    show (if (d.resolvePart part).1.space.isSome && !d.partTypeResolves (d.resolvePart part).1.space part.reference
      then [Dangling.mk .type part.reference] else []) = _
    rw [hns, hfails]
    rfl

/-- A part that is recorded with a namespace has its type from there, unless what is registered for that
namespace binds the prefix of the type's name otherwise: then it has it from the namespace that the prefix is
bound to there. This holds for every part of a description that was loaded, alone or with what it
includes. -/
theorem Wsdl.IsLoaded.finds_types_of_parts {wsdl : Wsdl} (h : wsdl.IsLoaded) :
    ∃ d : Declarations,
      (∃ strict own, Declarations.parse wsdl.source strict = .ok { d with schemas := own }) ∧
      wsdl.definitions = d.resolve.1 ∧
      ∀ entry ∈ wsdl.definitions.messages, ∀ parts : OrderedMap String Part, entry.2.body = .parts parts →
        ∀ name part, parts.get? name = some part → ∀ ns, part.space = some ns →
          isPrimitive (localPart part.typeRef) = false →
          ∃ message ∈ d.messages, ∃ decl ∈ message.2.parts,
            entry.2 = (d.resolveMessage message.2).1 ∧ decl.name = name ∧ (d.resolvePart decl).1 = part ∧
            ((∀ uri, d.schemas.boundIn? ns (prefixOf part.typeRef) = some uri → uri = ns) →
              d.HasTypeFrom entry.2 decl ns) ∧
            ∀ uri, d.schemas.boundIn? ns (prefixOf part.typeRef) = some uri → d.HasTypeFrom entry.2 decl uri := by
  obtain ⟨strict, own, base?, source, schemas, hparse, hfollowed, hdefs⟩ := h.exists_followed
  have hsame : schemas.namespaces = own.namespaces := Declarations.namespaces_of_followInclusions hparse hfollowed
  refine ⟨{ own with schemas }, ⟨strict, own.schemas, hparse⟩, hdefs, ?_⟩
  generalize hd : ({ own with schemas } : Declarations) = d at hdefs ⊢
  have hsame : d.schemas.namespaces = d.namespaces := by rw [← hd, hsame]
  rw [hdefs]
  intro entry hentry parts hbody name part hpart ns hns href
  obtain ⟨resolved, hresolved, rfl⟩ := List.mem_map.mp hentry
  obtain ⟨message, hmessage, rfl⟩ := List.mem_map.mp hresolved
  obtain ⟨decl, hdecl, rfl, rfl⟩ := Declarations.exists_part_of_resolveMessage hbody hpart
  have hfrom (space : String) (hspace : d.schemas.Redirects ns (prefixOf decl.reference) space) :=
    Declarations.hasTypeFrom hsame hbody hpart hns href hspace
  refine ⟨message, hmessage, decl, hdecl, rfl, rfl, rfl, fun hkept => hfrom ns ?_, fun uri huri => hfrom uri ?_⟩
  · rw [d.typeRef_resolvePart] at hkept
    unfold SchemaRegistry.Redirects
    cases hbound : d.schemas.boundIn? ns (prefixOf decl.reference) with
    | none => rfl
    | some uri => exact hkept uri hbound
  · rw [d.typeRef_resolvePart] at huri
    rw [SchemaRegistry.Redirects, huri]
    rfl

/-! ### A prefix that two schemas exchange -/

/-- A complex type with one field. -/
def boxMarkup (field : String) : Markup :=
  .element "complexType" [("name", "Box")]
    [.plain "sequence" [leafMarkup "element" [("name", field), ("type", "xsd:int")]]]

def tagMarkup (name : String) : Markup :=
  .element "simpleType" [("name", name)]
    [.element "restriction" [("base", "xsd:string")] [leafMarkup "enumeration" [("value", "fragile")]]]

/-- The prefix `p` stands for boxes, except inside the schema for boxes, where it stands for crates. -/
def cratesMarkup : Markup :=
  .element "definitions" [("xmlns:p", "urn:boxes"), ("xmlns:q", "urn:boxes")]
    [.plain "types"
      [.element "schema" [("xmlns:p", "urn:crates"), ("targetNamespace", "urn:boxes")]
          [boxMarkup "length", tagMarkup "Note"],
        .element "schema" [("targetNamespace", "urn:crates")] [boxMarkup "weight", tagMarkup "Tag"]],
      .element "message" [("name", "Shipment")]
        [leafMarkup "part" [("name", "tag"), ("type", "p:Tag")],
          leafMarkup "part" [("name", "goods"), ("type", "p:Box")],
          leafMarkup "part" [("name", "note"), ("type", "q:Note")]]]

def containerType (owner field : String) : ComplexType where
  name := some "Box"
  content := [{ name := field, occurs := ⟨none, none⟩, typeRef := some "xsd:int", inline := none, owner := some owner }]

def tagType (name : String) : SimpleType where
  name
  restriction := some { base := some "xsd:string", values := ["fragile"] }

/-- What the document declares: as a whole it binds `p` to the crates. -/
def declaredCrates : Declarations where
  namespaces := [("p", "urn:crates"), ("q", "urn:boxes")]
  schemas :=
    { namespaces := [("p", "urn:crates"), ("q", "urn:boxes")]
      schemas := [
        ("urn:boxes",
          { targetNamespace := some "urn:boxes"
            namespaces := [("p", "urn:crates"), ("q", "urn:boxes")]
            complexTypes := [("Box", containerType "urn:boxes" "length")]
            simpleTypes := [("Note", tagType "Note")] }),
        ("urn:crates",
          { targetNamespace := some "urn:crates"
            namespaces := [("p", "urn:boxes"), ("q", "urn:boxes")]
            complexTypes := [("Box", containerType "urn:crates" "weight")]
            simpleTypes := [("Tag", tagType "Tag")] })] }
  messages := [("Shipment",
    { name := "Shipment"
      parts := [⟨"tag", none, some "p:Tag"⟩, ⟨"goods", none, some "p:Box"⟩, ⟨"note", none, some "q:Note"⟩]
      documentation := none })]

def shipment : Message where
  name := "Shipment"
  body := .parts [("tag", { typeRef := "p:Tag", space := some "urn:crates" }),
    ("goods", { typeRef := "p:Box", space := some "urn:crates" }),
    ("note", { typeRef := "q:Note", space := some "urn:boxes" })]

def crateDefinitions : Definitions := declaredCrates.resolve.1

def cratesWsdl : Wsdl := { definitions := crateDefinitions, source := cratesMarkup.render, location := none }

theorem declarations_crates : Declarations.parse cratesMarkup.render false = .ok declaredCrates := by
  have hw : cratesMarkup.IsWritable := by decide +kernel
  rw [Declarations.parse, cratesMarkup, Document.parse_render hw]
  decide +kernel

theorem parse_crates : Wsdl.parse cratesMarkup.render {} = .ok cratesWsdl := by
  rw [Wsdl.parse, declarations_crates]
  rfl

/-- Strict resolution meets the type of the tag first. -/
theorem parse_strict_crates :
    Wsdl.parse cratesMarkup.render { strictReferences := true } = .error (.dangling ⟨.type, "p:Tag"⟩) := by
  rw [Wsdl.parse, declarations_crates]
  rfl

theorem isLoaded_crates : cratesWsdl.IsLoaded := .parse _ _ parse_crates

theorem describeNamed_containerType (reg : SchemaRegistry) (id : TypeId) (owner field : String) :
    reg.describeNamed id (.complex (containerType owner field)) = .fields [(field, .leaf "xsd:int")] := by
  have hint : reg.describeRef [id] (some owner) "xsd:int" = .leaf "xsd:int" :=
    SchemaRegistry.describeRef_isPrimitive (by decide)
  rw [SchemaRegistry.describeNamed, containerType, SchemaRegistry.describeContent_eq_map]
  simp [SchemaRegistry.describeDecl, hint, ElementDecl.key, Occurs.isRepeated, OrderedMap.ofList, OrderedMap.extend,
    OrderedMap.insert]

/-- The goods are recorded as crates and described as boxes. -/
theorem describes_goods_by_boxes :
    (crateDefinitions.describeMessage shipment).at? ["goods"] = some (.fields [("length", .leaf "xsd:int")]) := by
  have hfound : crateDefinitions.schemas.lookupType? (some "urn:crates") "p:Box" =
      some (.complex (containerType "urn:boxes" "length"), "urn:boxes") := rfl
  rw [crateDefinitions.at?_describeMessage rfl rfl]
  show some (crateDefinitions.schemas.describeType (some "urn:crates") "p:Box") = _
  rw [SchemaRegistry.describeType_of_lookupType? hfound, describeNamed_containerType]

/-- The note has its type from the boxes, for there its prefix is bound to them. -/
theorem finds_types_of_parts_crates :
    cratesWsdl.IsLoaded ∧ (crateDefinitions.describeMessage shipment).at? ["note"] = some (.leaf "xsd:string|fragile") := by
  obtain ⟨d, -, hdefs, hparts⟩ := isLoaded_crates.finds_types_of_parts
  obtain ⟨-, -, decl, -, -, hname, hpart, hkept, -⟩ := hparts ("Shipment", shipment) List.mem_cons_self _ rfl
    "note" _ rfl "urn:boxes" rfl (by decide)
  have hschemas : crateDefinitions.schemas = d.schemas := congrArg Definitions.schemas hdefs
  have hresolved : crateDefinitions = d.resolve.1 := hdefs
  have href : decl.reference = "q:Note" := congrArg Part.typeRef hpart
  rw [← hschemas] at hkept
  have hfrom : d.HasTypeFrom shipment decl "urn:boxes" := hkept fun uri huri => (Option.some.inj huri).symm
  have hfound := hfrom.found (.simple (tagType "Note"))
  rw [← hschemas, ← hresolved, href, hname] at hfound
  exact ⟨isLoaded_crates, (hfound rfl).1⟩

/-- A loaded description in which the types that are registered for the namespaces of parts are not the ones
that these are described with: one part has the type of this name of another namespace, and the type of
another is said to be missing by strict resolution. -/
theorem not_finds_types_in_recorded_namespace_crates :
    cratesWsdl.IsLoaded ∧
    (¬ ∀ entry ∈ cratesWsdl.definitions.messages, ∀ parts : OrderedMap String Part, entry.2.body = .parts parts →
      ∀ name part, parts.get? name = some part → ∀ ns, part.space = some ns →
        isPrimitive (localPart part.typeRef) = false →
        ∀ type, cratesWsdl.definitions.schemas.typeIn? ns (localPart part.typeRef) = some type →
          (cratesWsdl.definitions.describeMessage entry.2).at? [name] =
            some (cratesWsdl.definitions.schemas.describeNamed (ns, localPart part.typeRef) type)) ∧
    (crateDefinitions.schemas.typeIn? "urn:crates" "Tag").isSome = true ∧
    Wsdl.parse cratesMarkup.render { strictReferences := true } = .error (.dangling ⟨.type, "p:Tag"⟩) := by
  refine ⟨isLoaded_crates, fun h => ?_, rfl, parse_strict_crates⟩
  have hgoods := h ("Shipment", shipment) List.mem_cons_self _ rfl "goods" _ rfl "urn:crates" rfl (by decide)
    (.complex (containerType "urn:crates" "weight")) rfl
  rw [describeNamed_containerType] at hgoods
  have hsame := describes_goods_by_boxes.symm.trans hgoods
  simp at hsame

end Soap
