import Soap.Proofs.Definitions.Ownership

/-!
# What inclusions add and what they replace

A document covers another one if it has something by every name that this one declares
(`SchemaDocument.IsCoveredBy`). For a namespace that the description has schemas of its own for,
registering only ever adds, so whatever was embedded or included for it can be found there in the end. For any
other namespace there is in the end just the document that was registered for it last
(`Declarations.followInclusions_covers`). A schema for such a namespace that is split into several files
therefore loses what its first file declares (`Declarations.nut_is_lost`).
-/

namespace Soap

/-! ## Covering -/

namespace SchemaDocument

/-- For every top-level name of `doc` there is something of the same kind in `other`. -/
structure IsCoveredBy (doc other : SchemaDocument) : Prop where
  elements : doc.elements.keys ⊆ other.elements.keys
  complexTypes : doc.complexTypes.keys ⊆ other.complexTypes.keys
  simpleTypes : doc.simpleTypes.keys ⊆ other.simpleTypes.keys

variable {doc other third : SchemaDocument}

theorem IsCoveredBy.refl (doc : SchemaDocument) : doc.IsCoveredBy doc where
  elements := List.Subset.refl _
  complexTypes := List.Subset.refl _
  simpleTypes := List.Subset.refl _

theorem IsCoveredBy.trans (h : doc.IsCoveredBy other) (h' : other.IsCoveredBy third) : doc.IsCoveredBy third where
  elements := List.Subset.trans h.elements h'.elements
  complexTypes := List.Subset.trans h.complexTypes h'.complexTypes
  simpleTypes := List.Subset.trans h.simpleTypes h'.simpleTypes

theorem isCoveredBy_extend (doc other : SchemaDocument) : doc.IsCoveredBy (doc.extend other) where
  elements _ h := OrderedMap.mem_keys_extend.mpr (.inl h)
  complexTypes _ h := OrderedMap.mem_keys_extend.mpr (.inl h)
  simpleTypes _ h := OrderedMap.mem_keys_extend.mpr (.inl h)

theorem isCoveredBy_extend_right (doc other : SchemaDocument) : other.IsCoveredBy (doc.extend other) where
  elements _ h := OrderedMap.mem_keys_extend.mpr (.inr h)
  complexTypes _ h := OrderedMap.mem_keys_extend.mpr (.inr h)
  simpleTypes _ h := OrderedMap.mem_keys_extend.mpr (.inr h)

/-- Moving into a namespace renames nothing. -/
theorem isCoveredBy_adopt (doc : SchemaDocument) (ns : String) : doc.IsCoveredBy (doc.adopt ns) where
  elements _ h := by rwa [← OrderedMap.keys_mapValues (ElementDecl.ownedBy ns)] at h
  complexTypes name h := by
    show name ∈ (doc.complexTypes.mapValues fun ct => { ct with content := allOwnedBy ns ct.content }).keys
    rwa [OrderedMap.keys_mapValues]
  simpleTypes _ h := h

end SchemaDocument

namespace SchemaRegistry

/-- What is registered for `ns` covers `doc`. -/
def Covers (reg : SchemaRegistry) (ns : String) (doc : SchemaDocument) : Prop :=
  ∃ registered, reg.get? ns = some registered ∧ doc.IsCoveredBy registered

variable {reg : SchemaRegistry} {ns : String} {doc other : SchemaDocument} {owned : List String}

theorem Covers.of_isCoveredBy (h : reg.Covers ns other) (hdoc : doc.IsCoveredBy other) : reg.Covers ns doc := by
  obtain ⟨registered, hget, hother⟩ := h
  exact ⟨registered, hget, hdoc.trans hother⟩

/-- A document that is merged can be found. -/
theorem covers_merge (reg : SchemaRegistry) (ns : String) (doc : SchemaDocument) : (reg.merge ns doc).Covers ns doc := by
  refine ⟨_, (get?_merge reg ns ns doc).trans (if_pos rfl), ?_⟩
  cases reg.get? ns with
  | none => exact .refl doc
  | some existing => exact existing.isCoveredBy_extend_right doc

/-- And it takes nothing away. -/
theorem Covers.merge (h : reg.Covers ns doc) (k : String) (other : SchemaDocument) :
    (reg.merge k other).Covers ns doc := by
  obtain ⟨registered, hget, hdoc⟩ := h
  by_cases hk : k = ns
  · subst hk
    refine ⟨_, (get?_merge reg k k other).trans (if_pos rfl), ?_⟩
    rw [hget]
    exact hdoc.trans (registered.isCoveredBy_extend other)
  · exact ⟨registered, by rw [get?_merge, if_neg hk, hget], hdoc⟩

theorem covers_contribute (reg : SchemaRegistry) (owned : List String) (ns : String) (doc : SchemaDocument) :
    (reg.contribute owned (ns, doc)).Covers ns doc := by
  unfold contribute
  split
  · exact reg.covers_merge ns doc
  · exact ⟨doc, (get?_insert reg ns ns doc).trans (if_pos rfl), .refl doc⟩

/-- What stands in an owned namespace stays, and so does what nothing is contributed to. -/
theorem Covers.contribute (h : reg.Covers ns doc) {c : String × SchemaDocument} (hc : ns ∈ owned ∨ c.1 ≠ ns) :
    (reg.contribute owned c).Covers ns doc := by
  by_cases hk : c.1 = ns
  · have hmem : c.1 ∈ owned := hk ▸ hc.resolve_right (absurd hk)
    have hmerge : reg.contribute owned c = reg.merge c.1 c.2 := if_pos hmem
    rw [hmerge]
    exact h.merge c.1 c.2
  · obtain ⟨registered, hget, hdoc⟩ := h
    exact ⟨registered, by rw [get?_contribute, if_neg hk, hget], hdoc⟩

theorem Covers.foldl_contribute (h : reg.Covers ns doc) {cs : OrderedMap String SchemaDocument}
    (hcs : ns ∈ owned ∨ ns ∉ cs.keys) : (cs.foldl (·.contribute owned) reg).Covers ns doc := by
  refine SchemaRegistry.foldl_contribute (P := fun reg => reg.Covers ns doc) h cs ?_
  intro reg c h hc
  apply h.contribute
  exact hcs.imp_right fun hnew hk => hnew (List.mem_map.mpr ⟨c, hc, hk⟩)

/-- A contribution can be found after further ones, unless these replace it. -/
theorem covers_foldl_contribute (reg : SchemaRegistry) (before after : OrderedMap String SchemaDocument)
    (hafter : ns ∈ owned ∨ ns ∉ after.keys) :
    ((before ++ (ns, doc) :: after).foldl (·.contribute owned) reg).Covers ns doc := by
  rw [List.foldl_append, List.foldl_cons]
  exact (covers_contribute _ owned ns doc).foldl_contribute hafter

theorem Covers.registerAll (h : reg.Covers ns doc) (nodes : List Node) : (nodes.foldl register reg).Covers ns doc := by
  induction nodes generalizing reg with
  | nil => exact h
  | cons n rest ih => exact ih (h.merge _ _)

/-- Every schema that is registered can be found, however many there are for its namespace. -/
theorem covers_registerAll {nodes : List Node} {n : Node} (hn : n ∈ nodes) (reg : SchemaRegistry) :
    (nodes.foldl register reg).Covers (SchemaDocument.ofNode n).key (.ofNode n) := by
  induction nodes generalizing reg with
  | nil => cases hn
  | cons first rest ih =>
    rcases List.mem_cons.mp hn with rfl | hn
    · exact (reg.covers_merge _ _).registerAll rest
    · exact ih hn _

end SchemaRegistry

/-! ## Schemas and what they include -/

/-- A schema for the namespace `ns`, in the document at a location: one that is embedded in the description
itself, which is at `base?`, or one that was registered because of an inclusion. -/
inductive IsSchemaAt (document : Document) (base? : Option String) (history : List Followed) (ns : String) :
    Option String → SchemaDocument → Prop where
  | embedded {n : Node} (hn : n ∈ document.schemas) (hkey : (SchemaDocument.ofNode n).key = ns) :
    IsSchemaAt document base? history ns base? (.ofNode n)
  | included {f : Followed} {doc : SchemaDocument} (hf : f ∈ history) (hdoc : (ns, doc) ∈ f.contributions) :
    IsSchemaAt document base? history ns (some f.wanted.location) doc

/-- The schema `whole`, for `ns`, has part of its namespace in another file, the bare schema `part`, and the
inclusion that says so was followed. -/
structure IsSplit (document : Document) (base? : Option String) (history : List Followed) (ns : String)
    (f : Followed) (whole part : SchemaDocument) : Prop where
  followed : f ∈ history
  isSchemaAt : IsSchemaAt document base? history ns f.wanted.base whole
  mem_inclusions : f.wanted.inclusion ∈ whole.inclusions
  space : f.wanted.inclusion.space.getD "" = ns
  isSchema : f.document.isSchema = true
  mem_schemas : part ∈ f.document.schemas.schemas.values
  target : part.targetNamespace = none ∨ part.targetNamespace = some ns

namespace Declarations

variable {document : Document} {d d' : Declarations} {base? : Option String} {reg : SchemaRegistry}

/-- A bare schema is just one schema. -/
theorem schemas_of_isSchema (h : ofDocument document = .ok d) (hschema : d.isSchema = true) :
    ∃ doc : SchemaDocument, d.schemas.schemas = [(doc.key, doc)] := by
  simp only [ofDocument] at h
  split at h
  · obtain rfl := Except.ok.inj h
    exact ⟨_, rfl⟩
  · next hroot =>
    obtain ⟨-, rfl⟩ := addSections_eq_ok.mp h
    exact absurd (eq_of_beq hschema) hroot

end Declarations

section

variable {document : Document} {d : Declarations} {base? : Option String} {reg : SchemaRegistry}
  {fetch : String → Except FetchError String} {strict : Bool} {history : List Followed} {ns : String}
  {location? : Option String} {doc whole part : SchemaDocument} {f : Followed}

/-- A part is contributed to the namespace of the whole, and to no other. -/
theorem IsSplit.contributions_eq (h : IsSplit document base? history ns f whole part)
    (hcompletes : d.Completes fetch strict base? history reg) :
    ∃ doc, f.contributions = [(ns, doc)] ∧ part.IsCoveredBy doc := by
  obtain ⟨text, -, hparse⟩ := hcompletes.exists_text h.followed
  obtain ⟨document', -, hdocument⟩ := bind_eq_ok hparse
  obtain ⟨doc, hdoc⟩ := Declarations.schemas_of_isSchema hdocument h.isSchema
  have hpart := h.mem_schemas
  rw [hdoc] at hpart
  obtain rfl : part = doc := List.mem_singleton.mp hpart
  rw [Followed.contributions, Declarations.contributions, if_pos h.isSchema, hdoc]
  have hspace := h.space
  have htarget := h.target
  cases hwanted : f.wanted.inclusion.space with
  | none =>
    rw [hwanted] at hspace
    obtain rfl : "" = ns := hspace
    refine ⟨part, ?_, .refl part⟩
    rcases htarget with htarget | htarget <;> simp [OrderedMap.values, SchemaDocument.key, htarget]
  | some space =>
    rw [hwanted] at hspace
    obtain rfl : space = ns := hspace
    rcases htarget with htarget | htarget
    · exact ⟨part.adopt space, by simp [OrderedMap.values, htarget], part.isCoveredBy_adopt space⟩
    · exact ⟨part, by simp [OrderedMap.values, htarget], .refl part⟩

/-- A schema in one of the documents that were followed has been registered. -/
theorem mem_registrations {f : Followed} (hf : f ∈ history) {c : String × SchemaDocument} (hc : c ∈ f.contributions) :
    c ∈ registrations history := List.mem_flatMap.mpr ⟨f, hf, hc⟩

namespace Declarations

variable {source : Source}

/-- What a description wants included, one of its embedded schemas asks for. -/
theorem exists_schema_of_mem_inclusions (hd : ofDocument document = .ok d) {inclusion : Inclusion}
    (hinclusion : inclusion ∈ d.inclusions) :
    ∃ n ∈ document.schemas, inclusion ∈ (SchemaDocument.ofNode n).inclusions := by
  have hall : ∀ e ∈ d.schemas.schemas, ∀ inclusion ∈ e.2.inclusions,
      ∃ n ∈ document.schemas, inclusion ∈ (SchemaDocument.ofNode n).inclusions := by
    rw [(schemas_of_ofDocument hd).2]
    apply SchemaRegistry.forall_mem_registerAll
    · intro e he
      cases he
    · intro n hn inclusion hinclusion
      exact ⟨n, hn, hinclusion⟩
    · intro n hn existing hexisting inclusion hinclusion
      rcases List.mem_append.mp hinclusion with hinclusion | hinclusion
      · exact hexisting inclusion hinclusion
      · exact ⟨n, hn, hinclusion⟩
  obtain ⟨doc, hdoc, hinclusion⟩ := List.mem_flatMap.mp hinclusion
  obtain ⟨e, he, rfl⟩ := List.mem_map.mp hdoc
  exact hall e he inclusion hinclusion

/-- Whatever inclusion was followed, some schema asks for it. -/
theorem Completes.exists_isSchemaAt (h : d.Completes fetch strict base? history reg) (hd : ofDocument document = .ok d)
    (hf : f ∈ history) : ∃ ns whole, IsSchemaAt document base? history ns f.wanted.base whole ∧
      f.wanted.inclusion ∈ whole.inclusions := by
  obtain ⟨t, hcompletes, -⟩ := h
  rcases hcompletes.exists_wanting hf with hwanted | ⟨g, hg, hwanted⟩
  · obtain ⟨inclusion, hinclusion, hf'⟩ := List.mem_map.mp hwanted
    obtain ⟨n, hn, hinclusion⟩ := exists_schema_of_mem_inclusions hd hinclusion
    rw [← hf']
    exact ⟨_, _, .embedded hn rfl, hinclusion⟩
  · rw [← Traversal.wanted_contributions g.document g.wanted.inclusion] at hwanted
    obtain ⟨⟨ns, doc⟩, hdoc, hwanted⟩ := List.mem_flatMap.mp hwanted
    obtain ⟨inclusion, hinclusion, hf'⟩ := List.mem_map.mp hwanted
    rw [← hf']
    exact ⟨ns, doc, .included hg hdoc, hinclusion⟩

/-- What was registered for a namespace of the description can be found there. -/
theorem Completes.covers (h : d.Completes fetch strict base? history reg) (hns : ns ∈ d.schemas.schemas.keys)
    (hdoc : (ns, doc) ∈ registrations history) : reg.Covers ns doc := by
  obtain ⟨before, after, hsplit⟩ := List.append_of_mem hdoc
  rw [h.registry_eq, hsplit]
  exact SchemaRegistry.covers_foldl_contribute _ before after (.inl hns)

/-- And so can each of its embedded schemas, which has its namespace among them. -/
theorem Completes.covers_embedded (h : d.Completes fetch strict base? history reg) (hd : ofDocument document = .ok d)
    {n : Node} (hn : n ∈ document.schemas) :
    (SchemaDocument.ofNode n).key ∈ d.schemas.schemas.keys ∧
      reg.Covers (SchemaDocument.ofNode n).key (.ofNode n) := by
  have hcovers := SchemaRegistry.covers_registerAll hn { namespaces := document.namespaces }
  rw [← (schemas_of_ofDocument hd).2] at hcovers
  obtain ⟨registered, hget, -⟩ := id hcovers
  have hkey := OrderedMap.get?_isSome_iff.mp (Option.isSome_of_eq_some hget)
  refine ⟨hkey, ?_⟩
  rw [h.registry_eq]
  exact hcovers.foldl_contribute (.inl hkey)

/-- Any other namespace has the last that was registered for it. -/
theorem Completes.exists_last (h : d.Completes fetch strict base? history reg) (hns : ns ∉ d.schemas.schemas.keys)
    (hdoc : (ns, doc) ∈ registrations history) :
    ∃ before last after, registrations history = before ++ (ns, last) :: after ∧ ns ∉ OrderedMap.keys after ∧
      reg.get? ns = some last := by
  have hlisted : ns ∈ (registrations history).keys := List.mem_map.mpr ⟨_, hdoc, rfl⟩
  obtain ⟨before, last, after, hsplit, hafter⟩ := OrderedMap.exists_last hlisted
  refine ⟨before, last, after, hsplit, hafter, ?_⟩
  rw [h.registry_eq, SchemaRegistry.get?_foldl_contribute_of_not_mem _ _ hns, hsplit,
    OrderedMap.get?_reverse_of_last before last hafter]
  rfl

/-- What nothing later is registered for can be found in any case. -/
theorem Completes.covers_of_latest (h : d.Completes fetch strict base? history reg) {earlier later : List Followed}
    (hhistory : history = earlier ++ f :: later) (hdoc : f.contributions = [(ns, doc)])
    (hlater : ns ∉ (registrations later).keys) : reg.Covers ns doc := by
  have hsplit : registrations history = registrations earlier ++ (ns, doc) :: registrations later := by
    rw [hhistory, registrations, List.flatMap_append, List.flatMap_cons, hdoc]
    rfl
  rw [h.registry_eq, hsplit]
  exact SchemaRegistry.covers_foldl_contribute _ _ _ (.inr hlater)

/-- Whatever is included, a schema of the description or one that was included asks for it. A namespace that
the description has schemas for keeps all that is declared for it, by the embedded schemas, by what was
included for it, and by the parts of either. Any other namespace holds what was registered for it last, and
so the last part of a schema that is split. -/
theorem followInclusions_covers (hd : ofDocument document = .ok d)
    (hok : (d.followInclusions base? source strict).outcome = .ok reg) :
    ∃ history, d.Completes source.fetch strict base? history reg ∧
      (∀ f ∈ history, ∃ ns whole, IsSchemaAt document base? history ns f.wanted.base whole ∧
        f.wanted.inclusion ∈ whole.inclusions) ∧ ∀ ns,
      (ns ∈ d.schemas.schemas.keys →
        (∀ location? doc, IsSchemaAt document base? history ns location? doc → reg.Covers ns doc) ∧
        ∀ f whole part, IsSplit document base? history ns f whole part → reg.Covers ns part) ∧
      (ns ∉ d.schemas.schemas.keys →
        (∀ location? doc, IsSchemaAt document base? history ns location? doc → ∃ before last after,
          registrations history = before ++ (ns, last) :: after ∧ ns ∉ OrderedMap.keys after ∧
          reg.get? ns = some last) ∧
        ∀ f whole part, IsSplit document base? history ns f whole part →
          ∀ earlier later, history = earlier ++ f :: later → ns ∉ (registrations later).keys →
          reg.Covers ns part) := by
  obtain ⟨history, h⟩ := followInclusions_eq_ok_iff.mp hok
  refine ⟨history, h, fun f hf => h.exists_isSchemaAt hd hf, fun ns => ⟨fun hns => ⟨?_, ?_⟩, fun hns => ⟨?_, ?_⟩⟩⟩
  · intro location? doc hdoc
    cases hdoc with
    | embedded hn hkey =>
      subst hkey
      exact (h.covers_embedded hd hn).2
    | included hf hdoc => exact h.covers hns (mem_registrations hf hdoc)
  · intro f whole part hpart
    obtain ⟨doc, hdoc, hcovered⟩ := hpart.contributions_eq h
    have hmem : (ns, doc) ∈ f.contributions := by
      rw [hdoc]
      exact List.mem_singleton_self _
    exact (h.covers hns (mem_registrations hpart.followed hmem)).of_isCoveredBy hcovered
  · intro location? doc hdoc
    cases hdoc with
    | embedded hn hkey =>
      -- a namespace of an embedded schema is one of the description's
      subst hkey
      exact absurd (h.covers_embedded hd hn).1 hns
    | included hf hdoc => exact h.exists_last hns (mem_registrations hf hdoc)
  · intro f whole part hpart earlier later hhistory hlater
    obtain ⟨doc, hdoc, hcovered⟩ := hpart.contributions_eq h
    exact (h.covers_of_latest hhistory hdoc hlater).of_isCoveredBy hcovered

/-! ### A letter in three files -/

def paperSchema : SchemaDocument :=
  letterSchema [("paper", letterElement "paper" (some "urn:letters"))] ["stamp.xsd", "letter.wsdl"]

def stampSchema : SchemaDocument where
  elements := [("stamp", letterElement "stamp" none)]
  inclusions := [{ space := none, location := "paper.xsd" }]

/-- Paper was included first, for the namespace of the letter, and the stamp is part of it. -/
theorem isSplit_paper (document : Document) :
    IsSplit document (some "letter.wsdl") letterHistory "urn:letters" stampFollowed paperSchema stampSchema where
  followed := by simp [letterHistory, stampFollowed]
  isSchemaAt := by
    show IsSchemaAt document _ _ _ (some "paper.xsd") _
    rw [← location_paperFollowed]
    exact .included List.mem_cons_self List.mem_cons_self
  mem_inclusions := List.mem_cons_self
  space := rfl
  isSchema := rfl
  mem_schemas := List.mem_cons_self
  target := .inl rfl

/-- The letter's own schema, paper and the stamp can all be found for the namespace of the letter. -/
theorem followInclusions_covers_letter :
    ∃ document, Document.parse letterMarkup.render false = .ok document ∧ ofDocument document = .ok letter ∧
      (letter.followInclusions (some "letter.wsdl") stationery false).outcome = .ok lettersRegistry ∧
      IsSplit document (some "letter.wsdl") letterHistory "urn:letters" stampFollowed paperSchema stampSchema ∧
      lettersRegistry.Covers "urn:letters" paperSchema ∧ lettersRegistry.Covers "urn:letters" stampSchema := by
  obtain ⟨document, hdocument, hletter⟩ := bind_eq_ok parse_letter
  have hok := followInclusions_eq_ok_iff.mpr ⟨_, completes_letter⟩
  obtain ⟨history, hcompletes, -, h⟩ := followInclusions_covers hletter hok
  obtain rfl := completes_letter.unique hcompletes
  obtain ⟨hschemas, hparts⟩ := (h "urn:letters").1 (List.mem_singleton_self _)
  have hsplit := isSplit_paper document
  exact ⟨document, hdocument, hletter, hok, hsplit, hschemas _ _ hsplit.isSchemaAt, hparts _ _ _ hsplit⟩

/-! ### A schema in two files -/

/-- A shop imports what it knows of fasteners. -/
def shopMarkup : Xml.Markup :=
  .element "definitions" [("xmlns:p", "urn:parts")]
    [.element "types" [] [.element "schema" [("targetNamespace", "urn:shop")]
        [leafMarkup "import" [("namespace", "urn:parts"), ("schemaLocation", "parts.xsd")]]],
      .element "message" [("name", "Nut")] [leafMarkup "part" [("name", "body"), ("element", "p:nut")]],
      .element "message" [("name", "Screw")] [leafMarkup "part" [("name", "body"), ("element", "p:screw")]]]

def partsMarkup : Xml.Markup :=
  .element "schema" [("targetNamespace", "urn:parts")]
    [inclusionMarkup "screws.xsd", leafMarkup "element" [("name", "nut"), ("type", "xsd:int")]]

def screwsMarkup : Xml.Markup :=
  .element "schema" [("targetNamespace", "urn:parts")]
    [leafMarkup "element" [("name", "screw"), ("type", "xsd:string")]]

def partsInclusion (location : String) : Inclusion := { space := some "urn:parts", location }

def partElement (name typeRef : String) : ElementDecl := ⟨name, ⟨none, none⟩, some typeRef, none, some "urn:parts"⟩

def partsSchema : SchemaDocument where
  targetNamespace := some "urn:parts"
  elements := [("nut", partElement "nut" "xsd:int")]
  inclusions := [partsInclusion "screws.xsd"]

def screwsSchema : SchemaDocument where
  targetNamespace := some "urn:parts"
  elements := [("screw", partElement "screw" "xsd:string")]

def bareParts (doc : SchemaDocument) : Declarations where
  targetNamespace := some "urn:parts"
  schemas := { schemas := [("urn:parts", doc)] }
  isSchema := true

def shopSchema : SchemaDocument where
  targetNamespace := some "urn:shop"
  namespaces := [("p", "urn:parts")]
  inclusions := [partsInclusion "parts.xsd"]

def shop : Declarations where
  namespaces := [("p", "urn:parts")]
  schemas := { schemas := [("urn:shop", shopSchema)], namespaces := [("p", "urn:parts")] }
  messages := [("Nut", ⟨"Nut", [⟨"body", some "p:nut", none⟩], none⟩),
    ("Screw", ⟨"Screw", [⟨"body", some "p:screw", none⟩], none⟩)]

theorem parse_shop : Declarations.parse shopMarkup.render false = .ok shop := by
  have hw : shopMarkup.IsWritable := by decide +kernel
  rw [Declarations.parse, shopMarkup, Document.parse_render hw]
  decide +kernel

theorem parse_parts : Declarations.parse partsMarkup.render false = .ok (bareParts partsSchema) := by
  have hw : partsMarkup.IsWritable := by decide +kernel
  rw [Declarations.parse, partsMarkup, Document.parse_render hw]
  decide +kernel

theorem parse_screws : Declarations.parse screwsMarkup.render false = .ok (bareParts screwsSchema) := by
  have hw : screwsMarkup.IsWritable := by decide +kernel
  rw [Declarations.parse, screwsMarkup, Document.parse_render hw]
  decide +kernel

def warehouse : Source := .ofDocuments [("parts.xsd", partsMarkup.render), ("screws.xsd", screwsMarkup.render)]

def partsFollowed : Followed :=
  ⟨{ base := some "shop.wsdl", inclusion := partsInclusion "parts.xsd" }, bareParts partsSchema⟩

def screwsFollowed : Followed :=
  ⟨{ base := some "parts.xsd", inclusion := partsInclusion "screws.xsd" }, bareParts screwsSchema⟩

/-- Of the parts there are only screws. -/
def shopRegistry : SchemaRegistry where
  schemas := [("urn:shop", shopSchema), ("urn:parts", screwsSchema)]
  namespaces := [("p", "urn:parts")]

theorem location_partsFollowed : partsFollowed.wanted.location = "parts.xsd" := by decide

theorem location_screwsFollowed : screwsFollowed.wanted.location = "screws.xsd" := by decide

theorem completes_shop :
    shop.Completes warehouse.fetch false (some "shop.wsdl") [partsFollowed, screwsFollowed] shopRegistry := by
  have hparts : warehouse.fetch "parts.xsd" = .ok partsMarkup.render := rfl
  have hscrews : warehouse.fetch "screws.xsd" = .ok screwsMarkup.render := rfl
  refine ⟨⟨["parts.xsd", "screws.xsd"], ["screws.xsd", "parts.xsd", "shop.wsdl"], shopRegistry⟩, ?_, rfl⟩
  refine .follow location_partsFollowed (by decide) (Traversal.visit_of_parse hparts parse_parts _ _) ?_
  exact .follow location_screwsFollowed (by decide) (Traversal.visit_of_parse hscrews parse_screws _ _) .nil

theorem isSplit_parts (document : Document) :
    IsSplit document (some "shop.wsdl") [partsFollowed, screwsFollowed] "urn:parts" screwsFollowed partsSchema
      screwsSchema where
  followed := List.mem_cons_of_mem _ (List.mem_singleton_self _)
  isSchemaAt := by
    show IsSchemaAt document _ _ _ (some "parts.xsd") _
    rw [← location_partsFollowed]
    exact .included List.mem_cons_self List.mem_cons_self
  mem_inclusions := List.mem_cons_self
  space := rfl
  isSchema := rfl
  mem_schemas := List.mem_cons_self
  target := .inr rfl

/-- The parts are one namespace in two files, and the first of these, which names the second, is what is
lost. -/
theorem nut_is_lost :
    ∃ document, Document.parse shopMarkup.render false = .ok document ∧ ofDocument document = .ok shop ∧
      (shop.followInclusions (some "shop.wsdl") warehouse false).outcome = .ok shopRegistry ∧
      shop.Completes warehouse.fetch false (some "shop.wsdl") [partsFollowed, screwsFollowed] shopRegistry ∧
      IsSplit document (some "shop.wsdl") [partsFollowed, screwsFollowed] "urn:parts" screwsFollowed partsSchema
        screwsSchema ∧
      partsSchema.elements.contains "nut" = true ∧ shopRegistry.element? "urn:parts" "nut" = none ∧
      ¬ shopRegistry.Covers "urn:parts" partsSchema := by
  obtain ⟨document, hdocument, hshop⟩ := bind_eq_ok parse_shop
  refine ⟨document, hdocument, hshop, followInclusions_eq_ok_iff.mpr ⟨_, completes_shop⟩, completes_shop,
    isSplit_parts document, by decide, by decide, ?_⟩
  rintro ⟨registered, hget, hcovered⟩
  obtain rfl : screwsSchema = registered := Option.some.inj hget
  have hnut := hcovered.elements (List.mem_singleton_self "nut")
  exact absurd hnut (by decide)

end Declarations

end

end Soap
