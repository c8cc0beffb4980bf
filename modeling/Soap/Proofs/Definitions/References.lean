import Soap.Proofs.Definitions.Strictness
import Soap.Proofs.Schema.Reachability

/-!
# What strict resolution guarantees

A document is resolved strictly just when none of the references that are asked for dangles
(`Declarations.strict_iff_nothingDangles`): the elements of messages and the types of parts with all
that they lead to, the messages of operations and the port types of bindings.

The type of a part is asked for only where the prefix is bound to a namespace that has a schema. Any
other passes, though it is not a built-in type and no type of that name is found
(`Declarations.strict_passes_unknown_types`).
-/

namespace Soap

/-- What a part without an element of its own to carry refers to. -/
def PartDecl.reference (part : PartDecl) : String := (part.typeRef <|> part.element).getD ""

/-- A type is found from the namespace `ns`, and everything that its content leads to resolves. -/
def SchemaRegistry.TypeResolves (reg : SchemaRegistry) (ns reference : String) : Prop :=
  ∃ found space, reg.lookupType? (some ns) reference = some (found, space) ∧
    ∀ ct, found = .complex ct → ∀ decl ∈ ct.content, reg.AllResolve decl

namespace Declarations

variable (d : Declarations)

/-- An element is found by the prefix bindings of the document, and everything that it leads to
resolves. -/
def ElementResolves (reference : String) : Prop :=
  ∃ ns decl, d.namespaceOf? (.parse reference) = some ns ∧
    d.schemas.element? ns (localPart reference) = some decl ∧ d.schemas.AllResolve decl

/-- The type of a part resolves, if its prefix is bound to a namespace that has a schema. -/
def PartResolves (part : PartDecl) : Prop :=
  ∀ ns, d.namespaceOf? (.parse part.reference) = some ns → d.schemas.contains ns = true →
    d.schemas.TypeResolves ns part.reference

/-- The first part of a message decides what it refers to: its element, or the types of all parts. -/
def BodyResolves (parts : List PartDecl) : Prop :=
  match parts.head?.bind PartDecl.element with
  | some reference => d.ElementResolves reference
  | none => ∀ part ∈ parts, d.PartResolves part

/-- The message that is taken or given, if there is one, is one of the document. -/
def TransferResolves (transfer : Option TransferDecl) : Prop :=
  ∀ reference, transfer.bind TransferDecl.message = some reference →
    ∃ m ∈ d.messages.values, m.name = localPart reference

/-- Every reference that is asked for leads somewhere. -/
structure NothingDangles : Prop where
  messages : ∀ m ∈ d.messages.values, d.BodyResolves m.parts
  operations : ∀ p ∈ d.portTypes.values, ∀ op ∈ p.operations.values,
    d.TransferResolves op.input ∧ d.TransferResolves op.output
  bindings : ∀ b ∈ d.bindings.values, ∃ p ∈ d.portTypes.values, p.name = localPart b.portType

variable {d}

/-! ## References of messages -/

theorem partTypeResolves_iff {ns reference : String} :
    d.partTypeResolves (some ns) reference = true ↔ d.schemas.TypeResolves ns reference := by
  unfold partTypeResolves SchemaRegistry.TypeResolves
  cases d.schemas.lookupType? (some ns) reference with
  | none => simp
  | some found =>
    obtain ⟨found, space⟩ := found
    cases found with
    | complex ct => simp [SchemaRegistry.missingReference_eq_none_iff]
    | simple st => simp

theorem resolvePart_eq_nil {part : PartDecl} : (d.resolvePart part).2 = [] ↔ d.PartResolves part := by
  show (if ((d.namespaceOf? (.parse part.reference)).filter d.schemas.contains).isSome &&
      !d.partTypeResolves ((d.namespaceOf? (.parse part.reference)).filter d.schemas.contains) part.reference
    then [Dangling.mk .type part.reference] else []) = [] ↔ _
  unfold PartResolves
  cases d.namespaceOf? (.parse part.reference) with
  | none => simp
  | some ns =>
    by_cases hschema : d.schemas.contains ns = true
    · simp [Option.filter_some, hschema, partTypeResolves_iff]
    · simp [Option.filter_some, hschema]

theorem resolveElement_eq_nil {reference : String} :
    (d.resolveElement reference).2 = [] ↔ d.ElementResolves reference := by
  unfold resolveElement ElementResolves
  dsimp only
  rw [← localPart]
  cases d.namespaceOf? (.parse reference) with
  | none => simp
  | some ns =>
    rw [Option.bind_some]
    cases hdecl : d.schemas.element? ns (localPart reference) with
    | none => simp [hdecl]
    | some decl => simp [hdecl, SchemaRegistry.missingReference_eq_none_iff]

theorem resolveBody_eq_nil {parts : List PartDecl} :
    (d.resolveBody parts).2 = [] ↔ d.BodyResolves parts := by
  unfold resolveBody BodyResolves
  cases parts.head?.bind PartDecl.element with
  | some reference => exact resolveElement_eq_nil
  | none => simp [resolvePart_eq_nil]

/-! ## References of operations and bindings -/

variable {messages : OrderedMap String Message} {portTypes : OrderedMap String PortType}

theorem resolveTransfer_eq_nil {transfer : Option TransferDecl} :
    (resolveTransfer messages transfer).2 = [] ↔
      ∀ reference, transfer.bind TransferDecl.message = some reference →
        localPart reference ∈ messages.keys := by
  unfold resolveTransfer
  cases transfer.bind TransferDecl.message with
  | none => simp
  | some reference =>
    simp only [Option.some.injEq, forall_eq', ← OrderedMap.get?_isSome_iff]
    cases messages.get? (localPart reference) <;> simp

theorem resolveBinding_eq_nil {b : BindingDecl} :
    (resolveBinding portTypes b).2 = [] ↔ localPart b.portType ∈ portTypes.keys := by
  unfold resolveBinding
  rw [← OrderedMap.get?_isSome_iff]
  cases portTypes.get? (localPart b.portType) <;> simp

/-! ## All references -/

/-- Filing under names files all of them. -/
theorem mem_keys_foldl_insert {γ : Type} {δ : Type} (name : γ → String) (value : γ → δ) (xs : List γ)
    {k : String} :
    k ∈ OrderedMap.keys (xs.foldl (fun acc x => OrderedMap.insert acc (name x) (value x)) []) ↔
      ∃ x ∈ xs, name x = k := by
  have hlist : xs.foldl (fun acc x => OrderedMap.insert acc (name x) (value x)) [] =
      OrderedMap.ofList (xs.map fun x => (name x, value x)) := by
    rw [OrderedMap.ofList, OrderedMap.extend, List.foldl_map]
  rw [hlist, OrderedMap.mem_keys_ofList]
  simp

theorem mem_keys_messageTable {name : String} :
    name ∈ d.messageTable.messages.keys ↔ ∃ m ∈ d.messages.values, m.name = name := by
  rw [messageTable_eq, messages_foldl_file]
  refine (mem_keys_foldl_insert Message.name id _).trans ?_
  simp only [List.mem_map, exists_exists_and_eq_and]
  rfl

theorem met_eq_nil : d.met = [] ↔ d.NothingDangles := by
  have hmessages : (d.messages.values.flatMap fun m => (d.resolveMessage m).2) = [] ↔
      ∀ m ∈ d.messages.values, d.BodyResolves m.parts := by
    rw [List.flatMap_eq_nil_iff]
    exact forall₂_congr fun m _ => resolveBody_eq_nil
  have htransfer : ∀ transfer, (resolveTransfer d.messageTable.messages transfer).2 = [] ↔
      d.TransferResolves transfer := by
    intro transfer
    rw [resolveTransfer_eq_nil]
    exact forall₂_congr fun reference _ => mem_keys_messageTable
  have hoperations : (d.portTypes.values.flatMap fun p =>
      p.operations.values.flatMap fun op => (resolveOperation d.messageTable.messages op).2) = [] ↔
      ∀ p ∈ d.portTypes.values, ∀ op ∈ p.operations.values,
        d.TransferResolves op.input ∧ d.TransferResolves op.output := by
    simp only [List.flatMap_eq_nil_iff, resolveOperation, List.append_eq_nil_iff, htransfer]
  have hbindings : (d.bindings.values.flatMap fun b =>
      (resolveBinding (d.portTypeTable d.messageTable.messages) b).2) = [] ↔
      ∀ b ∈ d.bindings.values, ∃ p ∈ d.portTypes.values, p.name = localPart b.portType := by
    simp only [List.flatMap_eq_nil_iff, resolveBinding_eq_nil, portTypeTable, mem_keys_foldl_insert]
  rw [met, metAfter, List.append_eq_nil_iff, List.append_eq_nil_iff, hmessages, hoperations, hbindings]
  constructor
  · rintro ⟨hm, ho, hb⟩
    exact ⟨hm, ho, hb⟩
  · intro h
    exact ⟨h.messages, h.operations, h.bindings⟩

/-- Strict resolution accepts just the declarations of which no reference that it asks for dangles;
in order whatever the declarations are, and all at once in a document that was read. -/
theorem strict_iff_nothingDangles (d : Declarations) :
    ((∃ r, d.resolveInOrder true = .ok r) ↔ d.NothingDangles) ∧
    (d.IsFiled → ((∃ r, d.definitions true = .ok r) ↔ d.NothingDangles)) := by
  have hinOrder : (∃ r, d.resolveInOrder true = .ok r) ↔ d.NothingDangles := by
    rw [resolveInOrder_eq, ← met_eq_nil]
    simp [settle_strict_eq_ok]
  refine ⟨hinOrder, fun hfiled => ?_⟩
  rw [← hinOrder, hfiled.resolveInOrder_eq]
  cases d.definitions true <;> simp [Except.map]

/-! ### Parcels in parcels -/

def parcelMarkup : Xml.Markup :=
  .element "definitions" [("xmlns:t", "urn:parcels")]
    [.element "types" []
      [.element "schema" [("targetNamespace", "urn:parcels")]
        [leafMarkup "element" [("name", "parcel"), ("type", "t:Parcel")],
          .element "complexType" [("name", "Parcel")]
            [.element "sequence" []
              [leafMarkup "element" [("name", "weight"), ("type", "xsd:int")],
                leafMarkup "element" [("name", "inner"), ("type", "t:Parcel")]]]]],
      .element "message" [("name", "Shipment")] [leafMarkup "part" [("name", "body"), ("element", "t:parcel")]]]

def parcelDecl (name typeRef : String) : ElementDecl where
  name
  occurs := ⟨none, none⟩
  typeRef := some typeRef
  inline := none
  owner := some "urn:parcels"

def parcelType : ComplexType where
  name := some "Parcel"
  content := [parcelDecl "weight" "xsd:int", parcelDecl "inner" "t:Parcel"]

/-- A message that carries a parcel, which has a weight and holds a parcel. -/
def parcels : Declarations where
  namespaces := [("t", "urn:parcels")]
  schemas :=
    { namespaces := [("t", "urn:parcels")]
      schemas := [("urn:parcels",
        { targetNamespace := some "urn:parcels"
          namespaces := [("t", "urn:parcels")]
          complexTypes := [("Parcel", parcelType)]
          elements := [("parcel", parcelDecl "parcel" "t:Parcel")] })] }
  messages := [("Shipment",
    { name := "Shipment", parts := [⟨"body", some "t:parcel", none⟩], documentation := none })]

theorem parse_parcels : Declarations.parse parcelMarkup.render false = .ok parcels := by
  have hw : parcelMarkup.IsWritable := by decide +kernel
  rw [Declarations.parse, parcelMarkup, Document.parse_render hw]
  decide +kernel

/-- A parcel leads to weights and parcels. -/
theorem allResolve_parcel : parcels.schemas.AllResolve (parcelDecl "parcel" "t:Parcel") := by
  have hint : isPrimitive (localPart "xsd:int") = true := by decide
  have hfound : parcels.schemas.lookupType? (some "urn:parcels") "t:Parcel" =
      some (.complex parcelType, "urn:parcels") := rfl
  have hsettled : SchemaRegistry.Settled parcels.schemas [] [] fun d =>
      d = parcelDecl "weight" "xsd:int" ∨ ∃ name, d = parcelDecl name "t:Parcel" := by
    constructor
    case pending => simp
    case resolves =>
      rintro _ (rfl | ⟨name, rfl⟩) ref href
      · obtain rfl := Option.some.inj href
        exact .inl hint
      · obtain rfl := Option.some.inj href
        exact .inr (congrArg Option.isSome hfound)
    case leads =>
      rintro _ (rfl | ⟨name, rfl⟩)
      · rw [SchemaRegistry.contentOf_isPrimitive rfl hint]
        exact .inl fun _ hchild => nomatch hchild
      · rw [SchemaRegistry.contentOf_complex rfl hfound, parcelType]
        exact .inl (List.forall_mem_cons.mpr ⟨.inl rfl, List.forall_mem_singleton.mpr (.inr ⟨_, rfl⟩)⟩)
  exact hsettled.allResolve (.inr ⟨_, rfl⟩)

/-- Nothing dangles of the parcels, so they are resolved strictly, all at once and in order. -/
theorem strict_iff_nothingDangles_parcels :
    Declarations.parse parcelMarkup.render false = .ok parcels ∧ parcels.NothingDangles ∧
    (∃ r, parcels.definitions true = .ok r) ∧ ∃ r, parcels.resolveInOrder true = .ok r := by
  have hnothing : parcels.NothingDangles :=
    { messages := by
        intro m hm
        obtain rfl := List.mem_singleton.mp hm
        exact ⟨"urn:parcels", parcelDecl "parcel" "t:Parcel", rfl, rfl, allResolve_parcel⟩
      operations := fun _ hp => nomatch hp
      bindings := fun _ hb => nomatch hb }
  obtain ⟨hinOrder, hatOnce⟩ := strict_iff_nothingDangles parcels
  have hfiled : parcels.IsFiled := isFiled_of_parse parse_parcels parcels.schemas
  exact ⟨parse_parcels, hnothing, (hatOnce hfiled).mpr hnothing, hinOrder.mpr hnothing⟩

/-! ### Types that are not asked for -/

def strangerMarkup : Xml.Markup :=
  .element "definitions" [("xmlns:q", "urn:elsewhere")]
    [.element "message" [("name", "Visit")]
      [leafMarkup "part" [("name", "host"), ("type", "p:Host")],
        leafMarkup "part" [("name", "guest"), ("type", "q:Guest")]]]

/-- A call with two parts: the prefix of one is not bound, that of the other to a namespace without a
schema. -/
def stranger : Declarations where
  namespaces := [("q", "urn:elsewhere")]
  schemas := { namespaces := [("q", "urn:elsewhere")] }
  messages := [("Visit",
    { name := "Visit", parts := [⟨"host", none, some "p:Host"⟩, ⟨"guest", none, some "q:Guest"⟩], documentation := none })]

theorem parse_stranger : Declarations.parse strangerMarkup.render false = .ok stranger := by
  have hw : strangerMarkup.IsWritable := by decide +kernel
  rw [Declarations.parse, strangerMarkup, Document.parse_render hw]
  rfl

/-- Both pass, though neither is a built-in type and no type is found for either, whoever asks. -/
theorem strict_passes_unknown_types :
    Declarations.parse strangerMarkup.render false = .ok stranger ∧
    stranger.definitions true = .ok stranger.resolve.1 ∧
    ∃ m ∈ stranger.messages.values, ∀ part ∈ m.parts, ∃ reference, part.typeRef = some reference ∧
      isPrimitive (localPart reference) = false ∧ ∀ owner, stranger.schemas.lookupType? owner reference = none := by
  have hnothing : ∀ owner reference, stranger.schemas.lookupType? owner reference = none := by
    intro owner reference
    unfold SchemaRegistry.lookupType?
    dsimp only
    split
    · rfl
    · split <;> rfl
  refine ⟨parse_stranger, rfl, _, List.mem_cons_self, ?_⟩
  intro part hpart
  rcases List.mem_cons.mp hpart with rfl | hpart
  · exact ⟨"p:Host", rfl, by decide, fun _ => hnothing ..⟩
  · obtain rfl := List.mem_singleton.mp hpart
    exact ⟨"q:Guest", rfl, by decide, fun _ => hnothing ..⟩

end Declarations

end Soap
