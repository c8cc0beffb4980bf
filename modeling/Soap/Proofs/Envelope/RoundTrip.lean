import Soap.Proofs.Definitions.Equality
import Soap.Proofs.Envelope.Reading

/-!
# Round trips

What is written of a value reads back as the value. A document comes back exactly as it was, down to
the order of its fields (`decode_encodeDocument`); of a call each parameter comes back as its text
(`decode_encodeCall`).
-/

namespace Soap

open Xml (Markup isLocalName)

/-- What is spelt of a value that fits is read back, under any header. -/
theorem decode_of_spells {defs : Option Definitions} {table : NamespaceTable} (ht : table.IsClean)
    {header : Option Markup} {h : Option Value} (hheader : ReadsHeader defs header h)
    {name : String} (hname : isLocalName name = true) (hfault : name ≠ "Fault")
    {leaf : Option Description → Value → Prop} {f : Value → Value}
    (hleaf : ReadBack (messageSchema defs name).typed leaf f) {v : Value}
    (hfit : Fits leaf (some (messageSchema defs name).description) v) {content : List Markup}
    (hs : Spells name content v) :
    Envelope.decode defs
      (Envelope.render (Markup.renderAll content) table (header.map Markup.render)) =
      .ok { header := h, body := .object [(name, v.mapScalars f)] } := by
  obtain ⟨tag, attributes, inside, htag, hattributes, rfl, hinside⟩ := hfit.spells hs
  exact decode_render ht hheader hname hfault htag hattributes (writable_inside hfit hinside)
    fun outer => closesAs_value hleaf defs name hfit hinside outer []

/-! ## Documents -/

/-- A message with an element is read by its types. -/
theorem messageSchema_of_element {d : Definitions} {name : String} {m : Message} {ref : ElementRef}
    (hm : d.findMessage? name = some m) (hbody : m.body = .element ref) :
    messageSchema (some d) name = { description := d.describeMessage m, typed := true } := by
  simp [messageSchema, hm, hbody]

/-- A document under any header reads back. -/
theorem decode_encodeDocument_of_header {d : Definitions} {table : NamespaceTable}
    (ht : table.IsClean) {header : Option Markup} {h : Option Value}
    (hheader : ReadsHeader (some d) header h) {name : String} {decl : ElementDecl}
    (hname : isLocalName name = true) (hfault : name ≠ "Fault") {m : Message} {ref : ElementRef}
    (hm : d.findMessage? name = some m) (hbody : m.body = .element ref)
    (howners : ∀ u ∈ decl.owners ++ d.schemas.owners, IsWritableUri u) {v : Value}
    (hv : Conforms (some (d.describeMessage m)) v) :
    Envelope.decode (some d)
        (Envelope.render (Markup.renderAll (encodeDocument d.schemas table name decl v).1)
          (encodeDocument d.schemas table name decl v).2 (header.map Markup.render)) =
      .ok { header := h, body := .object [(name, v)] } := by
  have hspells := spells_encodeDocument (fun u hu => howners u (List.mem_append_right _ hu)) ht name
    (fun u hu => howners u (List.mem_append_left _ hu)) v
  have hschema := messageSchema_of_element hm hbody
  have hback : ReadBack (messageSchema (some d) name).typed IsTypedLeaf id := by
    rw [hschema]
    exact readBack_typed
  have hfit : Fits IsTypedLeaf (some (messageSchema (some d) name).description) v := by
    rw [hschema]
    exact hv
  have hread := decode_of_spells hspells.2 hheader hname hfault hback hfit hspells.1
  rwa [Value.mapScalars_id] at hread

/-- A document reads back exactly as it was. -/
theorem decode_encodeDocument (d : Definitions) (declarations : List (String × String))
    (hdeclarations : ∀ entry ∈ (NamespaceTable.ofDeclarations declarations).bindings, IsDeclarable entry)
    (decl : ElementDecl) (hname : isLocalName decl.name = true) (hfault : decl.name ≠ "Fault")
    (howners : ∀ u ∈ decl.owners ++ d.schemas.owners, IsWritableUri u) (m : Message) (ref : ElementRef)
    (hm : d.findMessage? decl.name = some m) (hbody : m.body = .element ref) (v : Value)
    (hv : Conforms (some (d.describeMessage m)) v) :
    let encoded := encodeDocument d.schemas (.ofDeclarations declarations) decl.name decl v
    Envelope.decode (some d) (Envelope.render (Markup.renderAll encoded.1) encoded.2 none) =
      .ok { header := none, body := .object [(decl.name, v)] } :=
  decode_encodeDocument_of_header (.ofDeclarations hdeclarations) (readsHeader_none _) hname hfault hm hbody
    howners hv

/-! ### An order -/

/-- An order with one line. -/
def anOrder : Value :=
  .object [("id", .int 7), ("paid", .bool true), ("line", .list [.string "a < b"])]

theorem isPrimitive_order :
    isPrimitive (localPart "xsd:int") = true ∧
    isPrimitive (localPart "xsd:boolean") = true ∧ isPrimitive (localPart "xsd:string") = true := by
      decide

theorem describe_order :
    orders.describeMessage orderMessage =
    .fields [("id", .leaf "xsd:int"), ("paid", .leaf "xsd:boolean"), ("line[]", .leaf "xsd:string")] := by
  simp [Definitions.describeMessage, orderMessage, SchemaRegistry.describeElement, messageOf,
    orderDecl, ordersDecl, SchemaRegistry.describeDecl, SchemaRegistry.describeContent,
    SchemaRegistry.describeRef, isPrimitive_order]
  rfl

theorem conforms_order : Conforms (some (orders.describeMessage orderMessage)) anOrder := by
  rw [describe_order]
  exact ⟨by decide, by decide, by simp, ⟨rfl, rfl⟩, ⟨rfl, rfl⟩,
    ⟨by decide, ⟨by decide, .inr rfl, by decide⟩, trivial⟩, trivial⟩

theorem decode_encodeDocument_order :
    let encoded := encodeDocument orders.schemas (.ofDeclarations orders.namespaces) "order" orderDecl anOrder
    Envelope.decode (some orders) (Envelope.render (Markup.renderAll encoded.1) encoded.2 none) =
      .ok { header := none, body := .object [("order", anOrder)] } :=
  decode_encodeDocument orders orders.namespaces (by decide) orderDecl (by decide) (by decide) (by decide)
    orderMessage _ rfl rfl anOrder conforms_order

/-! ## Calls -/

/-- Every parameter of a call reads back as its text. -/
theorem decode_encodeCall (d : Definitions) (declarations : List (String × String))
    (hdeclarations : ∀ entry ∈ (NamespaceTable.ofDeclarations declarations).bindings, IsDeclarable entry)
    (name : String) (hname : isLocalName name = true) (hfault : name ≠ "Fault")
    (hm : ∀ m, d.findMessage? name = some m → ∀ ref, m.body ≠ .element ref) (space : Option String)
    (hspace : ∀ u ∈ space, IsWritableUri u) (params : List (String × Value))
    (hparams : FitsUntyped (some (((d.findMessage? name).map d.describeMessage).getD .absent))
      (.object params)) :
    let encoded := encodeCall (.ofDeclarations declarations) name space (.object params)
    Envelope.decode (some d) (Envelope.render (Markup.renderAll encoded.1) encoded.2 none) =
      .ok { header := none, body := .object [(name, (Value.object params).text)] } := by
  have hspells := spells_encodeCall (.ofDeclarations hdeclarations) hspace name params
  -- Leaves are kept as text for one of two reasons: they are not typed, or nothing is described.
  suffices hfit : Fits (IsKeptLeaf (messageSchema (some d) name).typed)
      (some (messageSchema (some d) name).description) (.object params) from
    decode_of_spells hspells.2 (readsHeader_none _) hname hfault (readBack_kept _) hfit hspells.1
  cases hfind : d.findMessage? name with
  | none =>
    have hschema : messageSchema (some d) name = { description := .absent, typed := true } := by
      simp [messageSchema, hfind]
    rw [hfind] at hparams
    rw [hschema]
    exact hparams.kept_of_absent
  | some m =>
    rw [hfind] at hparams
    cases hbody : m.body with
    | element ref => exact absurd hbody (hm m hfind ref)
    | parts parts =>
      have hschema : messageSchema (some d) name =
        { description := d.describeMessage m, typed := false } := by
        simp [messageSchema, hfind, hbody]
      rw [hschema]
      exact hparams.kept
    | unresolved reference =>
      -- The leaves are typed here too, but nothing is described that could give them a type.
      have hschema : messageSchema (some d) name = { description := .absent, typed := true } := by
        simp [messageSchema, hfind, hbody, Definitions.describeMessage]
      have habsent : d.describeMessage m = .absent := by simp [Definitions.describeMessage, hbody]
      rw [Option.map_some, Option.getD_some, habsent] at hparams
      rw [hschema]
      exact hparams.kept_of_absent

theorem describe_cancel :
    orders.describeMessage cancelMessage = .fields [("id", .leaf "xsd:int")] := by
  simp [Definitions.describeMessage, cancelMessage, SchemaRegistry.describeType,
    SchemaRegistry.describeRef, isPrimitive_order]

/-- The number of the order to cancel is described as an integer, and comes back as text. -/
theorem decode_encodeCall_cancel :
    let encoded := encodeCall (.ofDeclarations orders.namespaces) "cancel" (some "urn:orders")
      (.object [("id", .int 7)])
    Envelope.decode (some orders) (Envelope.render (Markup.renderAll encoded.1) encoded.2 none) =
      .ok { header := none, body := .object [("cancel", (Value.object [("id", .int 7)]).text)] } := by
  have hfind : orders.findMessage? "cancel" = some cancelMessage := rfl
  refine decode_encodeCall orders orders.namespaces (by decide) "cancel" (by decide) (by decide) ?_
    (some "urn:orders") (by simp; decide) [("id", .int 7)] ?_
  · intro m hm ref
    obtain rfl := Option.some.inj (hfind.symm.trans hm)
    exact fun h => by cases h
  · rw [hfind, Option.map_some, Option.getD_some, describe_cancel]
    exact ⟨by decide, by decide, by simp, ⟨rfl, trivial⟩, trivial⟩

end Soap
