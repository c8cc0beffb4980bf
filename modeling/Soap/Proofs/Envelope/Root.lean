import Soap.Proofs.Envelope.Outline
import Soap.Proofs.Envelope.Qualification
import Soap.Proofs.Envelope.RoundTrip

/-!
# What the root of an envelope declares

An envelope declares on its root the prefixes that its body was written with: each once, for the namespace
that the table has for it, and none twice (`Definitions.root_declares`). Namespaces of the description and
encoding languages are the exception. They are never declared, so that a tag in one of them has a prefix
that the root does not know (`infrastructure_is_not_declared`).

Whether the prefix of the envelope itself is declared once more depends on what the definitions bind it to.
New prefixes are never that one, so a table hands it out only for what it was bound to at first
(`NamespaceTable.SparesSoap`).
-/

namespace Soap

open Xml (Markup)
open Xml.Markup (startTagsAll startTagsAll_append startTagsAll_plain startTagsAll_text)

/-! ## Elements of calls -/

mutual

/-- The elements of a call, apart from its wrapper, have the names of fields. -/
theorem startTags_encodeShape {name tag : String} (v : Value) (h : tag ∈ startTagsAll (encodeShape name v)) :
    tag = name ∨ tag ∈ v.allKeys := by
  match v with
  | .null => cases h
  | .list items => exact startTags_encodeShapes items h
  | .object fields =>
    rw [encodeShape, startTagsAll_plain] at h
    rcases List.mem_cons.mp h with rfl | h
    · exact .inl rfl
    · exact .inr (startTags_encodeParameters fields h)
  | .string _ | .int _ | .float _ | .bool _ | .dateTime _ =>
    rw [encodeShape, startTagsAll_plain, startTagsAll_text] at h
    exact .inl (List.mem_singleton.mp h)

theorem startTags_encodeShapes {name tag : String} (items : List Value)
    (h : tag ∈ startTagsAll (encodeShapes name items)) : tag = name ∨ tag ∈ Value.keysOfItems items := by
  match items with
  | [] => cases h
  | item :: rest =>
    rw [encodeShapes, startTagsAll_append] at h
    rcases List.mem_append.mp h with h | h
    · exact (startTags_encodeShape item h).imp_right fun hkey => List.mem_append_left _ hkey
    · exact (startTags_encodeShapes rest h).imp_right fun hkey => List.mem_append_right _ hkey

theorem startTags_encodeParameters {tag : String} (fields : List (String × Value))
    (h : tag ∈ startTagsAll (encodeParameters fields)) : tag ∈ Value.keysOfFields fields := by
  match fields with
  | [] => cases h
  | (key, v) :: rest =>
    rw [encodeParameters, startTagsAll_append] at h
    rcases List.mem_append.mp h with h | h
    · rcases startTags_encodeShape v h with rfl | hkey
      · exact List.mem_cons_self
      · exact List.mem_cons_of_mem _ (List.mem_append_left _ hkey)
    · exact List.mem_cons_of_mem _ (List.mem_append_right _ (startTags_encodeParameters rest h))

end

mutual

theorem startTags_encodeContent {tag : String} (v : Value) (h : tag ∈ startTagsAll (encodeContent v)) :
    tag ∈ v.allKeys := by
  match v with
  | .null => cases h
  | .list items => exact startTags_encodeContents items h
  | .object fields => exact startTags_encodeParameters fields h
  | .string _ | .int _ | .float _ | .bool _ | .dateTime _ =>
    rw [encodeContent, startTagsAll_text] at h
    cases h

theorem startTags_encodeContents {tag : String} (items : List Value)
    (h : tag ∈ startTagsAll (encodeContents items)) : tag ∈ Value.keysOfItems items := by
  match items with
  | [] => cases h
  | item :: rest =>
    rw [encodeContents, startTagsAll_append] at h
    rcases List.mem_append.mp h with h | h
    · exact List.mem_append_left _ (startTags_encodeContent item h)
    · exact List.mem_append_right _ (startTags_encodeContents rest h)

end

namespace NamespaceTable

variable {t t' : NamespaceTable} {uri name : String}

/-! ## The prefix of the envelope -/

/-- Since the table `seed`, the prefix of envelopes was bound to nothing else, and it was handed out only for
namespaces that are never declared. -/
structure SparesSoap (seed t : NamespaceTable) : Prop where
  minter : t.minter = default
  bound : ∀ uri, ("soap", uri) ∈ t.bindings → ("soap", uri) ∈ seed.bindings
  used : ∀ uri, ("soap", uri) ∈ t.used → isInfrastructureUri uri = true

/-- The namespaces of the elements to be written, as far as they have the prefix of envelopes, are never
declared. -/
def LeavesSoap (seed : NamespaceTable) (elements : List OwnedName) : Prop :=
  ∀ e ∈ elements, ∀ uri, e.space = some uri → seed.uri? "soap" = some uri → isInfrastructureUri uri = true

variable {seed : NamespaceTable}

/-- New prefixes are numbered or the preferred one, and not that of envelopes. -/
theorem HandsOut.soap_bound (h : t.HandsOut t.minter.policy uri (some preferredPrefix) name t')
    (hminter : t.minter = default) (hattempts : 1 ≤ t.nextGeneration) {other : String}
    (hmem : ("soap", other) ∈ t'.bindings) : ("soap", other) ∈ t.bindings := by
  have hadd : name ≠ "soap" → ("soap", other) ∈ (t.add name uri).bindings → ("soap", other) ∈ t.bindings := by
    intro hne hmem
    rcases mem_add.mp hmem with ⟨hold, -⟩ | heq
    · exact hold
    · exact absurd (congrArg Prod.fst heq).symm hne
  cases h with
  | known _ => exact hmem
  | preferred _ hname _ =>
    obtain rfl := Option.some.inj hname
    exact hadd (by decide) hmem
  | minted _ _ hmints =>
    refine hadd ?_ hmem
    rw [← hmints.proposed, hminter]
    show PrefixMinter.candidate default _ ≠ "soap"
    rw [PrefixMinter.candidate_of_length_lt (Nat.le_trans hattempts hmints.first_le)]
    exact numbered_ne_soap _

theorem HandsOut.minter_eq {policy : MintingPolicy} {preferred : Option String}
    (h : t.HandsOut policy uri preferred name t') : t'.minter = t.minter := by
  cases h <;> rfl

theorem SparesSoap.handsOut (ht : SparesSoap seed t)
    (h : t.HandsOut t.minter.policy uri (some preferredPrefix) name t') (hattempts : 1 ≤ t.nextGeneration)
    (huri : ("soap", uri) ∈ seed.bindings → isInfrastructureUri uri = true) : SparesSoap seed t' where
  minter := h.minter_eq.trans ht.minter
  bound other hmem := ht.bound other (h.soap_bound ht.minter hattempts hmem)
  used other hmem := by
    rw [h.isHanded.used] at hmem
    rcases OrderedMap.mem_insert hmem with heq | hmem
    · -- The prefix of envelopes was handed out just now, so it was bound from the start.
      obtain rfl : "soap" = name := congrArg Prod.fst heq
      obtain rfl : other = uri := congrArg Prod.snd heq
      exact huri (ht.bound other (h.soap_bound ht.minter hattempts h.isHanded.bound))
    · exact ht.used other hmem

theorem SparesSoap.qualify (h : SparesSoap seed t) (ht : t.IsInUse) (e : OwnedName)
    (he : ∀ uri, e.space = some uri → ("soap", uri) ∈ seed.bindings → isInfrastructureUri uri = true) :
    SparesSoap seed (Soap.qualify t e.space e.name).2 := by
  obtain ⟨name, space⟩ := e
  cases space with
  | none => exact h
  | some uri =>
    have hattempts := ht.consistent.attempts
    exact h.handsOut (handsOut_prefixFor hattempts uri (some preferredPrefix)) hattempts (he uri rfl)

theorem SparesSoap.qualifyAll (h : SparesSoap seed t) (ht : t.IsInUse) (elements : List OwnedName)
    (hall : ∀ e ∈ elements, ∀ uri, e.space = some uri → ("soap", uri) ∈ seed.bindings →
      isInfrastructureUri uri = true) :
    SparesSoap seed (Soap.qualifyAll t elements).2 := by
  induction elements generalizing t with
  | nil => exact h
  | cons e rest ih =>
    apply ih (h.qualify ht e (hall e List.mem_cons_self)) (ht.qualify e).1
    intro other hother
    exact hall other (List.mem_cons_of_mem _ hother)

/-- Nothing was handed out by the seed itself. -/
theorem SparesSoap.ofDeclarations (declarations : List (String × String)) :
    SparesSoap (ofDeclarations declarations) (ofDeclarations declarations) where
  minter := (ofDeclarations_fresh declarations).2
  bound _ hmem := hmem
  used := by simp [(ofDeclarations_fresh declarations).1]

/-! ## Declarations -/

/-- The root declares the prefix once, and for this namespace. -/
def DeclaresOnce (t : NamespaceTable) (name uri : String) : Prop :=
  (t.rootAttributes.filter fun declared => declared.1 == "xmlns:" ++ name) = [("xmlns:" ++ name, uri)]

instance (t : NamespaceTable) (name uri : String) : Decidable (t.DeclaresOnce name uri) := by
  unfold DeclaresOnce
  infer_instance

theorem declaresOnce_of_mem (hnodup : (t.rootAttributes.map Prod.fst).Nodup)
    (h : (name, uri) ∈ t.declarations) : t.DeclaresOnce name uri := by
  have hroot : ("xmlns:" ++ name, uri) ∈ t.rootAttributes :=
    List.mem_cons_of_mem _ (List.mem_map.mpr ⟨_, h, rfl⟩)
  exact OrderedMap.filter_key_of_mem hnodup hroot

theorem mem_rootAttributes (h : ("xmlns:" ++ name, uri) ∈ t.rootAttributes) :
    (name = "soap" ∧ uri = Envelope.space) ∨ (name, uri) ∈ t.declarations := by
  rcases List.mem_cons.mp h with heq | h
  · refine .inl ⟨declaration_injective (congrArg Prod.fst heq), congrArg Prod.snd heq⟩
  · obtain ⟨⟨name', uri'⟩, hentry, heq⟩ := List.mem_map.mp h
    obtain rfl : name' = name := declaration_injective (congrArg Prod.fst heq)
    obtain rfl : uri' = uri := congrArg Prod.snd heq
    exact .inr hentry

/-- The tag is that of the element. If the element belongs to a namespace, the prefix of the tag stands for it in
the table, and on the root, where it is declared once, unless the namespace is never declared. -/
def DeclaresTag (t : NamespaceTable) (e : OwnedName) (tag : String) : Prop :=
  match e.space with
  | none => tag = e.name
  | some uri =>
    ∃ name, tag = name ++ ":" ++ e.name ∧ t.uri? name = some uri ∧
      (isInfrastructureUri uri = false → t.DeclaresOnce name uri)

theorem DeclaresTag.of_qualifies (hnodup : (t.rootAttributes.map Prod.fst).Nodup) {e : OwnedName} {tag : String}
    (h : t.Qualifies e tag) : t.DeclaresTag e tag := by
  obtain ⟨name, space⟩ := e
  cases space with
  | none => exact h
  | some uri =>
    obtain ⟨p, hne, htag, huri, hused⟩ := h
    refine ⟨p, htag, huri, ?_⟩
    intro hinfra
    exact declaresOnce_of_mem hnodup (mem_declarations.mpr ⟨hused, hne, hinfra⟩)

/-- The root of an envelope suits the tags of its body: no prefix is declared twice, every tag has a prefix
that is declared for its namespace, and what is declared is what the table says, apart from the prefix of the
envelope itself. -/
structure SuitsTags (t : NamespaceTable) (elements : List OwnedName) (tags : List String) : Prop where
  nodup : (t.rootAttributes.map Prod.fst).Nodup
  tags : List.Forall₂ t.DeclaresTag elements tags
  declared : ∀ name uri, ("xmlns:" ++ name, uri) ∈ t.rootAttributes →
    (name = "soap" ∧ uri = Envelope.space) ∨ (t.uri? name = some uri ∧ isInfrastructureUri uri = false)

theorem IsInUse.suitsTags (ht : t.IsInUse) (hsoap : SparesSoap seed t) {elements : List OwnedName} {tags : List String}
    (htags : List.Forall₂ t.Qualifies elements tags) : t.SuitsTags elements tags := by
  have hnodup : (t.rootAttributes.map Prod.fst).Nodup := by
    apply nodup_rootAttributes ht.nodup
    intro uri hmem
    obtain ⟨hused, -, hinfra⟩ := mem_declarations.mp hmem
    have hsoap := hsoap.used uri hused
    rw [hinfra] at hsoap
    cases hsoap
  refine ⟨hnodup, List.Forall₂.imp (fun _ _ h => .of_qualifies hnodup h) htags, ?_⟩
  intro name uri hroot
  refine (mem_rootAttributes hroot).imp_right fun hmem => ?_
  obtain ⟨hused, -, hinfra⟩ := mem_declarations.mp hmem
  exact ⟨ht.consistent.uri?_eq_some_iff.mpr (ht.used _ hused), hinfra⟩

end NamespaceTable

/-! ## Envelopes -/

/-- What stands in an envelope before its body. -/
def Envelope.headerText (header : Option String) : String :=
  match header with
  | some text => "<soap:Header>" ++ text ++ "</soap:Header>"
  | none => ""

/-- The start tag of an envelope has the attributes of the root. -/
theorem Envelope.render_root (body : String) (table : NamespaceTable) (header : Option String) :
    Envelope.render body table header =
      xmlDeclaration ++ "<soap:Envelope" ++ Markup.renderAttributes table.rootAttributes ++ ">" ++
        Envelope.headerText header ++ "<soap:Body>" ++ body ++ "</soap:Body></soap:Envelope>" := by
  have hroot : "<?xml version=\"1.0\" encoding=\"utf-8\"?><soap:Envelope xmlns:soap=\"" =
      xmlDeclaration ++ ("<soap:Envelope" ++ " xmlns:soap=\"") := by decide
  unfold Envelope.render Envelope.headerText
  rw [hroot, NamespaceTable.renderAttributes_rootAttributes]
  cases header <;> simp only [String.append_assoc]

/-- The envelope around what was written: its text begins with a root that suits the tags of the body. -/
structure Envelope.IsDeclared (written : List Markup × NamespaceTable) (elements : List OwnedName) : Prop where
  text : ∀ header, Envelope.render (Markup.renderAll written.1) written.2 header =
    xmlDeclaration ++ "<soap:Envelope" ++ Markup.renderAttributes written.2.rootAttributes ++ ">" ++
      Envelope.headerText header ++ "<soap:Body>" ++ Markup.renderAll written.1 ++ "</soap:Body></soap:Envelope>"
  root : written.2.SuitsTags elements (startTagsAll written.1)

namespace Definitions

/-- The table that an envelope is written with at first. -/
def seed (d : Definitions) : NamespaceTable := .ofDeclarations d.namespaces

/-- The root of every envelope suits its tags, whether it holds a document or a call: prefixes are declared
once, for the namespaces they stand for. Only the namespaces of the description and encoding languages are not
declared. No element may belong to any other namespace that the definitions give the prefix of envelopes. -/
theorem root_declares (d : Definitions) :
    (∀ name decl v, d.seed.LeavesSoap (ownedNames d.schemas name (some decl) none v) →
      Envelope.IsDeclared (encodeDocument d.schemas d.seed name decl v)
        (ownedNames d.schemas name (some decl) none v)) ∧
    ∀ name space v, d.seed.LeavesSoap [⟨name, space⟩] → ∃ keys : List String, (∀ key ∈ keys, key ∈ v.allKeys) ∧
      Envelope.IsDeclared (encodeCall d.seed name space v) (⟨name, space⟩ :: keys.map (⟨·, none⟩)) := by
  have hseed : d.seed.IsInUse := .ofDeclarations d.namespaces
  have hspares : d.seed.SparesSoap d.seed := .ofDeclarations d.namespaces
  have hbound : ∀ uri, ("soap", uri) ∈ d.seed.bindings → d.seed.uri? "soap" = some uri :=
    fun uri => hseed.consistent.uri?_eq_some_iff.mpr
  constructor
  · intro name decl v hleaves
    refine ⟨fun header => Envelope.render_root _ _ header, ?_⟩
    have hwritten := startTags_encodeElement d.schemas d.seed name (some decl) none v
    obtain ⟨hlast, -, htags⟩ := hseed.qualifyAll (ownedNames d.schemas name (some decl) none v)
    have hlastSpares := hspares.qualifyAll hseed (ownedNames d.schemas name (some decl) none v)
      fun e he uri huri hmem => hleaves e he uri huri (hbound uri hmem)
    rw [← hwritten] at hlast hlastSpares htags
    exact hlast.suitsTags hlastSpares htags
  · intro name space v hleaves
    refine ⟨startTagsAll (encodeContent v), fun key => startTags_encodeContent v, ?_⟩
    refine ⟨fun header => Envelope.render_root _ _ header, ?_⟩
    obtain ⟨hlast, -, htag⟩ := hseed.qualify ⟨name, space⟩
    have hlastSpares := hspares.qualify hseed ⟨name, space⟩
      fun uri huri hmem => hleaves _ List.mem_cons_self uri huri (hbound uri hmem)
    have htags : startTagsAll (encodeCall d.seed name space v).1 =
        (qualify d.seed space name).1 :: startTagsAll (encodeContent v) := startTagsAll_plain _ _
    rw [htags]
    apply hlast.suitsTags hlastSpares
    refine .cons htag ?_
    -- What stands inside the wrapper is in no namespace.
    rw [List.forall₂_map_left_iff]
    exact List.forall₂_same.mpr fun key _ => rfl

/-! ### Orders, and a namespace that is never declared -/

/-- Descriptions often give the prefix of envelopes to their own namespace for bindings. -/
def boundOrders : Definitions :=
  { orders with namespaces := [("soap", "http://schemas.xmlsoap.org/wsdl/soap/"), ("o", "urn:orders")] }

/-- An order, and a call in a namespace that has no prefix yet. -/
theorem root_declares_orders :
    let written := encodeDocument boundOrders.schemas boundOrders.seed "order" orderDecl anOrder
    let called := encodeCall boundOrders.seed "cancel" (some "urn:calls") anOrder
    Envelope.IsDeclared written [⟨"order", some "urn:orders"⟩, ⟨"id", some "urn:orders"⟩, ⟨"paid", some "urn:orders"⟩,
      ⟨"line", some "urn:orders"⟩] ∧
    startTagsAll written.1 = ["o:order", "o:id", "o:paid", "o:line"] ∧
    written.2.rootAttributes = [("xmlns:soap", Envelope.space), ("xmlns:o", "urn:orders")] ∧
    (called.2.rootAttributes.map Prod.fst).Nodup ∧ called.2.DeclaresOnce "tns" "urn:calls" := by
  have hleaves : ∀ elements, boundOrders.seed.LeavesSoap elements := by
    intro elements e _ uri _ hsoap
    have hbound : boundOrders.seed.uri? "soap" = some "http://schemas.xmlsoap.org/wsdl/soap/" := by decide
    rw [hbound] at hsoap
    obtain rfl := Option.some.inj hsoap
    decide
  obtain ⟨hdocuments, hcalls⟩ := boundOrders.root_declares
  obtain ⟨keys, -, hcalled⟩ := hcalls "cancel" (some "urn:calls") anOrder (hleaves _)
  exact ⟨hdocuments "order" orderDecl anOrder (hleaves _), by decide, by decide, hcalled.root.nodup, by decide⟩

/-- A call in a namespace that the definitions bind and that is never declared: its tag has a prefix that the root
of the envelope does not declare. -/
theorem infrastructure_is_not_declared :
    let d := { orders with namespaces := [("w", "http://www.w3.org/x")] }
    let called := encodeCall d.seed "Ping" (some "http://www.w3.org/x") (.object [])
    startTagsAll called.1 = ["w:Ping"] ∧ called.2.uri? "w" = some "http://www.w3.org/x" ∧
    called.2.rootAttributes = [("xmlns:soap", Envelope.space)] := by
  decide

end Definitions

end Soap
