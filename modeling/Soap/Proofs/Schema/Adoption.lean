import Soap.Proofs.OrderedMap
import Soap.Proofs.Schema.Origin

/-!
# Moving a schema into a namespace

A schema that declares no namespace can be moved into one after it was read. All its declarations, at whatever
depth, are then those that it would have if it had declared the namespace itself: the owner is the only thing
that they take from their schema (`ElementDecl.ofNode?_ownedBy`). What it includes does not move along. An
inclusion that names no namespace contributes to that of its schema, which is filled in while the schema is
read, so that a schema that is moved later and one that declares its namespace are the same just if every
inclusion names one (`SchemaDocument.adopt_eq_iff`).
-/

namespace Soap

/-! ## Declarations -/

variable (owner : Option String) (ns : String)

theorem allOwnedBy_eq_map (decls : List ElementDecl) : allOwnedBy ns decls = decls.map (ElementDecl.ownedBy ns) := by
  induction decls with
  | nil => rfl
  | cons decl rest ih => rw [allOwnedBy, ih, List.map_cons]

/-- A complex type whose declarations are owned by `ns`. -/
def ContentModel.ownedBy (ct : ComplexType) : ComplexType := { ct with content := allOwnedBy ns ct.content }

theorem inlineOwnedBy_eq_map (inline : Option ComplexType) :
    inlineOwnedBy ns inline = inline.map (ContentModel.ownedBy ns) := by
  cases inline <;> rfl

mutual

/-- A declaration that is moved into a namespace is the one that is read there. -/
theorem ElementDecl.ofNode?_ownedBy (n : Node) :
    (ElementDecl.ofNode? owner n).map (ElementDecl.ownedBy ns) = ElementDecl.ofNode? (some ns) n := by
  obtain ⟨kind, name, attributes, declared, scope, text, children⟩ := n
  rw [ElementDecl.ofNode?, ElementDecl.ofNode?, Option.map_map]
  congr 1
  funext declaredName
  rw [Function.comp_apply, ElementDecl.ownedBy, inlineOwnedBy_eq_map, inlineTypeOf_ownedBy children]

theorem inlineTypeOf_ownedBy (nodes : List Node) :
    (inlineTypeOf owner nodes).map (ContentModel.ownedBy ns) = inlineTypeOf (some ns) nodes := by
  match nodes with
  | [] => rfl
  | n :: rest =>
    rw [inlineTypeOf, inlineTypeOf]
    split
    · rw [Option.map_some, complexTypeOf_ownedBy n]
    · exact inlineTypeOf_ownedBy rest

/-- So is a complex type. -/
theorem complexTypeOf_ownedBy (n : Node) :
    (complexTypeOf owner n).ownedBy ns = complexTypeOf (some ns) n := by
  obtain ⟨kind, name, attributes, declared, scope, text, children⟩ := n
  rw [complexTypeOf, complexTypeOf, ContentModel.ownedBy, allOwnedBy_eq_map, groupsOf_ownedBy children]

theorem groupsOf_ownedBy (nodes : List Node) :
    (groupsOf owner nodes).map (ElementDecl.ownedBy ns) = groupsOf (some ns) nodes := by
  match nodes with
  | [] => rfl
  | ⟨kind, name, attributes, declared, scope, text, children⟩ :: rest =>
    rw [groupsOf, groupsOf, List.map_append, groupsOf_ownedBy rest]
    congr 1
    split
    · exact membersOf_ownedBy children
    · rfl

theorem membersOf_ownedBy (nodes : List Node) :
    (membersOf owner nodes).map (ElementDecl.ownedBy ns) = membersOf (some ns) nodes := by
  match nodes with
  | [] => rfl
  | ⟨kind, name, attributes, declared, scope, text, children⟩ :: rest =>
    rw [membersOf, membersOf, List.map_append, membersOf_ownedBy rest]
    congr 1
    split
    · rw [← ElementDecl.ofNode?_ownedBy, Option.toList_map]
    split
    · exact membersOf_ownedBy children
    · rfl

end

/-! ## Documents -/

/-- The node with an attribute. -/
def Node.withAttr (n : Node) (name value : String) : Node :=
  { n with attributes := n.attributes.insert name value }

/-- An inclusion contributes to the namespace that it names, or else to `ns`. -/
def Inclusion.within (inclusion : Inclusion) : Inclusion :=
  { inclusion with space := inclusion.space <|> some ns }

theorem Inclusion.within_eq_self_iff {inclusion : Inclusion} :
    inclusion.within ns = inclusion ↔ inclusion.space.isSome = true := by
  obtain ⟨space, location⟩ := inclusion
  cases space <;> simp [Inclusion.within]

namespace SchemaDocument

/-- A document that is moved into a namespace together with its inclusions. -/
def settle (doc : SchemaDocument) : SchemaDocument :=
  { doc.adopt ns with inclusions := doc.inclusions.map (Inclusion.within ns) }

theorem inclusionOf_within (n : Node) :
    (inclusionOf none n).map (Inclusion.within ns) = inclusionOf (some ns) n := by
  rw [inclusionOf, inclusionOf, Option.map_map]
  congr 1
  funext location
  simp [Inclusion.within, Option.orElse_eq_orElse, Option.orElse_eq_or]

/-- It does not matter whether a child is read before the document is moved or after. -/
theorem settle_addChild {doc : SchemaDocument} (h : doc.targetNamespace = none) (child : Node) :
    (doc.addChild child).settle ns = (doc.settle ns).addChild child := by
  have htarget : (doc.settle ns).targetNamespace = some ns := rfl
  have hinclusion : (doc.inclusions ++ (inclusionOf none child).toList).map (Inclusion.within ns) =
      (doc.settle ns).inclusions ++ (inclusionOf (some ns) child).toList := by
    rw [List.map_append, ← inclusionOf_within, Option.toList_map]
    rfl
  have htype : ∀ name, (doc.complexTypes.insert name (complexTypeOf none child)).mapValues (ContentModel.ownedBy ns) =
      (doc.settle ns).complexTypes.insert name (complexTypeOf (some ns) child) := by
    intro name
    rw [← OrderedMap.insert_mapValues, complexTypeOf_ownedBy]
    rfl
  have helement : ∀ name decl, (doc.elements.insert name decl).mapValues (ElementDecl.ownedBy ns) =
      (doc.settle ns).elements.insert name (decl.ownedBy ns) := by
    intro name decl
    rw [← OrderedMap.insert_mapValues]
    rfl
  unfold addChild
  rw [htarget, h]
  dsimp only
  split
  · rfl
  split
  · rw [← hinclusion]
    rfl
  · rw [← hinclusion]
    rfl
  · rw [← htype]
    rfl
  · rw [← ElementDecl.ofNode?_ownedBy none]
    cases ElementDecl.ofNode? none child with
    | none => rfl
    | some decl =>
      dsimp only [Option.map_some]
      rw [← helement]
      rfl
  · rfl
  · rfl

theorem settle_foldl_addChild {doc : SchemaDocument} (h : doc.targetNamespace = none) (children : List Node) :
    (children.foldl addChild doc).settle ns = children.foldl addChild (doc.settle ns) := by
  induction children generalizing doc with
  | nil => rfl
  | cons child rest ih =>
    have htarget : (doc.addChild child).targetNamespace = none := (addChild_fixed doc child).1.trans h
    rw [List.foldl_cons, List.foldl_cons, ih htarget, settle_addChild ns h]

variable {n : Node} {ns}

/-- The schema that declares its namespace is the one that is moved into it with its inclusions. -/
theorem settle_ofNode (h : n.attr? "targetNamespace" = none) :
    (ofNode n).settle ns = ofNode (n.withAttr "targetNamespace" ns) := by
  have hdeclared : (n.withAttr "targetNamespace" ns).attr? "targetNamespace" = some ns :=
    OrderedMap.get?_insert_self ..
  rw [ofNode, ofNode, hdeclared, h, settle_foldl_addChild ns rfl]
  rfl

theorem settle_eq_adopt_iff (doc : SchemaDocument) :
    doc.adopt ns = doc.settle ns ↔ ∀ inclusion ∈ doc.inclusions, inclusion.space.isSome = true := by
  have hfields : doc.adopt ns = doc.settle ns ↔ doc.inclusions.map (Inclusion.within ns) = doc.inclusions.map id := by
    rw [List.map_id]
    constructor
    · intro h
      exact (congrArg inclusions h).symm
    · intro h
      rw [settle, h]
      rfl
  rw [hfields, List.map_inj_left]
  exact forall₂_congr fun inclusion _ => Inclusion.within_eq_self_iff ns

/-- A schema that is read without a namespace and then moved into one agrees with the schema that declares it:
in its namespace, its bindings, its types and its elements, with their owners at every depth. They have the same
inclusions, except that one that names no namespace has been given that of the schema that declares it. So the
two are the same just if there is no such inclusion. -/
theorem adopt_eq_iff (h : n.attr? "targetNamespace" = none) :
    ofNode (n.withAttr "targetNamespace" ns) =
      { (ofNode n).adopt ns with inclusions := (ofNode n).inclusions.map (Inclusion.within ns) } ∧
    ((ofNode n).adopt ns = ofNode (n.withAttr "targetNamespace" ns) ↔
      ∀ inclusion ∈ (ofNode n).inclusions, inclusion.space.isSome = true) := by
  rw [← settle_ofNode h]
  exact ⟨rfl, settle_eq_adopt_iff (ofNode n)⟩

/-! ### A schema of labels -/

/-- An element of a schema with the given attributes. -/
def schemaNode (kind : Kind) (attributes : OrderedMap String String) (children : List Node) : Node :=
  { kind, name := .unqualified "", attributes, declared := [], scope := [], text := "", children }

/-- A label has a text and a font in it, which is declared elsewhere. -/
def labelSchema : Node :=
  schemaNode .schema [] [
    schemaNode .schemaImport [("namespace", "urn:fonts"), ("schemaLocation", "fonts.xsd")] [],
    schemaNode .element [("name", "label")] [schemaNode .complexType [] [schemaNode .sequence [] [
      schemaNode .element [("name", "text"), ("type", "xsd:string")] [],
      schemaNode .element [("name", "font"), ("type", "f:Font")] []]]]]

/-- What the schema of labels declares for `urn:shop`. -/
def labelDecl : ElementDecl :=
  let field (name ref : String) : ElementDecl := ⟨name, ⟨none, none⟩, some ref, none, some "urn:shop"⟩
  ⟨"label", ⟨none, none⟩, none, some ⟨none, [field "text" "xsd:string", field "font" "f:Font"]⟩, some "urn:shop"⟩

theorem adopt_eq_labels :
    labelSchema.attr? "targetNamespace" = none ∧
    (ofNode labelSchema).inclusions = [⟨some "urn:fonts", "fonts.xsd"⟩] ∧
    (ofNode labelSchema).adopt "urn:shop" = ofNode (labelSchema.withAttr "targetNamespace" "urn:shop") ∧
    ((ofNode labelSchema).adopt "urn:shop").elements = [("label", labelDecl)] := by
  refine ⟨by decide, by decide, ?_, rfl⟩
  exact (adopt_eq_iff (by decide)).2.mpr (by decide)

/-- A schema that includes another one for its own namespace, whatever that may be. -/
def catalogSchema : Node :=
  schemaNode .schema [] [schemaNode .schemaInclude [("schemaLocation", "labels.xsd")] []]

/-- If it is moved into a namespace, the included schema stays behind. -/
theorem inclusion_stays_behind :
    catalogSchema.attr? "targetNamespace" = none ∧
    ((ofNode catalogSchema).adopt "urn:shop").inclusions = [⟨none, "labels.xsd"⟩] ∧
    (ofNode (catalogSchema.withAttr "targetNamespace" "urn:shop")).inclusions = [⟨some "urn:shop", "labels.xsd"⟩] ∧
    (ofNode catalogSchema).adopt "urn:shop" ≠ ofNode (catalogSchema.withAttr "targetNamespace" "urn:shop") := by
  refine ⟨by decide, by decide, by decide, fun h => ?_⟩
  have hinclusions := congrArg inclusions h
  revert hinclusions
  decide

end SchemaDocument

end Soap
