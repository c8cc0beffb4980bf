import Soap.Proofs.Envelope.Depth
import Soap.Proofs.Schema.Describer

/-!
# The fields that are read and the fields that are written

A declaration is described where an element is to be read, and it has a content model where one is to be written.
The two are found by separate ways: a description goes by the declared type and by a model in place only where no
type is declared, and a content model the other way round. They have the same fields just if the declaration does
not bring both, or what it brings twice has the same fields (`SchemaRegistry.coincide_iff`). A field can be told
from its key as long as no field that stands once has a name that ends in the brackets of a repeatable one.
-/

namespace Soap

namespace Description

/-! ## Names in keys -/

/-- The name of the field that stands under a key, which is less the brackets of a repeatable one. -/
def nameOfKey (key : String) : String :=
  ((Text.beforeTail? ['[', ']'] key.toList).map String.ofList).getD key

/-- The name ends in the brackets of a repeatable field. -/
def IsMarked (name : String) : Prop := ∃ stem, name = repeatedKey stem

theorem toList_repeatedKey (name : String) : (repeatedKey name).toList = name.toList ++ ['[', ']'] := by
  rw [repeatedKey, String.toList_append]
  rfl

theorem nameOfKey_repeatedKey (name : String) : nameOfKey (repeatedKey name) = name := by
  rw [nameOfKey, Text.beforeTail?_eq_some.mpr (toList_repeatedKey name), Option.map_some, Option.getD_some,
    String.ofList_toList]

theorem nameOfKey_of_not_isMarked {name : String} (h : ¬ IsMarked name) : nameOfKey name = name := by
  rw [nameOfKey]
  cases hstem : Text.beforeTail? ['[', ']'] name.toList with
  | none => rfl
  | some stem =>
    refine absurd ⟨String.ofList stem, ?_⟩ h
    rw [← String.toList_inj, toList_repeatedKey, String.toList_ofList]
    exact Text.beforeTail?_eq_some.mp hstem

theorem nameOfKey_eq_self_iff {name : String} : nameOfKey name = name ↔ ¬ IsMarked name := by
  refine ⟨?_, nameOfKey_of_not_isMarked⟩
  rintro h ⟨stem, rfl⟩
  rw [nameOfKey_repeatedKey] at h
  have hlength := congrArg (·.toList.length) h
  simp only [toList_repeatedKey, List.length_append, List.length_cons, List.length_nil] at hlength
  omega

instance (name : String) : Decidable (IsMarked name) :=
  decidable_of_iff (¬ nameOfKey name = name) (not_congr nameOfKey_eq_self_iff |>.trans not_not)

/-- A description has a child of this name just if one of its keys is that of a field of this name. -/
theorem child?_isSome_iff {entries : OrderedMap String Description} {name : String} (h : ¬ IsMarked name) :
    ((fields entries).child? name).isSome = true ↔ name ∈ entries.keys.map nameOfKey := by
  show (entries.get? (repeatedKey name) <|> entries.get? name).isSome = true ↔ _
  rw [Option.orElse_eq_orElse, Option.orElse_eq_or, Option.isSome_or, Bool.or_eq_true,
    OrderedMap.get?_isSome_iff, OrderedMap.get?_isSome_iff, List.mem_map]
  constructor
  · rintro (hkey | hkey)
    · exact ⟨_, hkey, nameOfKey_repeatedKey name⟩
    · exact ⟨_, hkey, nameOfKey_of_not_isMarked h⟩
  · rintro ⟨key, hkey, rfl⟩
    by_cases hmarked : IsMarked key
    · obtain ⟨stem, rfl⟩ := hmarked
      rw [nameOfKey_repeatedKey]
      exact .inl hkey
    · rw [nameOfKey_of_not_isMarked hmarked]
      exact .inr hkey

end Description

open Description (nameOfKey IsMarked)

/-- The field can be told from its key: it is repeatable, or its name is not taken for that of a repeatable one. -/
def ElementDecl.IsLegible (decl : ElementDecl) : Prop :=
  decl.occurs.isRepeated = true ∨ ¬ IsMarked decl.name

theorem ElementDecl.nameOfKey_key_eq_iff {decl : ElementDecl} : nameOfKey decl.key = decl.name ↔ decl.IsLegible := by
  rw [key, IsLegible]
  split
  · next hrepeated => simp only [Description.nameOfKey_repeatedKey, hrepeated, true_or]
  · next hrepeated => rw [Description.nameOfKey_eq_self_iff, or_iff_right hrepeated]

instance (decl : ElementDecl) : Decidable decl.IsLegible :=
  decidable_of_iff _ ElementDecl.nameOfKey_key_eq_iff

theorem ContentModel.field?_isSome_iff {ct : ComplexType} {name : String} :
    (ct.field? name).isSome = true ↔ name ∈ ct.content.map ElementDecl.name := by
  rw [field?, List.find?_isSome, List.mem_map]
  simp only [beq_iff_eq]

/-- The declaration by what it is described by: if it refers to a type, a model in place does not count. -/
def ElementDecl.described (decl : ElementDecl) : ElementDecl :=
  { decl with inline := if decl.typeRef.isSome then none else decl.inline }

theorem ElementDecl.described_eq_self {decl : ElementDecl} (h : decl.typeRef = none ∨ decl.inline = none) :
    decl.described = decl := by
  obtain ⟨name, occurs, typeRef, inline, owner⟩ := decl
  rcases h with h | h
  · obtain rfl : typeRef = none := h
    rfl
  · obtain rfl : inline = none := h
    cases typeRef <;> rfl

namespace SchemaRegistry

/-! ## The description and the content model of a declaration -/

/-- The names of the fields that the children of an element are written by; none without a content model. -/
def fieldNames (reg : SchemaRegistry) (decl : ElementDecl) : List String :=
  ((reg.contentModel? decl).map fun ct => ct.content.map ElementDecl.name).getD []

/-- What is read as the declared element and what is written as it have the same fields: the keys of the
description are those of the fields of the content model, and a leaf has none. -/
structure Coincide (reg : SchemaRegistry) (decl : ElementDecl) : Prop where
  fields : ∀ entries : OrderedMap String Description, (reg.describeElement decl).2 = .fields entries →
    ∀ name, name ∈ entries.keys.map nameOfKey ↔ name ∈ reg.fieldNames decl
  leaf : ∀ type, (reg.describeElement decl).2 = .leaf type → reg.contentModel? decl = none

/-- All fields that the declared element is written by can be told from their keys. -/
def IsLegible (reg : SchemaRegistry) (decl : ElementDecl) : Prop :=
  ∀ ct, reg.contentModel? decl = some ct → ∀ field ∈ ct.content, field.IsLegible

variable {reg : SchemaRegistry} {decl : ElementDecl}

theorem isLegible_of_contentModel? {ct : ComplexType} (hmodel : reg.contentModel? decl = some ct)
    (h : ∀ field ∈ ct.content, field.IsLegible) : reg.IsLegible decl := by
  intro ct' hmodel'
  obtain rfl := Option.some.inj (hmodel.symm.trans hmodel')
  exact h

/-- The description has an entry for each field of the content model that counts where something is described.
Without one it is a leaf, or has no entries. -/
theorem describeElement_cases (reg : SchemaRegistry) (decl : ElementDecl) :
    (∃ ct inside, reg.contentModel? decl.described = some ct ∧
      (reg.describeElement decl).2 = .fields (OrderedMap.ofList (reg.describeContent inside ct.content))) ∨
    reg.contentModel? decl.described = none ∧
      ((∃ type, (reg.describeElement decl).2 = .leaf type) ∨ (reg.describeElement decl).2 = .empty) := by
  obtain ⟨name, occurs, typeRef, inline, owner⟩ := decl
  cases typeRef with
  | none =>
    rw [describeElement, describeDecl.eq_def]
    cases inline with
    | some ct => exact .inl ⟨ct, [], rfl, rfl⟩
    | none => exact .inr ⟨rfl, .inr rfl⟩
  | some ref =>
    rw [describeElement, describeDecl]
    simp only [ElementDecl.described, Option.isSome_some, if_true, contentModel?, Option.bind_some]
    cases hfound : reg.lookupType? owner ref with
    | none =>
      rw [describeRef_none hfound]
      exact .inr ⟨rfl, .inl ⟨ref, rfl⟩⟩
    | some found =>
      obtain ⟨type, ns⟩ := found
      cases type with
      | simple st =>
        rw [describeRef_simple hfound]
        refine .inr ⟨rfl, ?_⟩
        dsimp only [Description.ofSimple]
        split
        · exact .inl ⟨_, rfl⟩
        · exact .inr rfl
      | complex ct =>
        rw [describeRef_complex hfound List.not_mem_nil]
        exact .inl ⟨ct, _, rfl, rfl⟩

/-- The keys of a description are those of the fields. -/
theorem mem_keys_describeContent {inside : List TypeId} {fields : List ElementDecl} {name : String}
    (h : ∀ field ∈ fields, field.IsLegible) :
    name ∈ (OrderedMap.ofList (reg.describeContent inside fields)).keys.map nameOfKey ↔
      name ∈ fields.map ElementDecl.name := by
  simp only [List.mem_map, OrderedMap.mem_keys_ofList, describeContent_eq_map]
  constructor
  · rintro ⟨_, ⟨_, ⟨field, hfield, rfl⟩, rfl⟩, rfl⟩
    exact ⟨field, hfield, (ElementDecl.nameOfKey_key_eq_iff.mpr (h field hfield)).symm⟩
  · rintro ⟨field, hfield, rfl⟩
    exact ⟨field.key, ⟨_, ⟨field, hfield, rfl⟩, rfl⟩, ElementDecl.nameOfKey_key_eq_iff.mpr (h field hfield)⟩

/-- A declaration coincides with its description by what is described of it. -/
theorem coincide_described (h : reg.IsLegible decl.described) {entries : OrderedMap String Description}
    (hentries : (reg.describeElement decl).2 = .fields entries) (name : String) :
    name ∈ entries.keys.map nameOfKey ↔ name ∈ reg.fieldNames decl.described := by
  rw [fieldNames]
  rcases describeElement_cases reg decl with ⟨ct, inside, hmodel, hdescribe⟩ | ⟨hmodel, ⟨type, hleaf⟩ | hempty⟩
  · obtain rfl := Description.fields.inj (hentries.symm.trans hdescribe)
    rw [hmodel, mem_keys_describeContent (h ct hmodel)]
    rfl
  · cases hentries.symm.trans hleaf
  · obtain rfl := Description.fields.inj (hentries.symm.trans hempty)
    rw [hmodel]
    rfl

theorem describeElement_ne_absent (reg : SchemaRegistry) (decl : ElementDecl) :
    (reg.describeElement decl).2 ≠ .absent := by
  rcases describeElement_cases reg decl with ⟨_, _, -, hdescribe⟩ | ⟨-, ⟨_, hdescribe⟩ | hdescribe⟩ <;>
  · rw [hdescribe]
    exact Description.noConfusion

/-- What coincides has the same children under every name that is not taken for that of a repeatable field. -/
theorem Coincide.child?_iff (h : reg.Coincide decl) {name : String} (hname : ¬ IsMarked name) :
    ((reg.describeElement decl).2.child? name).isSome = true ↔
      ((reg.contentModel? decl).bind (·.field? name)).isSome = true := by
  cases hdescribe : (reg.describeElement decl).2 with
  | fields entries =>
    rw [Description.child?_isSome_iff hname, h.fields entries hdescribe, fieldNames]
    cases reg.contentModel? decl with
    | none => simp
    | some ct => rw [Option.bind_some, ContentModel.field?_isSome_iff, Option.map_some, Option.getD_some]
  | leaf type =>
    rw [h.leaf type hdescribe]
    rfl
  | absent => exact absurd hdescribe (describeElement_ne_absent reg decl)

/-- A declaration that does not bring both a type and a model in place coincides with its description. -/
theorem coincide_of_described_eq (h : reg.IsLegible decl.described) (hdecl : decl.described = decl) :
    reg.Coincide decl where
  fields entries hentries name := by
    rw [coincide_described h hentries, hdecl]
  leaf type hleaf := by
    rcases describeElement_cases reg decl with ⟨ct, inside, -, hdescribe⟩ | ⟨hmodel, -⟩
    · cases hleaf.symm.trans hdescribe
    · rwa [hdecl] at hmodel

/-- The description of a declaration and its content model have the same fields, provided that these can be told
from their keys, just if the declaration does not bring both a type and a model in place, or the type has fields
as well, of the same names. Wherever they have, an element in it is read by a declaration of its own if and only if
it is written by one. -/
theorem coincide_iff (h : reg.IsLegible decl.described) :
    (reg.Coincide decl ↔
      decl.typeRef = none ∨ decl.inline = none ∨
        (reg.describeElement decl).2.isLeaf = false ∧
          ∀ name, name ∈ reg.fieldNames decl.described ↔ name ∈ reg.fieldNames decl) ∧
    (reg.Coincide decl → ∀ name, ¬ IsMarked name →
      (((reg.describeElement decl).2.child? name).isSome = true ↔
        ((reg.contentModel? decl).bind (·.field? name)).isSome = true)) := by
  refine ⟨⟨fun hcoincide => ?_, ?_⟩, fun hcoincide name => hcoincide.child?_iff⟩
  · rw [← or_assoc, or_iff_not_imp_left]
    intro hboth
    cases hdescribe : (reg.describeElement decl).2 with
    | fields entries =>
      refine ⟨rfl, fun name => ?_⟩
      rw [← coincide_described h hdescribe, hcoincide.fields entries hdescribe]
    | leaf type =>
      have hmodel := hcoincide.leaf type hdescribe
      obtain ⟨ct, hinline⟩ := Option.ne_none_iff_exists'.mp (not_or.mp hboth).2
      rw [contentModel?, hinline] at hmodel
      cases hmodel
    | absent => exact absurd hdescribe (describeElement_ne_absent reg decl)
  · rintro (htype | hinline | ⟨hfields, hnames⟩)
    · exact coincide_of_described_eq h (ElementDecl.described_eq_self (.inl htype))
    · exact coincide_of_described_eq h (ElementDecl.described_eq_self (.inr hinline))
    · constructor
      · intro entries hentries name
        rw [coincide_described h hentries, hnames]
      · intro type hleaf
        rw [hleaf] at hfields
        cases hfields

/-! ### Boxes with labels -/

theorem describe_labelled (fields : List ElementDecl) :
    (boxes.describeElement (labelled (some "b:Box") fields)).2 =
      .fields [("count", .leaf "xsd:int"), ("inner", .leaf "b:Box")] := by
  rw [describeElement, labelled, describeDecl]
  exact describe_box

theorem isLegible_crate : boxes.IsLegible crateDecl.described :=
  isLegible_of_contentModel? rfl (by decide)

theorem isLegible_labelled (fields : List ElementDecl) :
    boxes.IsLegible (labelled (some "b:Box") fields).described := by
  have hmodel : boxes.contentModel? (labelled (some "b:Box") fields).described = some boxType := rfl
  exact isLegible_of_contentModel? hmodel (by decide)

/-- A crate brings its model in place, and coincides with its description. So does what is declared to be a box and
brings the fields of boxes once more, in another order. -/
theorem coincide_iff_crate :
    boxes.IsLegible crateDecl.described ∧ boxes.Coincide crateDecl ∧
    (((boxes.describeElement crateDecl).2.child? "box").isSome = true ↔
      ((boxes.contentModel? crateDecl).bind (·.field? "box")).isSome = true) ∧
    boxes.Coincide (labelled (some "b:Box") [boxDecl "inner" "xsd:int", boxDecl "count" "xsd:int"]) := by
  have hcrate := (coincide_iff isLegible_crate).1.mpr (.inl rfl)
  refine ⟨isLegible_crate, hcrate, (coincide_iff isLegible_crate).2 hcrate "box" (by decide), ?_⟩
  refine (coincide_iff (isLegible_labelled _)).1.mpr (.inr (.inr ⟨?_, fun name => ?_⟩))
  · rw [describe_labelled]
    rfl
  · show name ∈ ["count", "inner"] ↔ name ∈ ["inner", "count"]
    exact (List.Perm.swap "inner" "count" []).mem_iff

/-- Three declarations that do not coincide with their descriptions: what is declared to be a box and brings the
model of something else, what is declared to be text and brings a model, and what has a field, standing once, whose
name ends in the brackets of a repeatable one. -/
theorem not_coincide_labelled :
    ¬ boxes.Coincide (labelled (some "b:Box") [boxDecl "n" "xsd:int"]) ∧
    ¬ boxes.Coincide (labelled (some "xsd:string") [boxDecl "n" "xsd:int"]) ∧
    ¬ boxes.Coincide (labelled none [boxDecl "n[]" "xsd:int"]) := by
  refine ⟨fun h => ?_, fun h => ?_, fun h => ?_⟩
  · have hcount := (h.fields _ (describe_labelled _) "count").mp
    revert hcount
    decide
  · have hprimitive : isPrimitive (localPart "xsd:string") = true := by decide
    have hleaf : (boxes.describeElement (labelled (some "xsd:string") [boxDecl "n" "xsd:int"])).2 =
        .leaf "xsd:string" := by
      rw [describeElement, labelled, describeDecl, describeRef_isPrimitive hprimitive]
    cases h.leaf _ hleaf
  · have hint : isPrimitive (localPart "xsd:int") = true := by decide
    have hfields : (boxes.describeElement (labelled none [boxDecl "n[]" "xsd:int"])).2 =
        .fields [("n[]", .leaf "xsd:int")] := by
      rw [describeElement, labelled, describeDecl, describeContent_eq_map, List.map_singleton,
        describe_primitive hint]
      rfl
    have hn := (h.fields _ hfields "n").mp
    revert hn
    decide

end SchemaRegistry

end Soap
