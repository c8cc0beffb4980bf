import Soap.Proofs.OrderedMap
import Soap.Proofs.Text.Split
import Soap.Schema.Description

/-!
# Descriptions at any depth

A chain of fields leads from a declaration through the content models of its types (`SchemaRegistry.Chain`). As
long as no named type is entered twice, the description of the declaration follows the chain to its end
(`SchemaRegistry.follow_describeDecl`), however long it is: a type is cut only where it is already being
described. What stands at the end of the chain is then read by its own type (`SchemaRegistry.follow_scalar`).
-/

namespace Soap

/-- The description that a chain of names leads to. -/
def Description.follow : Option Description → List String → Option Description
  | s, [] => s
  | s, name :: rest => follow (s.bind (·.child? name)) rest

/-! ## Fields and their keys -/

theorem repeatedKey_injective {a b : String} (h : Description.repeatedKey a = Description.repeatedKey b) : a = b := by
  have hchars : a.toList ++ ['[', ']'] = b.toList ++ ['[', ']'] := by
    simpa [Description.repeatedKey, ← String.toList_inj, String.toList_append] using h
  exact String.toList_inj.mp (List.append_cancel_right hchars)

/-- The model has this field, and no other that could be taken for it: none of its name, and none where one name is
the other followed by the brackets of repeatable fields. -/
structure ContentModel.HasField (ct : ComplexType) (field : ElementDecl) : Prop where
  mem : field ∈ ct.content
  unique : ∀ other ∈ ct.content, other.name = field.name → other = field
  apart : ∀ other ∈ ct.content, other.name ≠ Description.repeatedKey field.name ∧
    field.name ≠ Description.repeatedKey other.name

namespace ContentModel.HasField

variable {ct : ComplexType} {field other : ElementDecl}

/-- Only a field that repeats has a key with brackets. -/
theorem eq_of_key_eq_repeatedKey (h : ct.HasField field) (hother : other ∈ ct.content)
    (hkey : other.key = Description.repeatedKey field.name) : other = field ∧ field.occurs.isRepeated = true := by
  unfold ElementDecl.key at hkey
  split at hkey
  · next hrepeated =>
    obtain rfl := h.unique other hother (repeatedKey_injective hkey)
    exact ⟨rfl, hrepeated⟩
  · exact absurd hkey (h.apart other hother).1

/-- No other field has the key of this one. -/
theorem eq_of_key_eq (h : ct.HasField field) (hother : other ∈ ct.content) (hkey : other.key = field.key) :
    other = field := by
  by_cases hrepeated : field.occurs.isRepeated = true
  · rw [ElementDecl.key.eq_1 field, if_pos hrepeated] at hkey
    exact (h.eq_of_key_eq_repeatedKey hother hkey).1
  · rw [ElementDecl.key.eq_1 field, if_neg hrepeated, ElementDecl.key] at hkey
    split at hkey
    · exact absurd hkey.symm (h.apart other hother).2
    · exact h.unique other hother hkey

end ContentModel.HasField

namespace SchemaRegistry

variable {reg : SchemaRegistry} {active : List TypeId}

/-- The fields of a model are described one by one. -/
theorem describeContent_eq_map (reg : SchemaRegistry) (active : List TypeId) (decls : List ElementDecl) :
    reg.describeContent active decls = decls.map fun decl => (decl.key, reg.describeDecl active decl) := by
  induction decls with
  | nil => rw [describeContent, List.map_nil]
  | cons decl rest ih => rw [describeContent, ih, List.map_cons]

/-- The child of a described model is the description of the field. -/
theorem child?_describeContent {ct : ComplexType} {field : ElementDecl} (h : ct.HasField field) :
    (Description.fields (OrderedMap.ofList (reg.describeContent active ct.content))).child? field.name =
      some (reg.describeDecl active field) := by
  rw [describeContent_eq_map]
  let entries := ct.content.map fun decl => (decl.key, reg.describeDecl active decl)
  have hget : (OrderedMap.ofList entries).get? field.key = some (reg.describeDecl active field) := by
    apply OrderedMap.get?_ofList_of_unique
    · exact List.mem_map.mpr ⟨field, h.mem, rfl⟩
    · intro entry hentry hkey
      obtain ⟨other, hother, rfl⟩ := List.mem_map.mp hentry
      rw [h.eq_of_key_eq hother hkey]
  show ((OrderedMap.ofList entries).get? (Description.repeatedKey field.name) <|>
    (OrderedMap.ofList entries).get? field.name) = _
  by_cases hrepeated : field.occurs.isRepeated = true
  · rw [ElementDecl.key, if_pos hrepeated] at hget
    rw [hget]
    rfl
  · have hnone : (OrderedMap.ofList entries).get? (Description.repeatedKey field.name) = none := by
      rw [OrderedMap.get?_eq_none_iff, OrderedMap.mem_keys_ofList]
      intro hmem
      obtain ⟨entry, hentry, hkey⟩ := List.mem_map.mp hmem
      obtain ⟨other, hother, rfl⟩ := List.mem_map.mp hentry
      exact hrepeated (h.eq_of_key_eq_repeatedKey hother hkey).2
    rw [ElementDecl.key, if_neg hrepeated] at hget
    rw [hnone, hget]
    rfl

/-! ## Chains of fields -/

/-- The content model of a declaration and the named type that is entered with it, if it is one. A declaration that
refers to a type has that type and no other. -/
inductive Opens (reg : SchemaRegistry) (decl : ElementDecl) : List TypeId → ComplexType → Prop where
  | named {ref ns : String} {ct : ComplexType} (htype : decl.typeRef = some ref)
      (hfound : reg.lookupType? decl.owner ref = some (.complex ct, ns)) : Opens reg decl [(ns, localPart ref)] ct
  | inline {ct : ComplexType} (htype : decl.typeRef = none) (hinline : decl.inline = some ct) : Opens reg decl [] ct

/-- The fields of these names lead from one declaration to another, through these named types. -/
inductive Chain (reg : SchemaRegistry) : ElementDecl → List String → List TypeId → ElementDecl → Prop where
  | here (decl : ElementDecl) : Chain reg decl [] [] decl
  | field {decl field target : ElementDecl} {names : List String} {ids entered : List TypeId} {ct : ComplexType}
      (hopens : reg.Opens decl ids ct) (hfield : ct.HasField field) (hrest : Chain reg field names entered target) :
      Chain reg decl (field.name :: names) (ids ++ entered) target

/-- Built-in types are not looked up. -/
theorem not_isPrimitive_of_lookupType? {owner : Option String} {ref : String} {found : TypeDef × String}
    (h : reg.lookupType? owner ref = some found) : ¬ isPrimitive (localPart ref) = true := by
  intro hprimitive
  have hnone : reg.lookupType? owner ref = none := by
    rw [lookupType?]
    exact if_pos hprimitive
  rw [hnone] at h
  cases h

/-- A reference to a complex type that is not being described is described by the type's content model. -/
theorem describeRef_complex {owner : Option String} {ref ns : String} {ct : ComplexType}
    (h : reg.lookupType? owner ref = some (.complex ct, ns)) (hnew : (ns, localPart ref) ∉ active) :
    reg.describeRef active owner ref =
      .fields (OrderedMap.ofList (reg.describeContent ((ns, localPart ref) :: active) ct.content)) := by
  rw [describeRef, if_neg (not_isPrimitive_of_lookupType? h)]
  split
  · next ct' ns' h' =>
    obtain ⟨hct, rfl⟩ := Prod.mk.inj (Option.some.inj (h.symm.trans h'))
    obtain rfl := TypeDef.complex.inj hct
    rw [dif_neg hnew]
  · next h' => cases h.symm.trans h'
  · next h' => cases h.symm.trans h'

/-- A reference to a simple type is described by the type, wherever it stands. -/
theorem describeRef_simple {owner : Option String} {ref ns : String} {st : SimpleType}
    (h : reg.lookupType? owner ref = some (.simple st, ns)) : reg.describeRef active owner ref = .ofSimple st := by
  rw [describeRef, if_neg (not_isPrimitive_of_lookupType? h)]
  split
  · next h' => cases h.symm.trans h'
  · next st' ns' h' =>
    obtain ⟨hst, -⟩ := Prod.mk.inj (Option.some.inj (h.symm.trans h'))
    rw [TypeDef.simple.inj hst]
  · next h' => cases h.symm.trans h'

theorem Opens.describeDecl_eq {decl : ElementDecl} {ids : List TypeId} {ct : ComplexType}
    (h : reg.Opens decl ids ct) (hnew : ∀ id ∈ ids, id ∉ active) :
    reg.describeDecl active decl = .fields (OrderedMap.ofList (reg.describeContent (ids ++ active) ct.content)) := by
  obtain ⟨_, _, typeRef, inline, owner⟩ := decl
  cases h with
  | named htype hfound =>
    obtain rfl : typeRef = _ := htype
    rw [describeDecl]
    exact describeRef_complex hfound (hnew _ (List.mem_singleton_self _))
  | inline htype hinline =>
    obtain rfl : typeRef = none := htype
    obtain rfl : inline = some ct := hinline
    rw [describeDecl]
    rfl

/-- A description follows every chain that enters no named type twice, and none that is being described. -/
theorem follow_describeDecl (active : List TypeId) {decl target : ElementDecl} {names : List String}
    {entered : List TypeId} (h : reg.Chain decl names entered target) (hnodup : entered.Nodup) (hnew : ∀ id ∈ entered, id ∉ active) :
    ∃ inside, Description.follow (some (reg.describeDecl active decl)) names =
      some (reg.describeDecl inside target) := by
  induction h generalizing active with
  | here decl => exact ⟨active, rfl⟩
  | @field decl field target names ids entered ct hopens hfield hrest ih =>
    obtain ⟨-, hlater, hapart⟩ := List.nodup_append.mp hnodup
    have hids : ∀ id ∈ ids, id ∉ active := fun id hid => hnew id (List.mem_append_left _ hid)
    have hinside : ∀ id ∈ entered, id ∉ ids ++ active := by
      intro id hid hmem
      rcases List.mem_append.mp hmem with hmem | hmem
      · exact hapart id hmem id hid rfl
      · exact hnew id (List.mem_append_right _ hid) hmem
    obtain ⟨inside, hfollow⟩ := ih _ hlater hinside
    refine ⟨inside, ?_⟩
    rw [Description.follow, hopens.describeDecl_eq hids, Option.bind_some, child?_describeContent hfield]
    exact hfollow

/-! ## Scalars at the end -/

/-- The text of the declared element is a scalar of this kind: its type is built in, or restricts one. -/
inductive IsScalar (reg : SchemaRegistry) (decl : ElementDecl) : ScalarKind → Prop where
  | primitive {ref : String} (htype : decl.typeRef = some ref) (hprimitive : isPrimitive (localPart ref) = true)
      (hplain : '|' ∉ ref.toList) : IsScalar reg decl (.ofTypeName (localPart ref))
  | restricted {ref ns base : String} {st : SimpleType} {values : List String} (htype : decl.typeRef = some ref)
      (hfound : reg.lookupType? decl.owner ref = some (.simple st, ns))
      (hrestricts : st.restriction = some { base := some base, values }) (hplain : '|' ∉ base.toList) :
      IsScalar reg decl (.ofTypeName (localPart base))

theorem separators_of_plain {ref : String} (hplain : '|' ∉ ref.toList) : ∀ c ∈ ref.toList, (c == '|') = false := by
  intro c hc
  rw [beq_eq_false_iff_ne]
  rintro rfl
  exact hplain hc

/-- A leaf is of the kind that the local name of its type has. -/
theorem scalarKind?_leaf {ref : String} (hplain : '|' ∉ ref.toList) :
    (Description.leaf ref).scalarKind? = some (.ofTypeName (localPart ref)) := by
  have hbefore := Text.before_eq_self (separators_of_plain hplain)
  show some (ScalarKind.ofTypeName (localPart (String.ofList (Text.before (· == '|') ref.toList)))) = _
  rw [hbefore, String.ofList_toList]

/-- The values that are listed behind a type do not count. -/
theorem scalarKind?_listed {base : String} (hplain : '|' ∉ base.toList) (values : String) :
    (Description.leaf (base ++ "|" ++ values)).scalarKind? = some (.ofTypeName (localPart base)) := by
  have hchars : (base ++ "|" ++ values).toList = base.toList ++ '|' :: values.toList := by
    simp [String.toList_append]
  have hbefore := Text.before_append (separators_of_plain hplain) (beq_self_eq_true '|') values.toList
  show some (ScalarKind.ofTypeName (localPart (String.ofList (Text.before (· == '|') _)))) = _
  rw [hchars, hbefore, String.ofList_toList]

/-- A scalar is described as a leaf of its kind, whatever is being described. -/
theorem IsScalar.describeDecl_eq (active : List TypeId) {decl : ElementDecl} {kind : ScalarKind}
    (h : reg.IsScalar decl kind) : ∃ type, reg.describeDecl active decl = .leaf type ∧ (Description.leaf type).scalarKind? = some kind := by
  obtain ⟨_, _, typeRef, inline, owner⟩ := decl
  cases h with
  | @primitive ref htype hprimitive hplain =>
    obtain rfl : typeRef = some ref := htype
    refine ⟨ref, ?_, scalarKind?_leaf hplain⟩
    rw [describeDecl, describeRef, if_pos hprimitive]
  | @restricted ref ns base st values htype hfound hrestricts hplain =>
    obtain rfl : typeRef = some ref := htype
    refine ⟨base ++ "|" ++ ",".intercalate values, ?_, ?_⟩
    · rw [describeDecl, describeRef_simple hfound, Description.ofSimple, hrestricts]
    · exact scalarKind?_listed hplain _

/-- A chain that enters no named type twice leads to a leaf, of the kind of the scalar at its end. -/
theorem follow_scalar {decl target : ElementDecl} {names : List String} {entered : List TypeId} {kind : ScalarKind}
    (h : reg.Chain decl names entered target) (hnodup : entered.Nodup) (hscalar : reg.IsScalar target kind) :
    ∃ type, Description.follow (some (reg.describeElement decl).2) names = some (.leaf type) ∧
      (Description.leaf type).scalarKind? = some kind := by
  obtain ⟨inside, hfollow⟩ := follow_describeDecl [] h hnodup fun _ _ => List.not_mem_nil
  obtain ⟨type, hdescribe, hkind⟩ := hscalar.describeDecl_eq inside
  refine ⟨type, ?_, hkind⟩
  rw [hdescribe] at hfollow
  exact hfollow

end SchemaRegistry

end Soap
