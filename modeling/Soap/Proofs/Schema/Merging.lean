import Soap.Proofs.Definitions.Coverage
import Soap.Proofs.Definitions.Scoping

/-!
# What merging leaves of references

Two documents for one namespace are merged into one, with one list of prefixes: where both bind a prefix, the
binding of the first stays (`SchemaDocument.namespaces_extend`). A reference of either document is looked up in
the namespace that it was looked up in before, just if the other document does not come first with a binding of
its own for the prefix (`SchemaRegistry.merge_keeps_references`). If it does, the reference may come to mean
something else (`SchemaRegistry.fruit_is_mistaken`).
-/

namespace Soap

namespace SchemaDocument

variable {doc other : SchemaDocument} {name : String} {found : TypeDef}

/-! ## Merged documents -/

/-- Where both documents bind a prefix, the binding of the first stays. -/
theorem namespaces_extend (doc other : SchemaDocument) (name : String) :
    (doc.extend other).namespaces.get? name = (doc.namespaces.get? name <|> other.namespaces.get? name) :=
  OrderedMap.get?_foldl_insertNew doc.namespaces other.namespaces name

/-- A document names no two types of one kind alike. -/
structure HasDistinctNames (doc : SchemaDocument) : Prop where
  complexTypes : doc.complexTypes.keys.Nodup
  simpleTypes : doc.simpleTypes.keys.Nodup

theorem HasDistinctNames.addChild (h : doc.HasDistinctNames) (child : Node) :
    (doc.addChild child).HasDistinctNames := by
  unfold SchemaDocument.addChild
  dsimp only
  split
  · exact h
  split
  · exact ⟨h.complexTypes, h.simpleTypes⟩
  · exact ⟨h.complexTypes, h.simpleTypes⟩
  · exact ⟨OrderedMap.nodup_insert h.complexTypes _ _, h.simpleTypes⟩
  · split
    · exact ⟨h.complexTypes, h.simpleTypes⟩
    · exact h
  · exact ⟨h.complexTypes, OrderedMap.nodup_insert h.simpleTypes _ _⟩
  · exact h

/-- Documents that are read do so. -/
theorem hasDistinctNames_ofNode (n : Node) : (ofNode n).HasDistinctNames := by
  have hfold : ∀ (children : List Node) (doc : SchemaDocument), doc.HasDistinctNames →
      (children.foldl SchemaDocument.addChild doc).HasDistinctNames := by
    intro children
    induction children with
    | nil => exact fun _ h => h
    | cons child rest ih => exact fun doc h => ih _ (h.addChild child)
  exact hfold _ _ ⟨List.nodup_nil, List.nodup_nil⟩

theorem HasDistinctNames.adopt (h : doc.HasDistinctNames) (ns : String) : (doc.adopt ns).HasDistinctNames where
  complexTypes := by
    show (doc.complexTypes.mapValues fun ct => { ct with content := allOwnedBy ns ct.content }).keys.Nodup
    rw [OrderedMap.keys_mapValues]
    exact h.complexTypes
  simpleTypes := h.simpleTypes

theorem HasDistinctNames.extend (h : doc.HasDistinctNames) (other : SchemaDocument) :
    (doc.extend other).HasDistinctNames where
  complexTypes := OrderedMap.nodup_extend h.complexTypes other.complexTypes
  simpleTypes := OrderedMap.nodup_extend h.simpleTypes other.simpleTypes

theorem type?_isSome_iff :
    (doc.type? name).isSome = true ↔ name ∈ doc.complexTypes.keys ∨ name ∈ doc.simpleTypes.keys := by
  unfold type?
  rw [← OrderedMap.get?_isSome_iff, ← OrderedMap.get?_isSome_iff]
  cases doc.complexTypes.get? name with
  | some ct => exact ⟨fun _ => .inl rfl, fun _ => rfl⟩
  | none => simp

/-- What covers a document has types of the names of its own. -/
theorem IsCoveredBy.type?_isSome (h : doc.IsCoveredBy other) (hfound : (doc.type? name).isSome = true) :
    (other.type? name).isSome = true := by
  rw [type?_isSome_iff] at hfound ⊢
  exact hfound.imp (fun hname => h.complexTypes hname) (fun hname => h.simpleTypes hname)

/-- The type that the second document has by a name is the merged one's, except that a simple one stands behind a
complex one. -/
theorem type?_extend_right (hnames : other.HasDistinctNames) (hfound : other.type? name = some found)
    (hvisible : ∀ st, found = .simple st → doc.complexTypes.get? name = none) :
    (doc.extend other).type? name = some found := by
  have hcomplex : (doc.extend other).complexTypes.get? name =
      (other.complexTypes.get? name <|> doc.complexTypes.get? name) := by
    show (doc.complexTypes.extend other.complexTypes).get? name = _
    rw [OrderedMap.get?_extend, OrderedMap.get?_reverse_of_nodup hnames.complexTypes]
  have hsimple : (doc.extend other).simpleTypes.get? name =
      (other.simpleTypes.get? name <|> doc.simpleTypes.get? name) := by
    show (doc.simpleTypes.extend other.simpleTypes).get? name = _
    rw [OrderedMap.get?_extend, OrderedMap.get?_reverse_of_nodup hnames.simpleTypes]
  unfold type? at hfound ⊢
  rw [hcomplex]
  split at hfound
  · next ct hct =>
    rw [hct]
    exact hfound
  · next hnone =>
    obtain ⟨st, hst, rfl⟩ := Option.map_eq_some_iff.mp hfound
    rw [hnone, hvisible st rfl, hsimple, hst]
    rfl

/-- If the document binds the prefix, then to nothing else than what it means. -/
def Concurs (doc : SchemaDocument) (name : String) (meaning : Option String) : Prop :=
  ∀ uri, doc.namespaces.get? name = some uri → meaning = some uri

/-- A binding that comes first changes nothing just if the document concurs. -/
theorem concurs_iff (doc : SchemaDocument) (name : String) (meaning : Option String) :
    doc.Concurs name meaning ↔ (doc.namespaces.get? name <|> meaning) = meaning := by
  unfold Concurs
  cases doc.namespaces.get? name with
  | none => exact ⟨fun _ => rfl, fun _ _ h => nomatch h⟩
  | some uri =>
    constructor
    · exact fun h => (h uri rfl).symm
    · rintro h _ ⟨⟩
      exact h.symm

end SchemaDocument

namespace SchemaRegistry

variable {reg : SchemaRegistry} {ns : String} {doc other : SchemaDocument} {decl : ElementDecl} {owner : Option String}
  {ref : String}

/-! ## References in a registry -/

theorem lookupType?_eq (reg : SchemaRegistry) (owner : Option String) (ref : String) : reg.lookupType? owner ref =
    if isPrimitive (localPart ref) = true then none
    else (reg.resolvePrefix? owner (prefixOf ref)).bind fun ns =>
      (reg.get? ns).bind fun doc => (doc.type? (localPart ref)).map fun type => (type, ns) := by
  unfold lookupType? prefixOf
  dsimp only
  refine if_congr Iff.rfl rfl ?_
  cases reg.resolvePrefix? owner (QName.parse ref).qualifierOrDefault with
  | none => rfl
  | some ns =>
    dsimp only [Option.bind_some]
    cases reg.get? ns <;> rfl

theorem lookupType?_eq_some_iff {type : TypeDef} : reg.lookupType? owner ref = some (type, ns) ↔
    ¬ isPrimitive (localPart ref) = true ∧ reg.resolvePrefix? owner (prefixOf ref) = some ns ∧
      ∃ doc, reg.get? ns = some doc ∧ doc.type? (localPart ref) = some type := by
  rw [lookupType?_eq]
  constructor
  · intro h
    split at h
    · cases h
    next hprimitive =>
    obtain ⟨ns', huri, hget⟩ := Option.bind_eq_some_iff.mp h
    obtain ⟨doc, hdoc, hmap⟩ := Option.bind_eq_some_iff.mp hget
    obtain ⟨type', htype, heq⟩ := Option.map_eq_some_iff.mp hmap
    obtain ⟨rfl, rfl⟩ := Prod.mk.inj heq
    exact ⟨hprimitive, huri, doc, hdoc, htype⟩
  · rintro ⟨hprimitive, huri, doc, hdoc, htype⟩
    rw [if_neg hprimitive, huri, Option.bind_some, hdoc, Option.bind_some, htype]
    rfl

/-! ## References before and after -/

/-- The URI of a prefix in the document of its owner, or in that of another one. -/
theorem resolvePrefix?_insert (reg : SchemaRegistry) (ns : String) (doc : SchemaDocument) (owner : Option String)
    (name : String) : (reg.insert ns doc).resolvePrefix? owner name =
      if owner = some ns then
        (doc.namespaces.get? name <|> reg.namespaces.get? name <|> if name = "" then some ns else none)
      else reg.resolvePrefix? owner name := by
  split
  · next howner =>
    subst howner
    exact resolvePrefix?_some ((get?_insert reg ns ns doc).trans (if_pos rfl)) name
  · next howner =>
    cases owner with
    | none => rfl
    | some k =>
      have hget : (reg.insert ns doc).get? k = reg.get? k :=
        (get?_insert reg ns k doc).trans (if_neg fun h => howner (congrArg some h.symm))
      unfold resolvePrefix?
      rw [Option.bind_some, Option.bind_some, hget]
      rfl

/-- The registry in which `other` is merged into `doc`. -/
def merging (reg : SchemaRegistry) (ns : String) (doc other : SchemaDocument) : SchemaRegistry :=
  (reg.insert ns doc).merge ns other

/-- What is registered for `ns` then is one document. -/
theorem get?_merging (reg : SchemaRegistry) (ns : String) (doc other : SchemaDocument) (n : String) :
    (reg.merging ns doc other).get? n = if ns = n then some (doc.extend other) else reg.get? n := by
  rw [merging, get?_merge, get?_insert, if_pos rfl, get?_insert]
  split <;> rfl

theorem resolvePrefix?_merging (reg : SchemaRegistry) (ns : String) (doc other : SchemaDocument)
    (owner : Option String) (name : String) : (reg.merging ns doc other).resolvePrefix? owner name =
      (reg.insert ns (doc.extend other)).resolvePrefix? owner name := by
  have hget : (reg.merging ns doc other).get? = (reg.insert ns (doc.extend other)).get? := by
    funext n
    rw [get?_merging, get?_insert]
  have hnamespaces : (reg.merging ns doc other).namespaces = reg.namespaces := by
    rw [merging, merge, get?_insert, if_pos rfl]
    rfl
  unfold resolvePrefix?
  rw [hget, hnamespaces]
  rfl

/-- A reference is looked up in the same namespace after a merge as before, and what was found there is there. -/
structure KeepsReference (before after : SchemaRegistry) (decl : ElementDecl) (ref : String) : Prop where
  namespace_eq : after.resolvePrefix? decl.owner (prefixOf ref) = before.resolvePrefix? decl.owner (prefixOf ref)
  found : ∀ type n, before.lookupType? decl.owner ref = some (type, n) →
    ∃ type', after.lookupType? decl.owner ref = some (type', n)

/-- Where the merged document has a type of each name that the one before had, the namespace is all that counts. -/
theorem keepsReference_iff {before : SchemaDocument} (hcovered : before.IsCoveredBy (doc.extend other)) :
    KeepsReference (reg.insert ns before) (reg.merging ns doc other) decl ref ↔
      (reg.merging ns doc other).resolvePrefix? decl.owner (prefixOf ref) =
        (reg.insert ns before).resolvePrefix? decl.owner (prefixOf ref) := by
  refine ⟨KeepsReference.namespace_eq, fun hnamespace => ⟨hnamespace, fun type n hfound => ?_⟩⟩
  obtain ⟨hprimitive, huri, existing, hget, htype⟩ := lookupType?_eq_some_iff.mp hfound
  have hafter : ∃ existing', (reg.merging ns doc other).get? n = some existing' ∧ existing.IsCoveredBy existing' := by
    rw [get?_merging]
    rw [get?_insert] at hget
    split
    · next hns =>
      rw [if_pos hns] at hget
      obtain rfl := Option.some.inj hget
      exact ⟨_, rfl, hcovered⟩
    · next hns =>
      rw [if_neg hns] at hget
      exact ⟨existing, hget, .refl existing⟩
  obtain ⟨existing', hget', hexisting⟩ := hafter
  obtain ⟨type', htype'⟩ := Option.isSome_iff_exists.mp
    (hexisting.type?_isSome (Option.isSome_iff_exists.mpr ⟨type, htype⟩))
  exact ⟨type', lookupType?_eq_some_iff.mpr ⟨hprimitive, hnamespace.trans huri, existing', hget', htype'⟩⟩

/-- The bindings of the first document stay what they are, and new ones must not change what a prefix meant that
it does not bind. -/
theorem keepsReference_left_iff : KeepsReference (reg.insert ns doc) (reg.merging ns doc other) decl ref ↔
    decl.owner ≠ some ns ∨ (doc.namespaces.get? (prefixOf ref)).isSome = true ∨
      other.Concurs (prefixOf ref) ((reg.insert ns doc).resolvePrefix? decl.owner (prefixOf ref)) := by
  rw [keepsReference_iff (doc.isCoveredBy_extend other), resolvePrefix?_merging, resolvePrefix?_insert,
    resolvePrefix?_insert]
  by_cases howner : decl.owner = some ns
  · rw [if_pos howner, if_pos howner, SchemaDocument.namespaces_extend, SchemaDocument.concurs_iff]
    cases doc.namespaces.get? (prefixOf ref) with
    | some uri => exact ⟨fun _ => .inr (.inl rfl), fun _ => rfl⟩
    | none => exact ⟨fun h => .inr (.inr h), fun h => (h.resolve_left (absurd howner)).resolve_left Bool.false_ne_true⟩
  · rw [if_neg howner, if_neg howner]
    exact ⟨fun _ => .inl howner, fun _ => rfl⟩

/-- The bindings of the first document must not change what a prefix meant in the second. -/
theorem keepsReference_right_iff : KeepsReference (reg.insert ns other) (reg.merging ns doc other) decl ref ↔
    decl.owner ≠ some ns ∨
      doc.Concurs (prefixOf ref) ((reg.insert ns other).resolvePrefix? decl.owner (prefixOf ref)) := by
  rw [keepsReference_iff (doc.isCoveredBy_extend_right other), resolvePrefix?_merging, resolvePrefix?_insert,
    resolvePrefix?_insert]
  by_cases howner : decl.owner = some ns
  · rw [if_pos howner, if_pos howner, SchemaDocument.namespaces_extend, SchemaDocument.concurs_iff]
    cases doc.namespaces.get? (prefixOf ref) <;> exact ⟨.inr, fun h => h.resolve_left (absurd howner)⟩
  · rw [if_neg howner, if_neg howner]
    exact ⟨fun _ => .inl howner, fun _ => rfl⟩

/-- A reference that is looked up in `ns` after the merge finds what the second document has by its name, unless a
simple type stands behind a complex one. -/
theorem lookupType?_merging (hnames : other.HasDistinctNames) {type : TypeDef}
    (huri : (reg.merging ns doc other).resolvePrefix? owner (prefixOf ref) = some ns)
    (hprimitive : ¬ isPrimitive (localPart ref) = true) (htype : other.type? (localPart ref) = some type)
    (hvisible : ∀ st, type = .simple st → doc.complexTypes.get? (localPart ref) = none) :
    (reg.merging ns doc other).lookupType? owner ref = some (type, ns) := by
  have hget : (reg.merging ns doc other).get? ns = some (doc.extend other) :=
    (get?_merging reg ns doc other ns).trans (if_pos rfl)
  have htype' := SchemaDocument.type?_extend_right hnames htype hvisible
  exact lookupType?_eq_some_iff.mpr ⟨hprimitive, huri, _, hget, htype'⟩

/-- Whatever is declared after `other` is merged into `doc` is declared by one of them. Its reference means what it
meant with its own document alone, just if it is not looked up with their prefixes or the other document leaves its
prefix alone: for a declaration of the second document the first must not bind the prefix to anything else, and for
one of the first neither must the second, unless the first binds it itself. What a declaration of the second document
looks up in their namespace is what that document has by this name. -/
theorem merge_keeps_references (reg : SchemaRegistry) (ns : String) (doc other : SchemaDocument)
    (hnames : other.HasDistinctNames) (decl : ElementDecl) (hpresent : (doc.extend other).Declares decl) :
    (doc.Declares decl ∨ other.Declares decl) ∧
      (doc.Declares decl → ∀ ref, decl.typeRef = some ref →
        (KeepsReference (reg.insert ns doc) (reg.merging ns doc other) decl ref ↔
          decl.owner ≠ some ns ∨ (doc.namespaces.get? (prefixOf ref)).isSome = true ∨
            other.Concurs (prefixOf ref) ((reg.insert ns doc).resolvePrefix? decl.owner (prefixOf ref)))) ∧
      (other.Declares decl → ∀ ref, decl.typeRef = some ref →
        (KeepsReference (reg.insert ns other) (reg.merging ns doc other) decl ref ↔
          decl.owner ≠ some ns ∨
            doc.Concurs (prefixOf ref) ((reg.insert ns other).resolvePrefix? decl.owner (prefixOf ref))) ∧
        ∀ type, (reg.merging ns doc other).resolvePrefix? decl.owner (prefixOf ref) = some ns →
          ¬ isPrimitive (localPart ref) = true → other.type? (localPart ref) = some type →
          (∀ st, type = .simple st → doc.complexTypes.get? (localPart ref) = none) →
          (reg.merging ns doc other).lookupType? decl.owner ref = some (type, ns)) := by
  refine ⟨hpresent.of_extend, fun _ ref _ => keepsReference_left_iff, fun _ ref _ => ⟨keepsReference_right_iff, ?_⟩⟩
  intro type huri hprimitive htype hvisible
  exact lookupType?_merging hnames huri hprimitive htype hvisible

/-! ### Two shops that call different things fruit -/

/-- A declaration of the shop's namespace. -/
def fruitElement (name ref : String) : ElementDecl :=
  { name, occurs := ⟨none, none⟩, typeRef := some ref, inline := none, owner := some "urn:shop" }

def fruitType (part : ElementDecl) : ComplexType := { name := some "Fruit", content := [part] }

def stemOfPear : ElementDecl := { fruitElement "stem" "xsd:string" with owner := some "urn:pear" }

def coreOfApple : ElementDecl := { fruitElement "core" "xsd:int" with owner := some "urn:apple" }

/-- Pears and apples are called fruit in their own namespaces. -/
def fruits : SchemaRegistry :=
  { schemas := [
      ("urn:pear", { targetNamespace := some "urn:pear", complexTypes := [("Fruit", fruitType stemOfPear)] }),
      ("urn:apple", { targetNamespace := some "urn:apple", complexTypes := [("Fruit", fruitType coreOfApple)] })] }

/-- Here fruit is a pear. -/
def basket : SchemaDocument :=
  { targetNamespace := some "urn:shop"
    namespaces := [("f", "urn:pear")]
    elements := [("first", fruitElement "first" "f:Fruit")] }

/-- Here fruit is an apple, and a box is what is declared here. -/
def crate : SchemaDocument :=
  { targetNamespace := some "urn:shop"
    namespaces := [("f", "urn:apple")]
    simpleTypes := [("Box", { name := "Box", restriction := none })]
    elements := [("second", fruitElement "second" "f:Fruit"), ("box", fruitElement "box" "Box")] }

/-- With the crate in the basket, the fruit of the basket is still a pear, and the box of the crate is its own. -/
theorem merge_keeps_references_basket :
    KeepsReference (fruits.insert "urn:shop" basket) (fruits.merging "urn:shop" basket crate)
        (fruitElement "first" "f:Fruit") "f:Fruit" ∧
      (fruits.merging "urn:shop" basket crate).lookupType? (some "urn:shop") "Box" =
        some (.simple { name := "Box", restriction := none }, "urn:shop") := by
  have hnames : crate.HasDistinctNames := ⟨List.nodup_nil, by decide⟩
  have hfirst : (basket.extend crate).Declares (fruitElement "first" "f:Fruit") :=
    .element (e := ("first", _)) List.mem_cons_self
  have hbox : (basket.extend crate).Declares (fruitElement "box" "Box") :=
    .element (e := ("box", _)) (List.mem_cons_of_mem _ (List.mem_cons_of_mem _ List.mem_cons_self))
  have hbasket : basket.Declares (fruitElement "first" "f:Fruit") := .element (e := ("first", _)) List.mem_cons_self
  have hcrate : crate.Declares (fruitElement "box" "Box") :=
    .element (e := ("box", _)) (List.mem_cons_of_mem _ List.mem_cons_self)
  constructor
  · have hkept := (merge_keeps_references fruits "urn:shop" basket crate hnames _ hfirst).2.1 hbasket _ rfl
    exact hkept.mpr (.inr (.inl rfl))
  · have hown := ((merge_keeps_references fruits "urn:shop" basket crate hnames _ hbox).2.2 hcrate _ rfl).2
    exact hown _ rfl (by decide) rfl fun _ _ => rfl

/-- The fruit of the crate, which is an apple with the crate alone, is a pear with the crate in the basket. -/
theorem fruit_is_mistaken :
    crate.Declares (fruitElement "second" "f:Fruit") ∧
      (basket.extend crate).Declares (fruitElement "second" "f:Fruit") ∧
      (fruits.insert "urn:shop" crate).lookupType? (some "urn:shop") "f:Fruit" =
        some (.complex (fruitType coreOfApple), "urn:apple") ∧
      (fruits.merging "urn:shop" basket crate).lookupType? (some "urn:shop") "f:Fruit" =
        some (.complex (fruitType stemOfPear), "urn:pear") := by
  refine ⟨.element (e := ("second", _)) List.mem_cons_self,
    .element (e := ("second", _)) (List.mem_cons_of_mem _ List.mem_cons_self), rfl, rfl⟩

end SchemaRegistry

end Soap
