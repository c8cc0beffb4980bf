import Mathlib.Data.List.Forall2
import Soap.Proofs.Namespace.Bijection

/-!
# Qualified elements

While a document is written, its tags are put down one by one and the table of prefixes grows with them. What
is written first has to hold of the table as it is in the end, because that is what the root of the envelope
declares. It does: a prefix that was handed out keeps its namespace (`NamespaceTable.Extends`), so every
element carries the prefix that its namespace has in the final table
(`encodeDocument_qualifies`). The elements and the namespaces they belong to are told from the value and its
declaration alone, without any table (`ownedNames`).
-/

namespace Soap

open Xml (Markup)

/-! ## Elements and their namespaces -/

/-- The name of an element, and the namespace that the element belongs to, if any. -/
structure OwnedName where
  name : String
  space : Option String
deriving DecidableEq, Repr

/-- The namespace of an element: that which owns its declaration. An element without a declaration, or whose
declaration has no owner, belongs to the namespace of the element around it. -/
def owningSpace (decl : Option ElementDecl) (parent : Option String) : Option String :=
  match decl with
  | none => parent
  | some d =>
    match d.owner with
    | none => parent
    | some owner => some owner

theorem elementSpace_eq (decl : Option ElementDecl) (parent : Option String) :
    elementSpace decl parent = owningSpace decl parent := by
  cases decl with
  | none => rfl
  | some d =>
    show (d.owner <|> parent) = owningSpace (some d) parent
    obtain ⟨_, _, _, _, owner⟩ := d
    cases owner <;> rfl

section

variable (reg : SchemaRegistry)

mutual

/-- The elements that a value is written as, in the order of their start tags: `null` is not written, a list
is one element for each item, and the fields of an object are declared by its content model. -/
def ownedNames (name : String) (decl : Option ElementDecl) (parent : Option String) : Value → List OwnedName
  | .null => []
  | .list items => ownedNamesOfItems name decl parent items
  | .object fields =>
    ⟨name, owningSpace decl parent⟩ :: ownedNamesOfFields (decl.bind reg.contentModel?) (owningSpace decl parent) fields
  | .string _ | .int _ | .float _ | .bool _ | .dateTime _ => [⟨name, owningSpace decl parent⟩]

def ownedNamesOfItems (name : String) (decl : Option ElementDecl) (parent : Option String) :
    List Value → List OwnedName
  | [] => []
  | item :: rest => ownedNames name decl parent item ++ ownedNamesOfItems name decl parent rest

def ownedNamesOfFields (model : Option ComplexType) (space : Option String) : List (String × Value) → List OwnedName
  | [] => []
  | (key, v) :: rest => ownedNames key (model.bind (·.field? key)) space v ++ ownedNamesOfFields model space rest

end

end

/-! ## Start tags -/

namespace Xml.Markup

mutual

/-- The start tags of a piece, in document order. -/
def startTags : Markup → List String
  | .text _ => []
  | .element tag _ content => tag :: startTagsAll content

def startTagsAll : List Markup → List String
  | [] => []
  | piece :: rest => startTags piece ++ startTagsAll rest

end

theorem startTagsAll_append (a b : List Markup) : startTagsAll (a ++ b) = startTagsAll a ++ startTagsAll b := by
  induction a with
  | nil => rfl
  | cons piece rest ih => rw [List.cons_append, startTagsAll, startTagsAll, ih, List.append_assoc]

theorem startTagsAll_plain (tag : String) (content : List Markup) :
    startTagsAll [.plain tag content] = tag :: startTagsAll content := by
  simp [plain, startTagsAll, startTags]

/-- A scalar is written without tags. -/
theorem startTagsAll_text (text? : Option String) : startTagsAll (text?.map Markup.text).toList = [] := by
  cases text? <;> rfl

end Xml.Markup

open Xml.Markup (startTagsAll startTagsAll_append startTagsAll_plain startTagsAll_text)

/-! ## Tags, one by one -/

/-- The tags of several elements, one qualified after the other. -/
def qualifyAll (t : NamespaceTable) : List OwnedName → List String × NamespaceTable
  | [] => ([], t)
  | e :: rest =>
    let (tag, t) := qualify t e.space e.name
    let (tags, t) := qualifyAll t rest
    (tag :: tags, t)

theorem qualifyAll_cons (t : NamespaceTable) (e : OwnedName) (rest : List OwnedName) :
    qualifyAll t (e :: rest) =
      ((qualify t e.space e.name).1 :: (qualifyAll (qualify t e.space e.name).2 rest).1,
        (qualifyAll (qualify t e.space e.name).2 rest).2) := rfl

theorem qualifyAll_append (t : NamespaceTable) (a b : List OwnedName) :
    qualifyAll t (a ++ b) =
      ((qualifyAll t a).1 ++ (qualifyAll (qualifyAll t a).2 b).1, (qualifyAll (qualifyAll t a).2 b).2) := by
  induction a generalizing t with
  | nil => rfl
  | cons e rest ih => rw [List.cons_append, qualifyAll_cons, qualifyAll_cons, ih, List.cons_append]

section

variable (reg : SchemaRegistry)

mutual

/-- Writing a value asks for prefixes in the order of the start tags. -/
theorem startTags_encodeElement (t : NamespaceTable) (name : String) (decl : Option ElementDecl)
    (parent : Option String) (v : Value) :
    (startTagsAll (encodeElement reg t name decl parent v).1, (encodeElement reg t name decl parent v).2) =
      qualifyAll t (ownedNames reg name decl parent v) := by
  have hspace := elementSpace_eq decl parent
  match v with
  | .null => rfl
  | .list items => exact startTags_encodeItems t name decl parent items
  | .object fields =>
    have hinside := startTags_encodeFields (qualify t (owningSpace decl parent) name).2 (decl.bind reg.contentModel?)
      (owningSpace decl parent) fields
    simp only [encodeElement, ownedNames, hspace, startTagsAll_plain, qualifyAll_cons, ← hinside]
  | .string _ | .int _ | .float _ | .bool _ | .dateTime _ =>
    simp only [encodeElement, ownedNames, hspace, startTagsAll_plain, startTagsAll_text, qualifyAll_cons, qualifyAll]

theorem startTags_encodeItems (t : NamespaceTable) (name : String) (decl : Option ElementDecl)
    (parent : Option String) (items : List Value) :
    (startTagsAll (encodeItems reg t name decl parent items).1, (encodeItems reg t name decl parent items).2) =
      qualifyAll t (ownedNamesOfItems reg name decl parent items) := by
  match items with
  | [] => rfl
  | item :: rest =>
    have hfirst := startTags_encodeElement t name decl parent item
    have hlater := startTags_encodeItems (encodeElement reg t name decl parent item).2 name decl parent rest
    simp only [encodeItems, ownedNamesOfItems, startTagsAll_append, qualifyAll_append, ← hfirst, ← hlater]

theorem startTags_encodeFields (t : NamespaceTable) (model : Option ComplexType) (space : Option String)
    (fields : List (String × Value)) :
    (startTagsAll (encodeFields reg t model space fields).1, (encodeFields reg t model space fields).2) =
      qualifyAll t (ownedNamesOfFields reg model space fields) := by
  match fields with
  | [] => rfl
  | (key, v) :: rest =>
    have hfirst := startTags_encodeElement t key (model.bind (·.field? key)) space v
    have hlater :=
      startTags_encodeFields (encodeElement reg t key (model.bind (·.field? key)) space v).2 model space rest
    simp only [encodeFields, ownedNamesOfFields, startTagsAll_append, qualifyAll_append, ← hfirst, ← hlater]

end

end

namespace NamespaceTable

variable {t t' t'' : NamespaceTable} {e : OwnedName} {tag : String}

/-! ## Tables that grow -/

/-- What is bound in the one table is bound in the other, and what it handed out counts as handed out there. -/
structure Extends (t t' : NamespaceTable) : Prop where
  bindings : ∀ entry ∈ t.bindings, entry ∈ t'.bindings
  used : ∀ entry ∈ t.used, entry ∈ t'.used

theorem Extends.refl (t : NamespaceTable) : t.Extends t := ⟨fun _ h => h, fun _ h => h⟩

theorem Extends.trans (h : t.Extends t') (h' : t'.Extends t'') : t.Extends t'' where
  bindings entry hentry := h'.bindings entry (h.bindings entry hentry)
  used entry hentry := h'.used entry (h.used entry hentry)

/-- A table from which a document is being written: no prefix is empty, and what was handed out is listed once
and bound. -/
structure IsInUse (t : NamespaceTable) : Prop where
  consistent : t.IsConsistent
  named : "" ∉ t.bindings.keys
  used : ∀ entry ∈ t.used, entry ∈ t.bindings
  nodup : t.used.keys.Nodup

theorem named_ofDeclarations (declarations : List (String × String)) :
    "" ∉ (ofDeclarations declarations).bindings.keys := by
  suffices h : ∀ t : NamespaceTable, "" ∉ t.bindings.keys →
      "" ∉ (declarations.foldl (fun t d => if d.1 = "" then t else t.add d.1 d.2) t).bindings.keys from
    h _ (by decide)
  induction declarations with
  | nil => exact fun t ht => ht
  | cons d rest ih =>
    intro t ht
    apply ih
    show "" ∉ (if d.1 = "" then t else t.add d.1 d.2).bindings.keys
    split
    · exact ht
    · next hne =>
      intro hmem
      obtain ⟨entry, hentry, hempty⟩ := List.mem_map.mp hmem
      rcases mem_add.mp hentry with ⟨hold, -⟩ | rfl
      · exact ht (List.mem_map.mpr ⟨entry, hold, hempty⟩)
      · exact hne hempty

theorem IsInUse.ofDeclarations (declarations : List (String × String)) : (ofDeclarations declarations).IsInUse where
  consistent := .ofDeclarations declarations
  named := named_ofDeclarations declarations
  used := by simp [(ofDeclarations_fresh declarations).1]
  nodup := by simp [(ofDeclarations_fresh declarations).1]

/-- Two prefixes in use stand for two namespaces. -/
theorem IsInUse.used_injective (ht : t.IsInUse) {p q uri : String} (hp : (p, uri) ∈ t.used) (hq : (q, uri) ∈ t.used) :
    p = q := by
  have hp' := ht.consistent.prefixOf?_eq_some_iff.mpr (ht.used _ hp)
  have hq' := ht.consistent.prefixOf?_eq_some_iff.mpr (ht.used _ hq)
  exact Option.some.inj (hp'.symm.trans hq')

/-- Handing out a prefix leaves a table in use, which extends the one before. -/
theorem IsHanded.isInUse {uri name : String} (h : t.IsHanded uri name t') (ht : t.IsInUse) :
    t'.IsInUse ∧ t.Extends t' ∧ name ≠ "" ∧ (name, uri) ∈ t'.used := by
  have hconsistent := h.isConsistent ht.consistent
  have hnamed : "" ∉ t'.bindings.keys := by
    rcases h.bindings with hsame | ⟨hmore, hfree, -⟩
    · rw [hsame]
      exact ht.named
    · rw [hmore, OrderedMap.keys_append, List.mem_append]
      simp [ht.named, hfree.1, eq_comm]
  have hused : (name, uri) ∈ t'.used := by
    rw [h.used]
    exact OrderedMap.mem_of_get? (OrderedMap.get?_insert_self _ _ _)
  refine ⟨⟨hconsistent, hnamed, ?_, ?_⟩, ⟨fun _ => h.mem_of_mem, ?_⟩, ?_, hused⟩
  · intro entry hentry
    rw [h.used] at hentry
    rcases OrderedMap.mem_insert hentry with rfl | hentry
    · exact h.bound
    · exact h.mem_of_mem (ht.used entry hentry)
  · rw [h.used]
    exact OrderedMap.nodup_insert ht.nodup _ _
  · intro entry hentry
    by_cases hname : entry.1 = name
    · -- A prefix that was in use already stands for the namespace it stood for.
      have hold : t'.uri? name = some entry.2 := by
        rw [hconsistent.uri?_eq_some_iff, ← hname]
        exact h.mem_of_mem (ht.used entry hentry)
      have hnew : t'.uri? name = some uri := hconsistent.uri?_eq_some_iff.mpr h.bound
      have heq : entry = (name, uri) := Prod.ext hname (Option.some.inj (hold.symm.trans hnew))
      rwa [heq]
    · rw [h.used]
      exact OrderedMap.mem_insert_of_ne hentry hname _
  · rintro rfl
    exact hnamed (List.mem_map.mpr ⟨_, h.bound, rfl⟩)

/-! ## Qualified tags -/

/-- The tag is that of the element: the bare name if the element belongs to no namespace, else the name behind a
prefix that is bound to the namespace and was handed out for it. -/
def Qualifies (t : NamespaceTable) (e : OwnedName) (tag : String) : Prop :=
  match e.space with
  | none => tag = e.name
  | some uri => ∃ p, p ≠ "" ∧ tag = p ++ ":" ++ e.name ∧ t.uri? p = some uri ∧ (p, uri) ∈ t.used

/-- A tag stays right while the table grows. -/
theorem Qualifies.mono (h : t.Qualifies e tag) (hext : t.Extends t') (ht' : t'.IsConsistent) : t'.Qualifies e tag := by
  unfold Qualifies at h ⊢
  split at h
  · exact h
  · obtain ⟨p, hne, htag, huri, hused⟩ := h
    have hbound := hext.bindings _ (mem_of_uri? huri)
    exact ⟨p, hne, htag, ht'.uri?_eq_some_iff.mpr hbound, hext.used _ hused⟩

theorem IsInUse.qualify (ht : t.IsInUse) (e : OwnedName) :
    (Soap.qualify t e.space e.name).2.IsInUse ∧ t.Extends (Soap.qualify t e.space e.name).2 ∧
      (Soap.qualify t e.space e.name).2.Qualifies e (Soap.qualify t e.space e.name).1 := by
  obtain ⟨name, space⟩ := e
  cases space with
  | none => exact ⟨ht, .refl t, rfl⟩
  | some uri =>
    have hhanded := (handsOut_prefixFor ht.consistent.attempts uri (some preferredPrefix)).isHanded
    obtain ⟨ht', hext, hne, hused⟩ := hhanded.isInUse ht
    exact ⟨ht', hext, _, hne, rfl, ht'.consistent.uri?_eq_some_iff.mpr hhanded.bound, hused⟩

/-- All tags that were written are right for the table that is left. -/
theorem IsInUse.qualifyAll (ht : t.IsInUse) (elements : List OwnedName) :
    (Soap.qualifyAll t elements).2.IsInUse ∧ t.Extends (Soap.qualifyAll t elements).2 ∧
      List.Forall₂ (Soap.qualifyAll t elements).2.Qualifies elements (Soap.qualifyAll t elements).1 := by
  induction elements generalizing t with
  | nil => exact ⟨ht, .refl t, .nil⟩
  | cons e rest ih =>
    obtain ⟨hfirst, hext, htag⟩ := ht.qualify e
    obtain ⟨hlast, hext', htags⟩ := ih hfirst
    exact ⟨hlast, hext.trans hext', .cons (htag.mono hext' hlast.consistent) htags⟩

end NamespaceTable

/-! ## Documents -/

/-- Every element of a document is qualified by its own namespace. The table keeps the bindings it had; in the
table that is left, the prefix of each start tag is bound to the namespace of its element and in use, only
elements without a namespace have none, and no two prefixes in use share a namespace. Whatever was bound when
the first elements had been written is still bound at the end. -/
theorem encodeDocument_qualifies (reg : SchemaRegistry) (declarations : List (String × String)) (name : String)
    (decl : ElementDecl) (v : Value) :
    let t := NamespaceTable.ofDeclarations declarations
    let elements := ownedNames reg name (some decl) none v
    let tags := startTagsAll (encodeDocument reg t name decl v).1
    let t' := (encodeDocument reg t name decl v).2
    (∀ p uri, t.uri? p = some uri → t'.uri? p = some uri) ∧
    List.Forall₂ t'.Qualifies elements tags ∧
    (∀ p q uri, (p, uri) ∈ t'.used → (q, uri) ∈ t'.used → p = q) ∧
    ∀ written later, elements = written ++ later →
      (qualifyAll t written).1 <+: tags ∧
      ∀ p uri, (qualifyAll t written).2.uri? p = some uri → t'.uri? p = some uri := by
  intro t elements tags t'
  have hwritten : (tags, t') = qualifyAll t elements := startTags_encodeElement reg t name (some decl) none v
  have htags : tags = (qualifyAll t elements).1 := congrArg Prod.fst hwritten
  have htable : t' = (qualifyAll t elements).2 := congrArg Prod.snd hwritten
  obtain ⟨hlast, hext, hqualified⟩ := (NamespaceTable.IsInUse.ofDeclarations declarations).qualifyAll elements
  rw [← htable] at hlast hext hqualified
  rw [← htags] at hqualified
  have hkeeps : ∀ {s : NamespaceTable}, s.Extends t' → ∀ p uri, s.uri? p = some uri → t'.uri? p = some uri := by
    intro s hs p uri huri
    exact hlast.consistent.uri?_eq_some_iff.mpr (hs.bindings _ (NamespaceTable.mem_of_uri? huri))
  refine ⟨hkeeps hext, hqualified, fun p q uri => hlast.used_injective, ?_⟩
  intro written later hsplit
  -- The rest of the document goes on from the table that its beginning left.
  have hbetween := ((NamespaceTable.IsInUse.ofDeclarations declarations).qualifyAll written).1
  have hrest := (hbetween.qualifyAll later).2.1
  rw [hsplit, qualifyAll_append] at htags htable
  refine ⟨?_, hkeeps (htable ▸ hrest)⟩
  rw [htags]
  exact List.prefix_append _ _

end Soap
