import Soap.Envelope.Encoder
import Soap.Proofs.OrderedMap
import Soap.Proofs.Xml.Markup

/-!
# Namespace tables that can be written

The declarations on an envelope's root are written as they are, so they read back only if prefixes
are names, URIs hold no markup and the prefix of the envelope itself is not taken (`IsDeclarable`).
A table with such bindings hands out such prefixes only (`IsClean.prefixFor`), whatever is asked of
it. For tags less will do: if the characters of its prefixes can stand in tags (`IsWritable`), then names
stay tags behind them (`isTag_qualify`).
-/

namespace Soap

open Xml

/-- A URI that stands for itself between double quotes. -/
def IsPlainUri (uri : String) : Prop := '"' ∉ uri.toList ∧ '&' ∉ uri.toList

instance (uri : String) : Decidable (IsPlainUri uri) := by unfold IsPlainUri; infer_instance

/-- A prefix and the URI it is bound to, such that both can be written: the prefix is a name, and
unless the pair is never declared, the URI is plain and the prefix is not that of envelopes. -/
def IsDeclarable (entry : String × String) : Prop :=
  isLocalName entry.1 = true ∧
    (isInfrastructureUri entry.2 = false → IsPlainUri entry.2 ∧ entry.1 ≠ "soap")

instance (entry : String × String) : Decidable (IsDeclarable entry) := by
  unfold IsDeclarable; infer_instance

/-! ## Minted prefixes -/

theorem isNameChar_of_isDigit {c : Char} (h : c.isDigit = true) : isNameChar c = true := by
  simp only [Char.isDigit, Bool.and_eq_true, decide_eq_true_eq, UInt32.le_iff_toNat_le] at h
  have hlow : 48 ≤ c.toNat := h.1
  have hhigh : c.toNat ≤ 57 := h.2
  simp [isNameChar, inIntervals, hlow, hhigh]

/-- A numbered prefix is not that of envelopes. -/
theorem numbered_ne_soap (n : Nat) : "tns" ++ toString n ≠ "soap" := by
  intro e
  have := congrArg String.toList e
  simp [String.toList_append] at this

/-- A numbered prefix is a name, and not that of envelopes. -/
theorem isDeclarable_numbered (n : Nat) {uri : String}
    (huri : isInfrastructureUri uri = false → IsPlainUri uri) :
    IsDeclarable ("tns" ++ toString n, uri) := by
  have hdigits : (toString n).toList = Nat.toDigits 10 n := Nat.toList_repr
  refine ⟨?_, fun h => ⟨huri h, ?_⟩⟩
  · have hall : ∀ c ∈ Nat.toDigits 10 n, isNameChar c = true := fun c hc =>
      isNameChar_of_isDigit (Nat.isDigit_of_mem_toDigits (by decide) (by decide) hc)
    simp only [isLocalName, String.toList_append, hdigits]
    have ht : isNameStart 't' = true ∧ isNameChar 'n' = true ∧ isNameChar 's' = true := by decide
    simpa [ht.1, ht.2.1, ht.2.2] using hall
  · exact numbered_ne_soap n

theorem firstNumbered_eq (stem : String) (taken : List String) (generation : Nat) :
    ∃ n : Nat, (firstNumbered stem taken generation).1 = stem ++ toString n := by
  fun_induction firstNumbered stem taken generation with
  | case1 _ _ _ _ ih => exact ih
  | case2 _ generation _ _ => exact ⟨generation, rfl⟩

namespace NamespaceTable

/-- The table of a document's declarations has handed out nothing, and mints numbered prefixes. -/
theorem ofDeclarations_fresh (declarations : List (String × String)) :
    (ofDeclarations declarations).used = [] ∧ (ofDeclarations declarations).minter = default := by
  suffices h : ∀ t : NamespaceTable, t.used = [] ∧ t.minter = default →
      (declarations.foldl (fun t d => if d.1 = "" then t else t.add d.1 d.2) t).used = [] ∧
        (declarations.foldl (fun t d => if d.1 = "" then t else t.add d.1 d.2) t).minter =
        default from
    h empty ⟨rfl, rfl⟩
  induction declarations with
  | nil => exact fun _ h => h
  | cons d rest ih =>
    intro t h
    refine ih _ ?_
    show (if d.1 = "" then t else t.add d.1 d.2).used = [] ∧
      (if d.1 = "" then t else t.add d.1 d.2).minter = default
    by_cases hd : d.1 = ""
    · rwa [if_pos hd]
    · rwa [if_neg hd]

/-- A table all of whose pairs can be declared. -/
structure IsClean (t : NamespaceTable) : Prop where
  bindings : ∀ entry ∈ t.bindings, IsDeclarable entry
  used : ∀ entry ∈ t.used, IsDeclarable entry
  nodup : t.used.keys.Nodup
  minter : t.minter = default

theorem IsClean.ofDeclarations {declarations : List (String × String)}
    (h : ∀ entry ∈ (ofDeclarations declarations).bindings, IsDeclarable entry) :
    (ofDeclarations declarations).IsClean where
  bindings := h
  used := by simp [(ofDeclarations_fresh declarations).1]
  nodup := by simp [(ofDeclarations_fresh declarations).1]
  minter := (ofDeclarations_fresh declarations).2

theorem IsClean.empty : NamespaceTable.empty.IsClean where
  bindings := by simp [NamespaceTable.empty]
  used := by simp [NamespaceTable.empty]
  nodup := by simp [NamespaceTable.empty]
  minter := rfl

/-- Handing out a pair that can be declared keeps a table clean. -/
theorem IsClean.use {t : NamespaceTable} (h : t.IsClean) {name uri : String}
    (hdecl : IsDeclarable (name, uri)) : { t with used := t.used.insert name uri }.IsClean where
  bindings := h.bindings
  used entry he := (OrderedMap.mem_insert he).elim (fun e => e ▸ hdecl) (h.used entry)
  nodup := OrderedMap.nodup_insert h.nodup _ _
  minter := h.minter

/-- Binding a pair that can be declared keeps a table clean. -/
theorem IsClean.add {t : NamespaceTable} (h : t.IsClean) {name uri : String}
    (hdecl : IsDeclarable (name, uri)) : (t.add name uri).IsClean where
  bindings entry he := by
    simp only [NamespaceTable.add, List.mem_append, List.mem_filter, List.mem_singleton] at he
    rcases he with ⟨he, -⟩ | rfl
    · exact h.bindings entry he
    · exact hdecl
  used := h.used
  nodup := h.nodup
  minter := h.minter

theorem mem_of_prefixOf? {t : NamespaceTable} {uri name : String}
    (h : t.prefixOf? uri = some name) : (name, uri) ∈ t.bindings := by
  obtain ⟨⟨name', uri'⟩, hfind, rfl⟩ := Option.map_eq_some_iff.mp h
  have huri : uri' = uri := by simpa using List.find?_some hfind
  exact huri ▸ List.mem_of_find?_eq_some hfind

/-- What a clean table chooses for a new URI can be declared. -/
theorem IsClean.choosePrefix {t : NamespaceTable} (h : t.IsClean) {uri : String}
    (huri : isInfrastructureUri uri = false → IsPlainUri uri) :
    IsDeclarable ((t.choosePrefix (some preferredPrefix)).1, uri) := by
  -- The minter of a clean table offers no names, so what it mints is numbered.
  obtain ⟨n, hn⟩ := firstNumbered_eq "tns" t.bindings.keys
    (max t.nextGeneration ((default : PrefixMinter).offered.length + 1))
  have hmint : (t.minter.mint t.bindings.keys t.nextGeneration).1 = "tns" ++ toString n := by
    rw [h.minter, ← hn]
    simp [PrefixMinter.mint, default, firstOffer]
  simp only [NamespaceTable.choosePrefix]
  split
  · have hpreferred : isLocalName preferredPrefix = true ∧ preferredPrefix ≠ "soap" := by decide
    exact ⟨hpreferred.1, fun hinfra => ⟨huri hinfra, hpreferred.2⟩⟩
  · rw [hmint]
    exact isDeclarable_numbered n huri

/-- A clean table stays clean, and hands out names only. -/
theorem IsClean.prefixFor {t : NamespaceTable} (h : t.IsClean) {uri : String}
    (huri : isInfrastructureUri uri = false → IsPlainUri uri) :
    isLocalName (t.prefixFor uri (some preferredPrefix)).1 = true ∧
      (t.prefixFor uri (some preferredPrefix)).2.IsClean := by
  unfold NamespaceTable.prefixFor
  split
  · next name hname =>
    have hdecl := h.bindings _ (mem_of_prefixOf? hname)
    exact ⟨hdecl.1, h.use hdecl⟩
  · next _ =>
    have hdecl := h.choosePrefix huri
    have hnext : { t with nextGeneration := (t.choosePrefix (some preferredPrefix)).2 }.IsClean :=
      ⟨h.bindings, h.used, h.nodup, h.minter⟩
    exact ⟨hdecl.1, (hnext.add hdecl).use hdecl⟩

/-! ## Declarations on the root -/

/-- The declarations on the root of an envelope, its own first. -/
def rootAttributes (t : NamespaceTable) : List (String × String) :=
  ("xmlns:soap", Envelope.space) :: t.declarations.map fun entry => ("xmlns:" ++ entry.1, entry.2)

/-- The attributes that declare prefixes. -/
def declaring (entries : List (String × String)) : List (String × String) :=
  entries.map fun entry => ("xmlns:" ++ entry.1, entry.2)

theorem toAttributes_eq_renderAttributes (t : NamespaceTable) :
    t.toAttributes = Markup.renderAttributes (declaring t.declarations) := by
  simp only [toAttributes, declaring, Markup.renderAttributes, List.map_map, Function.comp_def, ← String.append_assoc]
  rfl

theorem renderAttributes_rootAttributes (t : NamespaceTable) :
    Markup.renderAttributes t.rootAttributes =
      " xmlns:soap=\"" ++ Envelope.space ++ "\"" ++ t.toAttributes := by
  rw [← String.toList_inj, toList_renderAttributes, rootAttributes, List.flatMap_cons,
    toAttributes_eq_renderAttributes, String.toList_append, toList_renderAttributes, declaring]
  simp [attributeChars, String.toList_append]

theorem mem_declarations {t : NamespaceTable} {name uri : String} :
    (name, uri) ∈ t.declarations ↔ (name, uri) ∈ t.used ∧ name ≠ "" ∧ isInfrastructureUri uri = false := by
  simp [declarations]

/-- Attributes that declare different prefixes have different names. -/
theorem declaration_injective {a b : String} (h : "xmlns:" ++ a = "xmlns:" ++ b) : a = b := by
  simpa [← String.toList_inj, String.toList_append] using h

theorem nodup_declaring {entries : List (String × String)} (h : (entries.map Prod.fst).Nodup) :
    ((declaring entries).map Prod.fst).Nodup := by
  have hnames : ((entries.map Prod.fst).map ("xmlns:" ++ ·)).Pairwise (· ≠ ·) :=
    List.Pairwise.map _ (fun a b hne e => hne (declaration_injective e)) h
  simpa [declaring, List.map_map, Function.comp_def, List.Nodup] using hnames

/-- Prefixes that were handed out are declared once. -/
theorem nodup_declarations {t : NamespaceTable} (hkeys : t.used.keys.Nodup) : (t.declarations.map Prod.fst).Nodup :=
  hkeys.sublist (List.filter_sublist.map _)

/-- Prefixes that were handed out are declared once, and so is that of the envelope unless it is one of them. -/
theorem nodup_rootAttributes {t : NamespaceTable} (hkeys : t.used.keys.Nodup)
    (hsoap : ∀ uri, ("soap", uri) ∉ t.declarations) : (t.rootAttributes.map Prod.fst).Nodup := by
  rw [rootAttributes, List.map_cons, List.nodup_cons, List.map_map]
  constructor
  · intro hmem
    obtain ⟨⟨name, uri⟩, hentry, e⟩ := List.mem_map.mp hmem
    obtain rfl : name = "soap" := declaration_injective e
    exact hsoap uri hentry
  · rw [← List.map_map]
    exact nodup_declaring (nodup_declarations hkeys)

/-- The name of an attribute that declares a prefix is a tag. -/
theorem isTag_declaration {name : String} (h : isLocalName name = true) :
    IsTag ("xmlns:" ++ name).toList := by
  have hcut : ("xmlns:" ++ name).toList = ("xmlns" ++ ":" ++ name).toList := by
    simp [String.toList_append]
  rw [hcut]
  exact IsTag.ofQualified (by decide) h

/-- The root of an envelope with a clean table can be read. -/
theorem IsClean.areReadable {t : NamespaceTable} (h : t.IsClean) :
    AreReadable t.rootAttributes := by
  have hdecl : ∀ entry ∈ t.declarations,
      isLocalName entry.1 = true ∧ IsPlainUri entry.2 ∧ entry.1 ≠ "soap" := by
    intro entry he
    simp only [declarations, List.mem_filter, Bool.and_eq_true, Bool.not_eq_true'] at he
    have hused := h.used entry he.1
    exact ⟨hused.1, hused.2 he.2.2⟩
  have hsoap : IsTag "xmlns:soap".toList := by decide
  have hspace : '"' ∉ Envelope.space.toList ∧ '&' ∉ Envelope.space.toList := by decide
  refine ⟨?_, ?_, ?_⟩
  · intro a ha
    simp only [rootAttributes, List.mem_cons, List.mem_map] at ha
    rcases ha with rfl | ⟨entry, he, rfl⟩
    · exact hsoap
    · exact isTag_declaration (hdecl entry he).1
  · intro a ha
    simp only [rootAttributes, List.mem_cons, List.mem_map] at ha
    rcases ha with rfl | ⟨entry, he, rfl⟩
    · exact hspace
    · exact (hdecl entry he).2.1
  · -- The prefixes differ, and none of them is the envelope's own.
    exact nodup_rootAttributes h.nodup fun uri hmem => (hdecl _ hmem).2.2 rfl

end NamespaceTable

/-! ## Prefixes as tags -/

/-- Every character of the text can stand in a tag. -/
def IsTagText (text : String) : Prop := ∀ c ∈ text.toList, isTagChar c = true

instance (text : String) : Decidable (IsTagText text) :=
  decidable_of_iff (text.toList.all isTagChar = true) List.all_eq_true

theorem IsTagText.append {a b : String} (ha : IsTagText a) (hb : IsTagText b) : IsTagText (a ++ b) := by
  intro c hc
  rw [String.toList_append] at hc
  exact (List.mem_append.mp hc).elim (ha c) (hb c)

theorem isTagText_toString (n : Nat) : IsTagText (toString n) := by
  intro c hc
  have hdigits : (toString n).toList = Nat.toDigits 10 n := Nat.toList_repr
  rw [hdigits] at hc
  have hdigit : c.isDigit = true := Nat.isDigit_of_mem_toDigits (by decide) (by decide) hc
  rw [isTagChar, isNameChar_of_isDigit hdigit, Bool.true_or]

theorem mem_of_firstOffer {taken offers : List String} {generation : Nat} {found : String × Nat}
    (h : firstOffer taken offers generation = some found) : found.1 ∈ offers := by
  induction offers generalizing generation with
  | nil => cases h
  | cons name rest ih =>
    rw [firstOffer] at h
    split at h
    · obtain rfl := Option.some.inj h
      exact List.mem_cons_self
    · exact List.mem_cons_of_mem _ (ih h)

namespace NamespaceTable

/-- The prefixes that the table has and those that it may hand out can stand in a tag. -/
structure IsWritable (t : NamespaceTable) : Prop where
  bindings : ∀ entry ∈ t.bindings, IsTagText entry.1
  offered : ∀ name ∈ t.minter.offered, IsTagText name
  stem : IsTagText t.minter.stem

variable {t : NamespaceTable}

theorem IsWritable.mint (h : t.IsWritable) (taken : List String) (generation : Nat) :
    IsTagText (t.minter.mint taken generation).1 := by
  unfold PrefixMinter.mint
  split
  · next found hfound => exact h.offered _ (List.mem_of_mem_drop (mem_of_firstOffer hfound))
  · obtain ⟨n, hn⟩ := firstNumbered_eq t.minter.stem taken (max generation (t.minter.offered.length + 1))
    rw [hn]
    exact h.stem.append (isTagText_toString n)

theorem IsWritable.choosePrefix (h : t.IsWritable) : IsTagText (t.choosePrefix (some preferredPrefix)).1 := by
  simp only [NamespaceTable.choosePrefix]
  split
  · show IsTagText preferredPrefix
    decide
  · exact h.mint _ _

theorem IsWritable.prefixFor (h : t.IsWritable) (uri : String) :
    IsTagText (t.prefixFor uri (some preferredPrefix)).1 ∧
      (t.prefixFor uri (some preferredPrefix)).2.IsWritable := by
  unfold NamespaceTable.prefixFor
  split
  · next name hname => exact ⟨h.bindings _ (mem_of_prefixOf? hname), h.bindings, h.offered, h.stem⟩
  · have hname := h.choosePrefix
    refine ⟨hname, ?_, h.offered, h.stem⟩
    intro entry hentry
    simp only [NamespaceTable.add, List.mem_append, List.mem_filter, List.mem_singleton] at hentry
    rcases hentry with ⟨hentry, -⟩ | rfl
    · exact h.bindings entry hentry
    · exact hname

end NamespaceTable

/-- A name stays a tag behind a prefix of the table. -/
theorem isTag_qualify {table : NamespaceTable} (ht : table.IsWritable) {name : String} (hname : IsTag name.toList)
    (space : Option String) :
    IsTag (qualify table space name).1.toList ∧ (qualify table space name).2.IsWritable := by
  cases space with
  | none => exact ⟨hname, ht⟩
  | some uri =>
    obtain ⟨hspelt, htable⟩ := ht.prefixFor uri
    have hcolon : IsTagText ":" := by decide
    refine ⟨⟨?_, (hspelt.append hcolon).append hname.chars⟩, htable⟩
    simp [qualify, String.toList_append]

end Soap
