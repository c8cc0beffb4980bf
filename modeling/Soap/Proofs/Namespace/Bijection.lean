import Mathlib.Logic.Relation
import Soap.Proofs.Namespace
import Soap.Proofs.Namespace.Minting

/-!
# Namespace tables are bijections

However a table came about, a prefix is bound to a namespace exactly if the namespace has that prefix
(`NamespaceTable.IsConsistent.uri?_iff_prefixOf?`). The reason is that no prefix and no namespace is bound
twice (`NamespaceTable.IsConsistent`): binding a pair drops what either side was bound to before and
nothing else (`uri?_add`, `prefixOf?_add`). Handing out prefixes only ever binds what was free on both
sides, so it drops nothing (`HandsOut.isHanded`), and what was handed out once is handed out again
(`HandsOut.known_after`).
-/

namespace Soap

namespace NamespaceTable

open Relation (ReflTransGen)

variable {t t' : NamespaceTable} {policy : MintingPolicy} {name uri : String} {preferred : Option String}

/-! ## Consistent tables -/

/-- No prefix and no namespace is bound twice, and attempts at minting are counted from 1. -/
structure IsConsistent (t : NamespaceTable) : Prop where
  prefixes : t.bindings.keys.Nodup
  uris : (OrderedMap.values t.bindings).Nodup
  attempts : 1 ≤ t.nextGeneration

theorem IsConsistent.empty : NamespaceTable.empty.IsConsistent := ⟨by decide, by decide, by decide⟩

theorem mem_of_uri? (h : t.uri? name = some uri) : (name, uri) ∈ t.bindings := OrderedMap.mem_of_get? h

theorem IsConsistent.uri?_eq_some_iff (h : t.IsConsistent) : t.uri? name = some uri ↔ (name, uri) ∈ t.bindings :=
  ⟨mem_of_uri?, OrderedMap.get?_of_mem h.prefixes⟩

/-- A namespace that is listed once is found by its only entry. -/
theorem IsConsistent.prefixOf?_eq_some_iff (h : t.IsConsistent) :
    t.prefixOf? uri = some name ↔ (name, uri) ∈ t.bindings := by
  constructor
  · exact mem_of_prefixOf?
  · intro hmem
    have huris := h.uris
    rw [prefixOf?]
    generalize t.bindings = bindings at hmem huris
    induction bindings with
    | nil => cases hmem
    | cons first rest ih =>
      rw [OrderedMap.values, List.map_cons, List.nodup_cons] at huris
      rcases List.mem_cons.mp hmem with rfl | hmem
      · simp
      · have hne : (first.2 == uri) = false := by
          rw [beq_eq_false_iff_ne]
          rintro rfl
          exact huris.1 (List.mem_map.mpr ⟨_, hmem, rfl⟩)
        rw [List.find?_cons, hne]
        exact ih hmem huris.2

/-- In a consistent table, the look-ups in the two directions agree. -/
theorem IsConsistent.uri?_iff_prefixOf? (h : t.IsConsistent) :
    t.uri? name = some uri ↔ t.prefixOf? uri = some name := by
  rw [h.uri?_eq_some_iff, h.prefixOf?_eq_some_iff]

/-! ## Binding -/

theorem mem_add {entry : String × String} :
    entry ∈ (t.add name uri).bindings ↔
      (entry ∈ t.bindings ∧ entry.1 ≠ name ∧ entry.2 ≠ uri) ∨ entry = (name, uri) := by
  simp [add]

theorem IsConsistent.add (h : t.IsConsistent) (name uri : String) : (t.add name uri).IsConsistent where
  prefixes := by
    show (List.map Prod.fst (_ ++ _)).Nodup
    rw [List.map_append, List.nodup_append]
    refine ⟨h.prefixes.sublist (List.filter_sublist.map _), by simp, ?_⟩
    intro old hold new hnew
    obtain ⟨entry, hentry, rfl⟩ := List.mem_map.mp hold
    simp only [List.mem_filter, Bool.and_eq_true, bne_iff_ne] at hentry
    obtain rfl : new = name := by simpa using hnew
    exact hentry.2.1
  uris := by
    show (List.map Prod.snd (_ ++ _)).Nodup
    rw [List.map_append, List.nodup_append]
    refine ⟨h.uris.sublist (List.filter_sublist.map _), by simp, ?_⟩
    intro old hold new hnew
    obtain ⟨entry, hentry, rfl⟩ := List.mem_map.mp hold
    simp only [List.mem_filter, Bool.and_eq_true, bne_iff_ne] at hentry
    obtain rfl : new = uri := by simpa using hnew
    exact hentry.2.2
  attempts := h.attempts

/-- What binding a pair does to prefixes: `name` gets `uri`, and what else had `uri` has nothing now. -/
theorem IsConsistent.uri?_add (h : t.IsConsistent) (name uri other : String) :
    (t.add name uri).uri? other =
      if other = name then some uri else if t.uri? other = some uri then none else t.uri? other := by
  apply Option.ext
  intro found
  rw [(h.add name uri).uri?_eq_some_iff, mem_add, ← h.uri?_eq_some_iff, Prod.mk.injEq]
  by_cases hname : other = name
  · simp [hname, eq_comm]
  · rw [if_neg hname]
    grind

/-- What it does to namespaces: `uri` gets `name`, and what else had `name` has nothing now. -/
theorem IsConsistent.prefixOf?_add (h : t.IsConsistent) (name uri other : String) :
    (t.add name uri).prefixOf? other =
      if other = uri then some name else if t.prefixOf? other = some name then none else t.prefixOf? other := by
  apply Option.ext
  intro found
  rw [(h.add name uri).prefixOf?_eq_some_iff, mem_add, ← h.prefixOf?_eq_some_iff, Prod.mk.injEq]
  by_cases huri : other = uri
  · simp [huri, eq_comm]
  · rw [if_neg huri]
    grind

/-! ## Handing out -/

/-- What handing out a prefix does to a table: it binds one pair at most, which was free on both sides, and
marks it as used. -/
structure IsHanded (t : NamespaceTable) (uri name : String) (t' : NamespaceTable) : Prop where
  bound : (name, uri) ∈ t'.bindings
  bindings : t'.bindings = t.bindings ∨
    t'.bindings = t.bindings ++ [(name, uri)] ∧ IsFree t.bindings.keys name ∧ uri ∉ OrderedMap.values t.bindings
  used : t'.used = t.used.insert name uri
  attempts : t.nextGeneration ≤ t'.nextGeneration

theorem not_mem_values_of_prefixOf? (h : t.prefixOf? uri = none) : uri ∉ OrderedMap.values t.bindings := by
  intro hmem
  obtain ⟨entry, hentry, rfl⟩ := List.mem_map.mp hmem
  rw [prefixOf?, Option.map_eq_none_iff, List.find?_eq_none] at h
  exact h entry hentry (by simp)

/-- Binding what is free on both sides drops nothing. -/
theorem bindings_add_of_free (hname : name ∉ t.bindings.keys) (huri : uri ∉ OrderedMap.values t.bindings) :
    (t.add name uri).bindings = t.bindings ++ [(name, uri)] := by
  show t.bindings.filter _ ++ _ = _
  congr 1
  rw [List.filter_eq_self]
  intro entry hentry
  have hkey : entry.1 ≠ name := fun e => hname (List.mem_map.mpr ⟨entry, hentry, e⟩)
  have hvalue : entry.2 ≠ uri := fun e => huri (List.mem_map.mpr ⟨entry, hentry, e⟩)
  simp [hkey, hvalue]

theorem HandsOut.isHanded (h : t.HandsOut policy uri preferred name t') : t.IsHanded uri name t' := by
  cases h with
  | known hname => exact ⟨mem_of_prefixOf? hname, .inl rfl, rfl, le_rfl⟩
  | preferred hnew _ hfree =>
    have hbindings := bindings_add_of_free hfree.2 (not_mem_values_of_prefixOf? hnew)
    exact ⟨mem_add.mpr (.inr rfl), .inr ⟨hbindings, hfree, not_mem_values_of_prefixOf? hnew⟩, rfl, le_rfl⟩
  | minted hnew _ hmints =>
    have hbindings := bindings_add_of_free hmints.free.2 (not_mem_values_of_prefixOf? hnew)
    exact ⟨mem_add.mpr (.inr rfl), .inr ⟨hbindings, hmints.free, not_mem_values_of_prefixOf? hnew⟩, rfl,
      Nat.le_succ_of_le hmints.first_le⟩

theorem IsHanded.isConsistent (h : t.IsHanded uri name t') (ht : t.IsConsistent) : t'.IsConsistent := by
  have hattempts : 1 ≤ t'.nextGeneration := Nat.le_trans ht.attempts h.attempts
  rcases h.bindings with hsame | ⟨hmore, hname, huri⟩
  · exact ⟨hsame ▸ ht.prefixes, hsame ▸ ht.uris, hattempts⟩
  · -- The pair was free, so that binding it is appending it.
    have hadd := ht.add name uri
    rw [← bindings_add_of_free hname.2 huri] at hmore
    exact ⟨hmore ▸ hadd.prefixes, hmore ▸ hadd.uris, hattempts⟩

theorem IsHanded.mem_of_mem (h : t.IsHanded uri name t') {entry : String × String} (hentry : entry ∈ t.bindings) :
    entry ∈ t'.bindings := by
  rcases h.bindings with hsame | ⟨hmore, -, -⟩
  · rwa [hsame]
  · rw [hmore]
    exact List.mem_append_left _ hentry

/-! ## Tables that can come about -/

/-- Prefixes were asked for, under whatever policies. -/
def AskedOf (t t' : NamespaceTable) : Prop :=
  ReflTransGen (fun s s' => ∃ policy uri preferred name, HandsOut s policy uri preferred name s') t t'

/-- The tables that come about from the empty one or from a document's declarations by binding pairs, handing
out prefixes under any policy and replacing the minter. A copy of a table is the table, and goes its own way. -/
inductive IsReachable : NamespaceTable → Prop where
  | empty : IsReachable empty
  | ofDeclarations (declarations : List (String × String)) : IsReachable (ofDeclarations declarations)
  | add {t : NamespaceTable} (h : IsReachable t) (name uri : String) : IsReachable (t.add name uri)
  | handsOut {t t' : NamespaceTable} (h : IsReachable t) {policy : MintingPolicy} {uri name : String}
    {preferred : Option String} (hstep : t.HandsOut policy uri preferred name t') : IsReachable t'
  | withMinter {t : NamespaceTable} (h : IsReachable t) (minter : PrefixMinter) : IsReachable { t with minter }

theorem IsConsistent.ofDeclarations (declarations : List (String × String)) :
    (ofDeclarations declarations).IsConsistent := by
  suffices h : ∀ t : NamespaceTable, t.IsConsistent →
      (declarations.foldl (fun t d => if d.1 = "" then t else t.add d.1 d.2) t).IsConsistent from
    h _ .empty
  induction declarations with
  | nil => exact fun t ht => ht
  | cons d rest ih =>
    intro t ht
    apply ih
    show (if d.1 = "" then t else t.add d.1 d.2).IsConsistent
    split
    · exact ht
    · exact ht.add d.1 d.2

theorem IsReachable.isConsistent (h : t.IsReachable) : t.IsConsistent := by
  induction h with
  | empty => exact .empty
  | ofDeclarations declarations => exact .ofDeclarations declarations
  | add _ name uri ih => exact ih.add name uri
  | handsOut _ hstep ih => exact hstep.isHanded.isConsistent ih
  | withMinter _ _ ih => exact ⟨ih.prefixes, ih.uris, ih.attempts⟩

/-- Asking for prefixes drops no binding. -/
theorem AskedOf.spec (h : t.AskedOf t') (ht : t.IsConsistent) :
    t'.IsConsistent ∧ ∀ entry ∈ t.bindings, entry ∈ t'.bindings := by
  induction h with
  | refl => exact ⟨ht, fun _ he => he⟩
  | tail _ hstep ih =>
    obtain ⟨_, _, _, _, hstep⟩ := hstep
    exact ⟨hstep.isHanded.isConsistent ih.1, fun entry he => hstep.isHanded.mem_of_mem (ih.2 entry he)⟩

/-- What was handed out once is known from then on, whatever is asked for. -/
theorem HandsOut.known_after (h : t.HandsOut policy uri preferred name t') (ht : t.IsConsistent) {t'' : NamespaceTable}
    (hasked : t'.AskedOf t'') : t''.prefixOf? uri = some name := by
  have hhanded := h.isHanded
  obtain ⟨ht'', hkept⟩ := hasked.spec (hhanded.isConsistent ht)
  exact ht''.prefixOf?_eq_some_iff.mpr (hkept _ hhanded.bound)

end NamespaceTable

end Soap
