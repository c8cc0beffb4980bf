import Mathlib.Data.List.Nodup
import Soap.Proofs.Namespace.Bijection

/-!
# Namespace tables with a map for the way back

A table can be kept as two maps, from prefixes to URIs and from URIs to prefixes (`TwoWayTable`). Both are changed
whenever a pair is bound: what the prefix was bound to goes from both, then what the URI was bound to, and then the
pair is put into both (`TwoWayTable.add`).

The maps stay inverse to each other (`AreInverse`), through every one of these steps. So the look-ups in the two
directions agree (`TwoWayTable.lookups_agree`). The table that has the first map only, and looks for URIs in it
(`TwoWayTable.oneWay`), binds, finds and hands out the same; and tables of one map come about in no other way.
-/

namespace Soap

/-! ## Maps that are inverse to each other -/

section

variable {κ μ : Type} [DecidableEq κ] [DecidableEq μ] {forth : OrderedMap κ μ} {back : OrderedMap μ κ} {key : κ}
  {value : μ}

/-- Drop what `key` is mapped to, from the map and from the one that leads back. -/
def unlink (forth : OrderedMap κ μ) (back : OrderedMap μ κ) (key : κ) : OrderedMap κ μ × OrderedMap μ κ :=
  match forth.get? key with
  | some value => (forth.erase key, back.erase value)
  | none => (forth, back)

/-- No key is listed twice in either map, and each has the entries of the other, turned round. -/
structure AreInverse (forth : OrderedMap κ μ) (back : OrderedMap μ κ) : Prop where
  forth_nodup : forth.keys.Nodup
  back_nodup : back.keys.Nodup
  mem_iff : ∀ key value, (key, value) ∈ forth ↔ (value, key) ∈ back

omit [DecidableEq κ] [DecidableEq μ] in
theorem AreInverse.symm (h : AreInverse forth back) : AreInverse back forth :=
  ⟨h.back_nodup, h.forth_nodup, fun value key => (h.mem_iff key value).symm⟩

theorem AreInverse.get?_iff (h : AreInverse forth back) : forth.get? key = some value ↔ back.get? value = some key := by
  constructor
  · intro hget
    apply OrderedMap.get?_of_mem h.back_nodup
    exact (h.mem_iff key value).mp (OrderedMap.mem_of_get? hget)
  · intro hget
    apply OrderedMap.get?_of_mem h.forth_nodup
    exact (h.mem_iff key value).mpr (OrderedMap.mem_of_get? hget)

omit [DecidableEq κ] in
/-- No value is listed twice either. -/
theorem AreInverse.nodup_values (h : AreInverse forth back) : forth.values.Nodup := by
  apply List.Nodup.map_on
  · rintro ⟨key, value⟩ hmem ⟨key', value'⟩ hmem' heq
    obtain rfl : value = value' := heq
    have hget := OrderedMap.get?_of_mem h.back_nodup ((h.mem_iff key value).mp hmem)
    rw [OrderedMap.get?_of_mem h.back_nodup ((h.mem_iff key' value).mp hmem')] at hget
    rw [Option.some.inj hget]
  · exact List.Nodup.of_map Prod.fst h.forth_nodup

/-- The value of a key is the only one that leads back to the key. -/
theorem AreInverse.fst_eq_iff (h : AreInverse forth back) (hvalue : forth.get? key = some value) {e : μ × κ}
    (hmem : e ∈ back) : e.1 = value ↔ e.2 = key := by
  have hget : back.get? e.1 = some e.2 := OrderedMap.get?_of_mem h.back_nodup hmem
  constructor
  · intro heq
    rw [heq, h.get?_iff.mp hvalue] at hget
    exact (Option.some.inj hget).symm
  · intro heq
    rw [heq, ← h.get?_iff, hvalue] at hget
    exact (Option.some.inj hget).symm

/-- Both maps lose the entries of `key`, and these only. -/
theorem AreInverse.unlink_eq (h : AreInverse forth back) (key : κ) :
    unlink forth back key = (forth.filter (fun e => e.1 != key), back.filter fun e => e.2 != key) := by
  unfold unlink
  split
  · next value hvalue =>
    have hsame : ∀ e ∈ back, (e.1 != value) = (e.2 != key) := by
      intro e hmem
      rw [Bool.eq_iff_iff, bne_iff_ne, bne_iff_ne, not_iff_not]
      exact h.fst_eq_iff hvalue hmem
    rw [OrderedMap.erase_eq_filter h.forth_nodup, OrderedMap.erase_eq_filter h.back_nodup, List.filter_congr hsame]
  · next hnone =>
    have hkey : key ∉ forth.keys := OrderedMap.get?_eq_none_iff.mp hnone
    have hforth : ∀ e ∈ forth, (e.1 != key) = true := by
      intro e hmem
      rw [bne_iff_ne]
      rintro rfl
      exact hkey (List.mem_map_of_mem hmem)
    have hback : ∀ e ∈ back, (e.2 != key) = true := by
      intro e hmem
      exact hforth (e.2, e.1) ((h.mem_iff _ _).mpr hmem)
    rw [List.filter_eq_self.mpr hforth, List.filter_eq_self.mpr hback]

theorem AreInverse.unlink (h : AreInverse forth back) (key : κ) :
    AreInverse (unlink forth back key).1 (unlink forth back key).2 := by
  rw [h.unlink_eq key]
  refine ⟨h.forth_nodup.sublist (List.filter_sublist.map _), h.back_nodup.sublist (List.filter_sublist.map _), ?_⟩
  intro key' value
  rw [List.mem_filter, List.mem_filter, h.mem_iff]

/-- A pair that is new on both sides can be put into both maps. -/
theorem AreInverse.insert (h : AreInverse forth back) (hkey : key ∉ forth.keys) (hvalue : value ∉ back.keys) :
    AreInverse (forth.insert key value) (back.insert value key) where
  forth_nodup := OrderedMap.nodup_insert h.forth_nodup key value
  back_nodup := OrderedMap.nodup_insert h.back_nodup value key
  mem_iff key' value' := by
    rw [OrderedMap.insert_of_not_mem hkey, OrderedMap.insert_of_not_mem hvalue, List.mem_append, List.mem_append,
      h.mem_iff, List.mem_singleton, List.mem_singleton, Prod.mk.injEq, Prod.mk.injEq]
    exact or_congr_right and_comm

end

/-! ## The table -/

/-- A namespace table that keeps its bindings in both directions. -/
structure TwoWayTable where
  /-- From prefixes to URIs. -/
  uris : OrderedMap String String := []
  /-- From URIs to prefixes. -/
  prefixes : OrderedMap String String := []
  used : OrderedMap String String := []
  nextGeneration : Nat := 1
  minter : PrefixMinter := default

namespace TwoWayTable

open Relation (ReflTransGen)

def empty : TwoWayTable := {}

def uri? (t : TwoWayTable) (name : String) : Option String := t.uris.get? name

def prefixOf? (t : TwoWayTable) (uri : String) : Option String := t.prefixes.get? uri

/-- Bind `name` to `uri`. What `name` is bound to goes first, what `uri` is bound to second. -/
def add (t : TwoWayTable) (name uri : String) : TwoWayTable :=
  let (uris, prefixes) := unlink t.uris t.prefixes name
  let (prefixes, uris) := unlink prefixes uris uri
  { t with uris := uris.insert name uri, prefixes := prefixes.insert uri name }

/-- Mark a pair as handed out. -/
def use (t : TwoWayTable) (name uri : String) : TwoWayTable := { t with used := t.used.insert name uri }

/-- The table of a document's declarations, without the default namespace. -/
def ofDeclarations (declarations : List (String × String)) : TwoWayTable :=
  declarations.foldl (fun t d => if d.1 = "" then t else t.add d.1 d.2) empty

/-- The table that has the map from prefixes to URIs only. -/
def oneWay (t : TwoWayTable) : NamespaceTable :=
  { bindings := t.uris, used := t.used, nextGeneration := t.nextGeneration, minter := t.minter }

/-- The prefix for `uri`, bound on first use; it is marked as used either way. Which prefixes are free is told by the
first map. -/
def prefixFor (t : TwoWayTable) (uri : String) (preferred : Option String) : String × TwoWayTable :=
  match t.prefixOf? uri with
  | some name => (name, t.use name uri)
  | none =>
    let (name, next) := t.oneWay.choosePrefix preferred
    (name, ({ t with nextGeneration := next }.add name uri).use name uri)

/-- What asking for the prefix of `uri` comes to under a policy: the prefix, and the table after it. -/
inductive HandsOut (t : TwoWayTable) (policy : MintingPolicy) (uri : String) (preferred : Option String) :
    String → TwoWayTable → Prop where
  | known {name : String} (hname : t.prefixOf? uri = some name) : HandsOut t policy uri preferred name (t.use name uri)
  | preferred {name : String} (hnew : t.prefixOf? uri = none) (hname : preferred = some name)
    (hfree : IsFree t.uris.keys name) : HandsOut t policy uri preferred name ((t.add name uri).use name uri)
  | minted {name : String} {last : Nat} (hnew : t.prefixOf? uri = none)
    (hname : ∀ p, preferred = some p → ¬ IsFree t.uris.keys p)
    (hmints : Mints policy t.uris.keys uri t.nextGeneration name last) :
    HandsOut t policy uri preferred name (({ t with nextGeneration := last + 1 }.add name uri).use name uri)

/-- Prefixes were asked for, under whatever policies. -/
def AskedOf (t t' : TwoWayTable) : Prop :=
  ReflTransGen (fun s s' => ∃ policy uri preferred name, HandsOut s policy uri preferred name s') t t'

/-- The tables that come about by binding pairs, handing out prefixes under any policy and replacing the minter. -/
inductive IsReachable : TwoWayTable → Prop where
  | empty : IsReachable empty
  | ofDeclarations (declarations : List (String × String)) : IsReachable (ofDeclarations declarations)
  | add {t : TwoWayTable} (h : IsReachable t) (name uri : String) : IsReachable (t.add name uri)
  | handsOut {t t' : TwoWayTable} (h : IsReachable t) {policy : MintingPolicy} {uri name : String}
    {preferred : Option String} (hstep : t.HandsOut policy uri preferred name t') : IsReachable t'
  | withMinter {t : TwoWayTable} (h : IsReachable t) (minter : PrefixMinter) : IsReachable { t with minter }

/-- The two maps are inverse to each other, and attempts at minting are counted from 1. -/
structure IsPaired (t : TwoWayTable) : Prop where
  inverse : AreInverse t.uris t.prefixes
  attempts : 1 ≤ t.nextGeneration

variable {t t' : TwoWayTable} {policy : MintingPolicy} {uri name : String} {preferred : Option String}

theorem IsPaired.empty : IsPaired empty := ⟨⟨by decide, by decide, by simp [TwoWayTable.empty]⟩, by decide⟩

/-! ### Binding -/

/-- When the two old pairs are gone, both sides of the new one are free. -/
theorem IsPaired.add (h : t.IsPaired) (name uri : String) : (t.add name uri).IsPaired where
  inverse := by
    have hname := h.inverse.unlink name
    have huri := hname.symm.unlink uri
    refine huri.symm.insert ?_ ?_
    · rw [hname.symm.unlink_eq uri, h.inverse.unlink_eq name]
      simp [OrderedMap.keys]
    · rw [hname.symm.unlink_eq uri]
      simp [OrderedMap.keys]
  attempts := h.attempts

/-- The first map after a pair was bound. -/
theorem IsPaired.uris_add (h : t.IsPaired) (name uri : String) :
    (t.add name uri).uris = t.uris.filter (fun e => e.1 != name && e.2 != uri) ++ [(name, uri)] := by
  have hname := h.inverse.unlink name
  -- The maps change places for the second step, which drops entries of the first map by what they lead to.
  have hleft : (unlink (unlink t.uris t.prefixes name).2 (unlink t.uris t.prefixes name).1 uri).2 =
      t.uris.filter fun e => e.1 != name && e.2 != uri := by
    rw [hname.symm.unlink_eq uri, h.inverse.unlink_eq name]
    show (t.uris.filter _).filter _ = _
    rw [List.filter_filter]
    apply List.filter_congr
    intro e _
    exact Bool.and_comm _ _
  have hnew : name ∉ OrderedMap.keys (t.uris.filter fun e => e.1 != name && e.2 != uri) := by
    simp [OrderedMap.keys]
  show OrderedMap.insert (unlink (unlink t.uris t.prefixes name).2 (unlink t.uris t.prefixes name).1 uri).2 name uri = _
  rw [hleft, OrderedMap.insert_of_not_mem hnew]

theorem IsPaired.oneWay_add (h : t.IsPaired) (name uri : String) : (t.add name uri).oneWay = t.oneWay.add name uri := by
  have huris := h.uris_add name uri
  unfold oneWay NamespaceTable.add
  rw [huris]
  rfl

/-! ### One way -/

theorem IsPaired.isConsistent (h : t.IsPaired) : t.oneWay.IsConsistent :=
  ⟨h.inverse.forth_nodup, h.inverse.nodup_values, h.attempts⟩

/-- Looking for a URI in the first map finds what the second has for it. -/
theorem IsPaired.prefixOf?_oneWay (h : t.IsPaired) (uri : String) : t.oneWay.prefixOf? uri = t.prefixOf? uri := by
  apply Option.ext
  intro name
  rw [← h.isConsistent.uri?_iff_prefixOf?]
  exact h.inverse.get?_iff

theorem HandsOut.isPaired (h : t.HandsOut policy uri preferred name t') (ht : t.IsPaired) : t'.IsPaired := by
  cases h with
  | known => exact ⟨ht.inverse, ht.attempts⟩
  | preferred =>
    have hadd := ht.add name uri
    exact ⟨hadd.inverse, hadd.attempts⟩
  | minted _ _ hmints =>
    have hadd := ht.add name uri
    exact ⟨hadd.inverse, Nat.le_add_left ..⟩

/-- What is handed out is handed out by the table of one map, too. -/
theorem HandsOut.oneWay (h : t.HandsOut policy uri preferred name t') (ht : t.IsPaired) :
    t.oneWay.HandsOut policy uri preferred name t'.oneWay := by
  have hadd := ht.oneWay_add name uri
  cases h with
  | known hname => exact .known ((ht.prefixOf?_oneWay uri).trans hname)
  | preferred hnew hname hfree =>
    have hstep : t.oneWay.HandsOut policy uri preferred name _ :=
      .preferred ((ht.prefixOf?_oneWay uri).trans hnew) hname hfree
    rwa [← hadd] at hstep
  | minted hnew hname hmints =>
    have hstep : t.oneWay.HandsOut policy uri preferred name _ :=
      .minted ((ht.prefixOf?_oneWay uri).trans hnew) hname hmints
    rwa [← hadd] at hstep

/-- With the policy of its own minter, what a table hands out is `prefixFor`. -/
theorem IsPaired.handsOut_prefixFor (ht : t.IsPaired) (uri : String) (preferred : Option String) :
    t.HandsOut t.minter.policy uri preferred (t.prefixFor uri preferred).1 (t.prefixFor uri preferred).2 := by
  unfold prefixFor
  split
  · next name hname => exact .known hname
  · next hnew =>
    obtain ⟨p, hp, hfree, hchosen⟩ | ⟨hnone, name, last, hmints, hchosen⟩ :=
      t.oneWay.choosePrefix_cases ht.attempts uri preferred
    · rw [hchosen]
      exact .preferred hnew hp hfree
    · rw [hchosen]
      exact .minted hnew hnone hmints

theorem IsPaired.oneWay_prefixFor (ht : t.IsPaired) (uri : String) (preferred : Option String) :
    t.oneWay.prefixFor uri preferred = ((t.prefixFor uri preferred).1, (t.prefixFor uri preferred).2.oneWay) := by
  have hstep := (ht.handsOut_prefixFor uri preferred).oneWay ht
  obtain ⟨hname, htable⟩ := (NamespaceTable.handsOut_prefixFor ht.attempts uri preferred).unique hstep
  exact Prod.ext hname htable

/-- And the other way round. -/
theorem IsPaired.exists_handsOut (ht : t.IsPaired) {s : NamespaceTable}
    (h : t.oneWay.HandsOut policy uri preferred name s) :
    ∃ t', t.HandsOut policy uri preferred name t' ∧ t'.oneWay = s := by
  cases h with
  | known hname => exact ⟨_, .known ((ht.prefixOf?_oneWay uri).symm.trans hname), rfl⟩
  | preferred hnew hname hfree =>
    refine ⟨_, .preferred ((ht.prefixOf?_oneWay uri).symm.trans hnew) hname hfree, ?_⟩
    rw [← ht.oneWay_add]
    rfl
  | minted hnew hname hmints =>
    refine ⟨_, .minted ((ht.prefixOf?_oneWay uri).symm.trans hnew) hname hmints, ?_⟩
    rw [← ht.oneWay_add]
    rfl

/-! ### Tables that can come about -/

theorem ofDeclarations_spec (declarations : List (String × String)) :
    (ofDeclarations declarations).IsPaired ∧
      (ofDeclarations declarations).oneWay = NamespaceTable.ofDeclarations declarations := by
  suffices h : ∀ t : TwoWayTable, t.IsPaired →
      (declarations.foldl (fun t d => if d.1 = "" then t else t.add d.1 d.2) t).IsPaired ∧
        (declarations.foldl (fun t d => if d.1 = "" then t else t.add d.1 d.2) t).oneWay =
          declarations.foldl (fun s d => if d.1 = "" then s else s.add d.1 d.2) t.oneWay from
    h empty .empty
  induction declarations with
  | nil => exact fun t ht => ⟨ht, rfl⟩
  | cons d rest ih =>
    intro t ht
    rw [List.foldl_cons, List.foldl_cons]
    split
    · exact ih t ht
    · rw [← ht.oneWay_add]
      exact ih _ (ht.add d.1 d.2)

theorem IsReachable.isPaired (h : t.IsReachable) : t.IsPaired := by
  induction h with
  | empty => exact .empty
  | ofDeclarations declarations => exact (ofDeclarations_spec declarations).1
  | add _ name uri ih => exact ih.add name uri
  | handsOut _ hstep ih => exact hstep.isPaired ih
  | withMinter _ _ ih => exact ⟨ih.inverse, ih.attempts⟩

theorem IsReachable.oneWay (h : t.IsReachable) : t.oneWay.IsReachable := by
  induction h with
  | empty => exact .empty
  | ofDeclarations declarations =>
    rw [(ofDeclarations_spec declarations).2]
    exact .ofDeclarations declarations
  | add h name uri ih =>
    rw [h.isPaired.oneWay_add]
    exact .add ih name uri
  | handsOut h hstep ih => exact .handsOut ih (hstep.oneWay h.isPaired)
  | withMinter _ minter ih => exact .withMinter ih minter

/-- The tables of one map that come about are those with two maps, seen one way. -/
theorem isReachable_oneWay_iff {s : NamespaceTable} :
    s.IsReachable ↔ ∃ t : TwoWayTable, t.IsReachable ∧ t.oneWay = s := by
  constructor
  · intro h
    induction h with
    | empty => exact ⟨_, .empty, rfl⟩
    | ofDeclarations declarations =>
      exact ⟨_, .ofDeclarations declarations, (ofDeclarations_spec declarations).2⟩
    | add _ name uri ih =>
      obtain ⟨t, ht, rfl⟩ := ih
      exact ⟨_, .add ht name uri, ht.isPaired.oneWay_add name uri⟩
    | handsOut _ hstep ih =>
      obtain ⟨t, ht, rfl⟩ := ih
      obtain ⟨t', hstep', hsame⟩ := ht.isPaired.exists_handsOut hstep
      exact ⟨t', .handsOut ht hstep', hsame⟩
    | withMinter _ minter ih =>
      obtain ⟨t, ht, rfl⟩ := ih
      exact ⟨_, .withMinter ht minter, rfl⟩
  · rintro ⟨t, ht, rfl⟩
    exact ht.oneWay

/-- What is asked of a table with two maps can be asked of the one with the first map. -/
theorem AskedOf.oneWay (h : t.AskedOf t') (ht : t.IsPaired) : t'.IsPaired ∧ t.oneWay.AskedOf t'.oneWay := by
  induction h with
  | refl => exact ⟨ht, .refl⟩
  | tail _ hstep ih =>
    obtain ⟨policy, uri, preferred, name, hstep⟩ := hstep
    exact ⟨hstep.isPaired ih.1, ih.2.tail ⟨policy, uri, preferred, name, hstep.oneWay ih.1⟩⟩

/-- What was handed out once is handed out again, and nothing else is. -/
theorem HandsOut.again (h : t.HandsOut policy uri preferred name t') (ht : t.IsPaired) {t'' : TwoWayTable}
    (hasked : t'.AskedOf t'') (policy' : MintingPolicy) (preferred' : Option String) :
    (∃ after, t''.HandsOut policy' uri preferred' name after) ∧
      ∀ name' after, t''.HandsOut policy' uri preferred' name' after → name' = name := by
  obtain ⟨ht'', hasked'⟩ := hasked.oneWay (h.isPaired ht)
  have hknown : t''.oneWay.prefixOf? uri = some name := (h.oneWay ht).known_after ht.isConsistent hasked'
  constructor
  · exact ⟨_, .known ((ht''.prefixOf?_oneWay uri).symm.trans hknown)⟩
  · intro name' after hother
    exact ((hother.oneWay ht'').unique (.known hknown)).1

/-- A table is a bijection between prefixes and namespaces: its two maps are inverse to each other. The tables of one
map are just those that have the first map of such a table, and look up the same. Binding a pair drops what either side
was bound to, and nothing else. A prefix that is asked for is found: by the table's own minter always, by any other
policy if it ever proposes a free one. It is bound to its namespace from then on, and handed out again whenever it is
asked for again, whatever was asked for in between and whatever is preferred. -/
theorem lookups_agree :
    (∀ s : NamespaceTable, s.IsReachable ↔ ∃ t : TwoWayTable, t.IsReachable ∧ t.oneWay = s) ∧
    ∀ t : TwoWayTable, t.IsReachable →
      (∀ name uri, t.uri? name = some uri ↔ t.prefixOf? uri = some name) ∧
      ((∀ name, t.oneWay.uri? name = t.uri? name) ∧ ∀ uri, t.oneWay.prefixOf? uri = t.prefixOf? uri) ∧
      (∀ name uri, (t.add name uri).oneWay = t.oneWay.add name uri ∧ ∀ other,
        (t.add name uri).uri? other =
          (if other = name then some uri else if t.uri? other = some uri then none else t.uri? other) ∧
        (t.add name uri).prefixOf? other =
          (if other = uri then some name else if t.prefixOf? other = some name then none else t.prefixOf? other)) ∧
      (∀ uri preferred,
        t.HandsOut t.minter.policy uri preferred (t.prefixFor uri preferred).1 (t.prefixFor uri preferred).2 ∧
        t.oneWay.prefixFor uri preferred = ((t.prefixFor uri preferred).1, (t.prefixFor uri preferred).2.oneWay) ∧
        ∀ policy : MintingPolicy, (∃ n, t.nextGeneration ≤ n ∧ IsFree t.uris.keys (policy uri n)) →
          ∃ name t', t.HandsOut policy uri preferred name t') ∧
      ∀ policy uri preferred name t', t.HandsOut policy uri preferred name t' →
        t'.uri? name = some uri ∧ t'.prefixOf? uri = some name ∧
        ∀ t'', t'.AskedOf t'' → ∀ policy' preferred',
          (∃ after, t''.HandsOut policy' uri preferred' name after) ∧
          ∀ name' after, t''.HandsOut policy' uri preferred' name' after → name' = name := by
  refine ⟨fun s => isReachable_oneWay_iff, ?_⟩
  intro t h
  have ht := h.isPaired
  refine ⟨fun name uri => ht.inverse.get?_iff, ⟨fun _ => rfl, ht.prefixOf?_oneWay⟩, ?_, ?_, ?_⟩
  · intro name uri
    refine ⟨ht.oneWay_add name uri, ?_⟩
    intro other
    constructor
    · have huri := ht.isConsistent.uri?_add name uri other
      rwa [← ht.oneWay_add] at huri
    · have hprefix := ht.isConsistent.prefixOf?_add name uri other
      rwa [← ht.oneWay_add, (ht.add name uri).prefixOf?_oneWay, ht.prefixOf?_oneWay] at hprefix
  · intro uri preferred
    refine ⟨ht.handsOut_prefixFor uri preferred, ht.oneWay_prefixFor uri preferred, ?_⟩
    intro policy hfree
    have hstep : ∃ name s, t.oneWay.HandsOut policy uri preferred name s :=
      NamespaceTable.HandsOut.exists_of fun _ _ => hfree
    obtain ⟨name, s, hstep⟩ := hstep
    obtain ⟨t', hstep', -⟩ := ht.exists_handsOut hstep
    exact ⟨name, t', hstep'⟩
  · intro policy uri preferred name t' hstep
    have hbound := (hstep.oneWay ht).isHanded.bound
    have hinverse := (hstep.isPaired ht).inverse
    have huri : t'.uri? name = some uri := OrderedMap.get?_of_mem hinverse.forth_nodup hbound
    refine ⟨huri, hinverse.get?_iff.mp huri, ?_⟩
    intro t'' hasked policy' preferred'
    exact hstep.again ht hasked policy' preferred'

/-! ### Crosswise bindings -/

/-- The second pair binds the prefix of the one namespace to the other, so that both old pairs have to go. -/
def crossed : TwoWayTable :=
  { (ofDeclarations [("a", "urn:one"), ("", "urn:rest"), ("b", "urn:two")]).add "a" "urn:two" with
    minter := { offered := ["", "a", "c"], stem := "n" } }

theorem lookups_agree_crossed :
    crossed.IsReachable ∧ crossed.uris = [("a", "urn:two")] ∧ crossed.prefixes = [("urn:two", "a")] ∧
    (∀ name uri, crossed.uri? name = some uri ↔ crossed.prefixOf? uri = some name) ∧
    (crossed.prefixFor "urn:one" (some "a")).1 = "c" ∧
    (crossed.prefixFor "urn:one" (some "a")).2.uri? "c" = some "urn:one" ∧
    (crossed.prefixFor "urn:one" (some "a")).2.prefixOf? "urn:one" = some "c" := by
  have hreachable : crossed.IsReachable := .withMinter (.add (.ofDeclarations _) "a" "urn:two") _
  have hminted : (crossed.prefixFor "urn:one" (some "a")).1 = "c" := by decide
  obtain ⟨hagree, -, -, hfound, hbound⟩ := lookups_agree.2 crossed hreachable
  obtain ⟨huri, hprefix, -⟩ := hbound _ _ _ _ _ (hfound "urn:one" (some "a")).1
  rw [hminted] at huri hprefix
  exact ⟨hreachable, by decide, by decide, hagree, hminted, huri, hprefix⟩

end TwoWayTable

end Soap
