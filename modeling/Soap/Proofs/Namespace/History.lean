import Mathlib.Data.List.Nodup
import Soap.Proofs.Namespace.Declaring

/-!
# The history of a namespace table

What is in a table is told by the pairs of prefixes and namespaces that it was given and that it handed out, latest
first (`NamespaceTable.HasHistory`). A pair is bound just if it is the latest of those with its prefix or its
namespace (`HasHistory.mem_bindings_iff`). It is used just if it was the last one to be handed out with its prefix
(`HasHistory.get?_used`): a pair that is bound later does not change what is used.

So a table may use, and declare, a prefix for a namespace that has another one by now. It does so exactly if a pair
was bound over one that had been handed out (`IsReachable.current_iff_isLatest`), and never if all pairs are bound
before the first one is handed out.
-/

namespace Soap

namespace NamespaceTable

/-! ## Histories -/

/-- A pair that was bound, or handed out. -/
structure Change where
  name : String
  uri : String
  handedOut : Bool
deriving DecidableEq

namespace Change

def pair (c : Change) : String × String := (c.name, c.uri)

/-- Does it take one of the sides of a pair, or both? -/
def concerns (entry : String × String) (c : Change) : Bool := c.name == entry.1 || c.uri == entry.2

/-- Was this prefix handed out? -/
def gives (name : String) (c : Change) : Bool := c.handedOut && c.name == name

end Change

/-- The latest change that takes a side of the pair makes the pair. -/
def IsLatest (past : List Change) (entry : String × String) : Prop :=
  (past.find? (·.concerns entry)).map Change.pair = some entry

instance (past : List Change) (entry : String × String) : Decidable (IsLatest past entry) := by
  unfold IsLatest
  infer_instance

/-- All pairs were bound before the first one was handed out. -/
def BindsFirst (past : List Change) : Prop :=
  ∀ later c earlier, past = later ++ c :: earlier → c.handedOut = false → ∀ c' ∈ earlier, c'.handedOut = false

/-- The changes that led to a table, latest first. -/
inductive HasHistory : List Change → NamespaceTable → Prop
  | empty : HasHistory [] empty
  | add {past : List Change} {t : NamespaceTable} (h : HasHistory past t) (name uri : String) :
    HasHistory (⟨name, uri, false⟩ :: past) (t.add name uri)
  | handsOut {past : List Change} {t t' : NamespaceTable} (h : HasHistory past t) {policy : MintingPolicy}
    {uri name : String} {preferred : Option String} (hstep : t.HandsOut policy uri preferred name t') :
    HasHistory (⟨name, uri, true⟩ :: past) t'
  | withMinter {past : List Change} {t : NamespaceTable} (h : HasHistory past t) (minter : PrefixMinter) :
    HasHistory past { t with minter }

variable {t t' : NamespaceTable} {past : List Change} {policy : MintingPolicy} {name uri : String}
  {preferred : Option String} {entry : String × String}

theorem HasHistory.isReachable (h : HasHistory past t) : t.IsReachable := by
  induction h with
  | empty => exact .empty
  | add _ name uri ih => exact .add ih name uri
  | handsOut _ hstep ih => exact .handsOut ih hstep
  | withMinter _ minter ih => exact .withMinter ih minter

/-- The declarations of a document are bound one after the other. -/
theorem HasHistory.exists_ofDeclarations (declarations : List (String × String)) :
    ∃ past, HasHistory past (ofDeclarations declarations) := by
  suffices h : ∀ past t, HasHistory past t → ∃ past,
      HasHistory past (declarations.foldl (fun t d => if d.1 = "" then t else t.add d.1 d.2) t) from
    h [] _ .empty
  induction declarations with
  | nil => exact fun past t h => ⟨past, h⟩
  | cons d rest ih =>
    intro past t h
    rw [List.foldl_cons]
    split
    · exact ih past t h
    · exact ih _ _ (h.add d.1 d.2)

theorem IsReachable.exists_history (h : t.IsReachable) : ∃ past, HasHistory past t := by
  induction h with
  | empty => exact ⟨[], .empty⟩
  | ofDeclarations declarations => exact HasHistory.exists_ofDeclarations declarations
  | add _ name uri ih =>
    obtain ⟨past, hpast⟩ := ih
    exact ⟨_, hpast.add name uri⟩
  | handsOut _ hstep ih =>
    obtain ⟨past, hpast⟩ := ih
    exact ⟨_, hpast.handsOut hstep⟩
  | withMinter _ minter ih =>
    obtain ⟨past, hpast⟩ := ih
    exact ⟨past, hpast.withMinter minter⟩

/-! ## What is bound -/

theorem isLatest_cons {c : Change} :
    IsLatest (c :: past) entry ↔ (IsLatest past entry ∧ entry.1 ≠ c.name ∧ entry.2 ≠ c.uri) ∨ entry = c.pair := by
  unfold IsLatest
  by_cases hconcerns : c.concerns entry = true
  · rw [List.find?_cons_of_pos hconcerns, Option.map_some, Option.some.injEq]
    simp only [Change.concerns, Bool.or_eq_true, beq_iff_eq] at hconcerns
    grind
  · rw [List.find?_cons_of_neg hconcerns]
    simp only [Change.concerns, Bool.or_eq_true, beq_iff_eq, not_or] at hconcerns
    have hne : entry ≠ c.pair := fun heq => hconcerns.1 (congrArg Prod.fst heq).symm
    simp [hne, Ne.symm hconcerns.1, Ne.symm hconcerns.2]

/-- Handing out a pair leaves the bindings as binding it does. -/
theorem HandsOut.mem_bindings_iff (h : t.HandsOut policy uri preferred name t') (ht : t.IsConsistent) :
    entry ∈ t'.bindings ↔ (entry ∈ t.bindings ∧ entry.1 ≠ name ∧ entry.2 ≠ uri) ∨ entry = (name, uri) := by
  have hhanded := h.isHanded
  rcases hhanded.bindings with hsame | ⟨hmore, hname, huri⟩
  · -- The pair was bound before, so no other pair has one of its sides.
    have hbound := hhanded.bound
    rw [hsame] at hbound ⊢
    constructor
    · intro hentry
      have hsides : entry.1 = name ↔ entry.2 = uri := by
        have hentry' := ht.uri?_eq_some_iff.mpr hentry
        have hback := ht.prefixOf?_eq_some_iff.mpr hentry
        have hbound' := ht.uri?_eq_some_iff.mpr hbound
        have hback' := ht.prefixOf?_eq_some_iff.mpr hbound
        constructor
        · rintro rfl
          exact Option.some.inj (hentry'.symm.trans hbound')
        · rintro rfl
          exact Option.some.inj (hback.symm.trans hback')
      by_cases hside : entry.1 = name
      · exact .inr (Prod.ext hside (hsides.mp hside))
      · exact .inl ⟨hentry, hside, fun h => hside (hsides.mpr h)⟩
    · rintro (⟨hentry, -⟩ | rfl)
      · exact hentry
      · exact hbound
  · rw [hmore, ← bindings_add_of_free hname.2 huri, mem_add]

/-- A pair is bound just if it is the latest of those with its prefix or its namespace. -/
theorem HasHistory.mem_bindings_iff (h : HasHistory past t) : entry ∈ t.bindings ↔ IsLatest past entry := by
  induction h with
  | empty => exact iff_of_false List.not_mem_nil (by simp [IsLatest])
  | add _ name uri ih => rw [mem_add, isLatest_cons, ih, Change.pair]
  | handsOut hpast hstep ih =>
    rw [hstep.mem_bindings_iff hpast.isReachable.isConsistent, isLatest_cons, ih, Change.pair]
  | withMinter _ _ ih => exact ih

/-! ## What is used -/

/-- A prefix is used for the namespace that it was last handed out for. -/
theorem HasHistory.get?_used (h : HasHistory past t) (name : String) :
    t.used.get? name = (past.find? (·.gives name)).map Change.uri := by
  induction h with
  | empty => rfl
  | add _ _ _ ih =>
    rw [List.find?_cons_of_neg (by simp [Change.gives])]
    exact ih
  | @handsOut _ _ _ _ _ _ given _ hstep ih =>
    rw [hstep.isHanded.used, OrderedMap.get?_insert]
    by_cases hname : given = name
    · rw [if_pos hname, List.find?_cons_of_pos (by simp [Change.gives, hname]), Option.map_some]
    · rw [if_neg hname, List.find?_cons_of_neg (by simp [Change.gives, hname]), ih]
  | withMinter _ _ ih => exact ih

/-- A pair that is used was handed out. -/
theorem HasHistory.exists_handedOut (h : HasHistory past t) (hentry : entry ∈ t.used) :
    ∃ c ∈ past, c.handedOut = true := by
  have hget := OrderedMap.get?_of_mem h.isReachable.nodup_used hentry
  rw [h.get?_used] at hget
  obtain ⟨c, hfind, -⟩ := Option.map_eq_some_iff.mp hget
  have hgives := List.find?_some hfind
  exact ⟨c, List.mem_of_find?_eq_some hfind, (Bool.and_eq_true_iff.mp hgives).1⟩

theorem BindsFirst.tail {c : Change} (h : BindsFirst (c :: past)) : BindsFirst past := by
  intro later c' earlier heq
  exact h (c :: later) c' earlier (by rw [heq, List.cons_append])

/-- What is handed out after all pairs are bound stays bound. -/
theorem HasHistory.mem_bindings_of_bindsFirst (h : HasHistory past t) (hfirst : BindsFirst past)
    (hentry : entry ∈ t.used) : entry ∈ t.bindings := by
  induction h with
  | empty => cases hentry
  | add hpast name uri _ =>
    -- Nothing was handed out before this pair was bound.
    obtain ⟨c, hc, hhanded⟩ := hpast.exists_handedOut hentry
    have hnone := hfirst [] _ _ rfl rfl c hc
    rw [hhanded] at hnone
    cases hnone
  | handsOut _ hstep ih =>
    rw [hstep.isHanded.used] at hentry
    rcases OrderedMap.mem_insert hentry with rfl | hentry
    · exact hstep.isHanded.bound
    · exact hstep.isHanded.mem_of_mem (ih hfirst.tail hentry)
  | withMinter _ _ ih => exact ih hfirst hentry

/-! ## Current pairs -/

/-- The prefix is bound to the namespace, and the namespace has this prefix. -/
def IsCurrent (t : NamespaceTable) (entry : String × String) : Prop :=
  t.uri? entry.1 = some entry.2 ∧ t.prefixOf? entry.2 = some entry.1

instance (t : NamespaceTable) (entry : String × String) : Decidable (t.IsCurrent entry) := by
  unfold IsCurrent
  infer_instance

theorem IsConsistent.isCurrent_iff (h : t.IsConsistent) : t.IsCurrent entry ↔ entry ∈ t.bindings := by
  rw [IsCurrent, h.uri?_eq_some_iff, h.prefixOf?_eq_some_iff, and_self_iff]

/-- Current pairs share no namespace. -/
theorem nodup_uris_of_isCurrent {entries : List (String × String)} (hnodup : entries.Nodup)
    (h : ∀ entry ∈ entries, t.IsCurrent entry) : (entries.map Prod.snd).Nodup := by
  refine hnodup.map_on fun a ha b hb huri => Prod.ext ?_ huri
  have hname := (h a ha).2
  rw [huri, (h b hb).2] at hname
  exact (Option.some.inj hname).symm

/-- A pair that was handed out is current just if no later change took one of its sides from it: the latest that
has its prefix or its namespace makes this pair. Where that is so of all that are used, a table declares current
pairs only, and no namespace twice. It is so wherever all pairs are bound before the first one is handed out. -/
theorem IsReachable.current_iff_isLatest (h : t.IsReachable) :
    (∃ past, HasHistory past t) ∧
    ∀ past, HasHistory past t →
      (∀ entry ∈ t.used, t.IsCurrent entry ↔ IsLatest past entry) ∧
      ((∀ entry ∈ t.used, IsLatest past entry) →
        (∀ entry ∈ t.declarations, t.IsCurrent entry) ∧ (t.declarations.map Prod.snd).Nodup) ∧
      (BindsFirst past → ∀ entry ∈ t.used, t.IsCurrent entry) := by
  have ht := h.isConsistent
  refine ⟨h.exists_history, fun past hpast => ?_⟩
  have hcurrent (entry : String × String) : t.IsCurrent entry ↔ IsLatest past entry := by
    rw [ht.isCurrent_iff, hpast.mem_bindings_iff]
  refine ⟨fun entry _ => hcurrent entry, fun hlatest => ?_, fun hfirst entry hentry => ?_⟩
  · have hdeclared : ∀ entry ∈ t.declarations, t.IsCurrent entry := by
      intro entry hentry
      exact (hcurrent entry).mpr (hlatest entry (List.mem_of_mem_filter hentry))
    have hnodup : t.declarations.Nodup := h.nodup_used.of_map.filter _
    exact ⟨hdeclared, nodup_uris_of_isCurrent hnodup hdeclared⟩
  · exact ht.isCurrent_iff.mpr (hpast.mem_bindings_of_bindsFirst hfirst hentry)

/-! ### Pairs bound too late -/

/-- The prefix that was handed out is bound to another namespace. -/
def rebound : NamespaceTable := (askedFor "urn:stock").add "q" "urn:price"

/-- The namespace that has a prefix gets another one, which is handed out as well. -/
def renamed : NamespaceTable := (((askedFor "urn:stock").add "s" "urn:stock").prefixFor "urn:stock" none).2

def pastOfRebound : List Change := [⟨"q", "urn:price", false⟩, ⟨"q", "urn:stock", true⟩]

theorem hasHistory_rebound : HasHistory pastOfRebound rebound :=
  .add (.handsOut .empty (handsOut_prefixFor (le_refl 1) "urn:stock" (some "q"))) "q" "urn:price"

theorem isReachable_renamed : renamed.IsReachable :=
  .handsOut (.add (isReachable_askedFor "urn:stock") "s" "urn:stock") (handsOut_prefixFor (le_refl 1) "urn:stock" none)

theorem current_iff_isLatest_rebound :
    rebound.IsReachable ∧ HasHistory pastOfRebound rebound ∧ ("q", "urn:stock") ∈ rebound.used ∧
    ¬ rebound.IsCurrent ("q", "urn:stock") := by
  have hreachable := hasHistory_rebound.isReachable
  have hused : ("q", "urn:stock") ∈ rebound.used := by decide
  obtain ⟨-, hpast⟩ := IsReachable.current_iff_isLatest hreachable
  obtain ⟨hiff, -, -⟩ := hpast _ hasHistory_rebound
  exact ⟨hreachable, hasHistory_rebound, hused, fun hcurrent => absurd ((hiff _ hused).mp hcurrent) (by decide)⟩

/-- A table uses pairs that are no longer bound. It declares a prefix that it gives to another namespace by now,
and two prefixes for one namespace. -/
theorem not_used_is_current :
    (¬ ∀ t : NamespaceTable, t.IsReachable → ∀ entry ∈ t.used, t.IsCurrent entry) ∧
    (rebound.declarations = [("q", "urn:stock")] ∧ rebound.uri? "q" = some "urn:price" ∧
      rebound.prefixOf? "urn:stock" = none) ∧
    renamed.IsReachable ∧ renamed.declarations = [("q", "urn:stock"), ("s", "urn:stock")] := by
  refine ⟨fun h => ?_, by decide, isReachable_renamed, by decide⟩
  have hcurrent := h rebound hasHistory_rebound.isReachable ("q", "urn:stock") (by decide)
  exact absurd hcurrent (by decide)

end NamespaceTable

end Soap
