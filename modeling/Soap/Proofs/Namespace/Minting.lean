import Mathlib.Data.Nat.Find
import Soap.Namespace

/-!
# Minting prefixes

A table that needs a new prefix asks its policy for candidates, attempt by attempt, and takes the first
that is neither empty nor bound. `Mints` says so for any policy whatever, and minters follow it
(`PrefixMinter.mints`): the names they offer come first, and numbered prefixes never run out. What a
table hands out under a policy is `NamespaceTable.HandsOut`; with the policy of its own minter it is
`prefixFor` (`NamespaceTable.handsOut_prefixFor`).
-/

namespace Soap

/-! ## Policies -/

/-- What is proposed for a namespace at a numbered attempt. -/
abbrev MintingPolicy := String → Nat → String

/-- The policy of a minter, which does not look at the namespace. -/
def PrefixMinter.policy (m : PrefixMinter) : MintingPolicy := fun _ => m.candidate

/-- A prefix that can be bound anew. -/
def IsFree (taken : List String) (name : String) : Prop := name ≠ "" ∧ name ∉ taken

instance (taken : List String) (name : String) : Decidable (IsFree taken name) := by
  unfold IsFree
  infer_instance

/-- Asked from attempt `first` on, the policy proposes its first free prefix at attempt `last`. -/
structure Mints (policy : MintingPolicy) (taken : List String) (uri : String) (first : Nat)
    (name : String) (last : Nat) : Prop where
  first_le : first ≤ last
  proposed : policy uri last = name
  free : IsFree taken name
  refused : ∀ k, first ≤ k → k < last → ¬ IsFree taken (policy uri k)

/-- Minting comes to one result at most. -/
theorem Mints.unique {policy : MintingPolicy} {taken : List String} {uri name name' : String}
    {first last last' : Nat} (h : Mints policy taken uri first name last)
    (h' : Mints policy taken uri first name' last') : name = name' ∧ last = last' := by
  have hle : last ≤ last' := by
    by_contra hlt
    apply h.refused last' h'.first_le (by omega)
    rw [h'.proposed]
    exact h'.free
  have hge : last' ≤ last := by
    by_contra hlt
    apply h'.refused last h.first_le (by omega)
    rw [h.proposed]
    exact h.free
  obtain rfl : last = last' := Nat.le_antisymm hle hge
  exact ⟨h.proposed.symm.trans h'.proposed, rfl⟩

/-- Minting comes to a result if any later proposal is free. -/
theorem Mints.exists_of_free {policy : MintingPolicy} {taken : List String} {uri : String} {first n : Nat}
    (hn : first ≤ n) (hfree : IsFree taken (policy uri n)) : ∃ name last, Mints policy taken uri first name last := by
  have hex : ∃ k, first ≤ k ∧ IsFree taken (policy uri k) := ⟨n, hn, hfree⟩
  refine ⟨_, Nat.find hex, (Nat.find_spec hex).1, rfl, (Nat.find_spec hex).2, ?_⟩
  intro k hk hlt hkfree
  exact Nat.find_min hex hlt ⟨hk, hkfree⟩

/-! ## Offers -/

/-- A name that is offered and free is taken at its turn, after others that were not. -/
theorem firstOffer_eq_some {taken offers : List String} {first last : Nat} {name : String}
    (h : firstOffer taken offers first = some (name, last)) :
    first ≤ last ∧ offers[last - first]? = some name ∧ IsFree taken name ∧
      ∀ k, first ≤ k → k < last → ∃ refused, offers[k - first]? = some refused ∧ ¬ IsFree taken refused := by
  induction offers generalizing first with
  | nil => cases h
  | cons offer rest ih =>
    rw [firstOffer] at h
    split at h
    · next hfree =>
      simp only [Option.some.injEq, Prod.mk.injEq] at h
      obtain ⟨rfl, rfl⟩ := h
      refine ⟨le_rfl, by simp, hfree, ?_⟩
      intro k hk hlt
      omega
    · next hrefused =>
      obtain ⟨hle, hget, hfree, hbefore⟩ := ih h
      refine ⟨by omega, ?_, hfree, ?_⟩
      · rw [show last - first = last - (first + 1) + 1 by omega, List.getElem?_cons_succ]
        exact hget
      · intro k hk hlt
        rcases Nat.eq_or_lt_of_le hk with rfl | hk
        · exact ⟨offer, by simp, hrefused⟩
        · rw [show k - first = k - (first + 1) + 1 by omega, List.getElem?_cons_succ]
          exact hbefore k hk hlt

/-- If no offer is taken, none is free. -/
theorem firstOffer_eq_none {taken offers : List String} {first : Nat} (h : firstOffer taken offers first = none) :
    ∀ offer ∈ offers, ¬ IsFree taken offer := by
  induction offers generalizing first with
  | nil => simp
  | cons offer rest ih =>
    rw [firstOffer] at h
    split at h
    · cases h
    · next hrefused =>
      intro other hother
      rcases List.mem_cons.mp hother with rfl | hother
      · exact hrefused
      · exact ih h other hother

/-! ## Numbered prefixes -/

theorem numbered_ne_empty (stem : String) (n : Nat) : stem ++ toString n ≠ "" := by
  intro h
  have hdigits : (toString n).toList = [] := by
    have := congrArg String.toList h
    simp only [String.toList_append] at this
    exact (List.append_eq_nil_iff.mp this).2
  rw [Nat.toString_eq_repr, Nat.toList_repr] at hdigits
  exact Nat.toDigits_ne_nil hdigits

theorem numbered_injective (stem : String) {a b : Nat} (h : stem ++ toString a = stem ++ toString b) : a = b := by
  have hdigits : Nat.toDigits 10 a = Nat.toDigits 10 b := by
    have := congrArg String.toList h
    simp only [String.toList_append, Nat.toString_eq_repr, Nat.toList_repr] at this
    exact List.append_cancel_left this
  simpa using congrArg (fun digits => Nat.ofDigitChars 10 digits 0) hdigits

/-- The first number whose prefix is not taken. -/
theorem firstNumbered_spec (stem : String) (taken : List String) (first : Nat) :
    first ≤ (firstNumbered stem taken first).2 ∧
      stem ++ toString (firstNumbered stem taken first).2 = (firstNumbered stem taken first).1 ∧
      (firstNumbered stem taken first).1 ∉ taken ∧
      ∀ k, first ≤ k → k < (firstNumbered stem taken first).2 → stem ++ toString k ∈ taken := by
  fun_induction firstNumbered stem taken first with
  | case1 taken first candidate htaken ih =>
    obtain ⟨hle, hname, hfree, hbefore⟩ := ih
    refine ⟨by omega, hname, ?_, ?_⟩
    · -- A later candidate has another number, so striking this one from the list changed nothing for it.
      rwa [List.mem_erase_of_ne] at hfree
      rw [← hname]
      intro heq
      have := numbered_injective stem heq
      omega
    · intro k hk hlt
      rcases Nat.eq_or_lt_of_le hk with rfl | hk
      · exact htaken
      · exact List.mem_of_mem_erase (hbefore k hk hlt)
  | case2 taken first candidate hfree =>
    refine ⟨le_rfl, rfl, hfree, ?_⟩
    intro k hk hlt
    omega

/-! ## Minters -/

variable {m : PrefixMinter}

theorem PrefixMinter.candidate_of_offered {first k : Nat} (hfirst : 1 ≤ first) (hk : first ≤ k) {name : String}
    (h : (m.offered.drop (first - 1))[k - first]? = some name) : m.candidate k = name := by
  rw [List.getElem?_drop, show first - 1 + (k - first) = k - 1 by omega] at h
  rw [candidate, h]

theorem PrefixMinter.candidate_of_length_lt {k : Nat} (h : m.offered.length < k) :
    m.candidate k = m.stem ++ toString k := by
  have hnone : m.offered[k - 1]? = none := List.getElem?_eq_none (by omega)
  rw [candidate, hnone]

/-- A minter mints the first of its candidates that is free. -/
theorem PrefixMinter.mints (m : PrefixMinter) (taken : List String) (uri : String) {first : Nat} (hfirst : 1 ≤ first) :
    Mints m.policy taken uri first (m.mint taken first).1 (m.mint taken first).2 := by
  unfold mint
  split
  · next found hfound =>
    obtain ⟨hle, hget, hfree, hbefore⟩ := firstOffer_eq_some hfound
    refine ⟨hle, candidate_of_offered hfirst hle hget, hfree, ?_⟩
    intro k hk hlt
    obtain ⟨refused, hrefused, hnot⟩ := hbefore k hk hlt
    show ¬ IsFree taken (m.candidate k)
    rwa [candidate_of_offered hfirst hk hrefused]
  · next hnone =>
    obtain ⟨hle, hname, hfree, hbefore⟩ :=
      firstNumbered_spec m.stem taken (max first (m.offered.length + 1))
    refine ⟨by omega, ?_, ⟨?_, hfree⟩, ?_⟩
    · show m.candidate _ = _
      rw [candidate_of_length_lt (by omega), hname]
    · rw [← hname]
      exact numbered_ne_empty _ _
    · intro k hk hlt
      show ¬ IsFree taken (m.candidate k)
      -- An attempt before the numbered ones was an offer; those were refused.
      by_cases hoffered : k ≤ m.offered.length
      · have hget : (m.offered.drop (first - 1))[k - first]? = some m.offered[k - 1] := by
          rw [List.getElem?_drop, show first - 1 + (k - first) = k - 1 by omega, List.getElem?_eq_getElem]
        rw [candidate_of_offered hfirst hk hget]
        exact firstOffer_eq_none hnone _ (List.mem_of_getElem? hget)
      · rw [candidate_of_length_lt (by omega)]
        intro hkfree
        exact hkfree.2 (hbefore k (by omega) hlt)

/-! ## Handing out -/

namespace NamespaceTable

/-- What asking for the prefix of `uri` comes to under a policy: the prefix, and the table after it. -/
inductive HandsOut (t : NamespaceTable) (policy : MintingPolicy) (uri : String) (preferred : Option String) :
    String → NamespaceTable → Prop where
  | known {name : String} (hname : t.prefixOf? uri = some name) :
    HandsOut t policy uri preferred name { t with used := t.used.insert name uri }
  | preferred {name : String} (hnew : t.prefixOf? uri = none) (hname : preferred = some name)
    (hfree : IsFree t.bindings.keys name) :
    HandsOut t policy uri preferred name
      { t.add name uri with used := t.used.insert name uri }
  | minted {name : String} {last : Nat} (hnew : t.prefixOf? uri = none)
    (hname : ∀ p, preferred = some p → ¬ IsFree t.bindings.keys p)
    (hmints : Mints policy t.bindings.keys uri t.nextGeneration name last) :
    HandsOut t policy uri preferred name
      { t.add name uri with used := t.used.insert name uri, nextGeneration := last + 1 }

variable {t t' t'' : NamespaceTable} {policy : MintingPolicy} {uri name name' : String} {preferred : Option String}

/-- A policy leaves no choice. -/
theorem HandsOut.unique (h : t.HandsOut policy uri preferred name t') (h' : t.HandsOut policy uri preferred name' t'') :
    name = name' ∧ t' = t'' := by
  cases h with
  | known hname =>
    cases h' with
    | known hname' =>
      obtain rfl := Option.some.inj (hname.symm.trans hname')
      exact ⟨rfl, rfl⟩
    | preferred hnew _ _ | minted hnew _ _ =>
      rw [hname] at hnew
      cases hnew
  | preferred hnew hname hfree =>
    cases h' with
    | known hname' =>
      rw [hnew] at hname'
      cases hname'
    | preferred _ hname' _ =>
      obtain rfl := Option.some.inj (hname.symm.trans hname')
      exact ⟨rfl, rfl⟩
    | minted _ hnone _ => exact absurd hfree (hnone _ hname)
  | minted hnew hnone hmints =>
    cases h' with
    | known hname' =>
      rw [hnew] at hname'
      cases hname'
    | preferred _ hname' hfree => exact absurd hfree (hnone _ hname')
    | minted _ _ hmints' =>
      obtain ⟨rfl, rfl⟩ := hmints.unique hmints'
      exact ⟨rfl, rfl⟩

/-- A table hands something out unless all it could be is refused: the namespace is new, the preferred
prefix is not free, and no proposal ever is. -/
theorem HandsOut.exists_of (h : t.prefixOf? uri = none → (∀ p, preferred = some p → ¬ IsFree t.bindings.keys p) →
      ∃ n, t.nextGeneration ≤ n ∧ IsFree t.bindings.keys (policy uri n)) :
    ∃ name t', t.HandsOut policy uri preferred name t' := by
  cases hknown : t.prefixOf? uri with
  | some name => exact ⟨name, _, .known hknown⟩
  | none =>
    by_cases hpreferred : ∃ p, preferred = some p ∧ IsFree t.bindings.keys p
    · obtain ⟨p, hp, hfree⟩ := hpreferred
      exact ⟨p, _, .preferred hknown hp hfree⟩
    · have hnone : ∀ p, preferred = some p → ¬ IsFree t.bindings.keys p := by
        intro p hp hfree
        exact hpreferred ⟨p, hp, hfree⟩
      obtain ⟨n, hn, hfree⟩ := h hknown hnone
      obtain ⟨name, last, hmints⟩ := Mints.exists_of_free hn hfree
      exact ⟨name, _, .minted hknown hnone hmints⟩

/-! ### What the table's own minter leads to -/

theorem contains_eq_false_iff (m : OrderedMap String String) (name : String) :
    m.contains name = false ↔ name ∉ m.keys := by
  rw [← OrderedMap.contains_iff, Bool.not_eq_true]

theorem choosePrefix_of_free (hfree : IsFree t.bindings.keys name) :
    t.choosePrefix (some name) = (name, t.nextGeneration) := by
  have hname : name ≠ "" ∧ t.bindings.contains name = false := ⟨hfree.1, (contains_eq_false_iff _ _).mpr hfree.2⟩
  simp only [choosePrefix, if_pos hname]

theorem choosePrefix_of_not_free (hnone : ∀ p, preferred = some p → ¬ IsFree t.bindings.keys p) :
    t.choosePrefix preferred =
      ((t.minter.mint t.bindings.keys t.nextGeneration).1, (t.minter.mint t.bindings.keys t.nextGeneration).2 + 1) := by
  cases preferred with
  | none => rfl
  | some p =>
    have hp : ¬ (p ≠ "" ∧ t.bindings.contains p = false) := by
      rintro ⟨hne, hfree⟩
      exact hnone p rfl ⟨hne, (contains_eq_false_iff _ _).mp hfree⟩
    simp only [choosePrefix, if_neg hp]

/-- The preferred prefix is chosen if it is free, and else what the minter proposes first that is. -/
theorem choosePrefix_cases (ht : 1 ≤ t.nextGeneration) (uri : String) (preferred : Option String) :
    (∃ p, preferred = some p ∧ IsFree t.bindings.keys p ∧ t.choosePrefix preferred = (p, t.nextGeneration)) ∨
      (∀ p, preferred = some p → ¬ IsFree t.bindings.keys p) ∧
        ∃ name last, Mints t.minter.policy t.bindings.keys uri t.nextGeneration name last ∧
          t.choosePrefix preferred = (name, last + 1) := by
  by_cases hpreferred : ∃ p, preferred = some p ∧ IsFree t.bindings.keys p
  · obtain ⟨p, rfl, hfree⟩ := hpreferred
    exact .inl ⟨p, rfl, hfree, choosePrefix_of_free hfree⟩
  · have hnone : ∀ p, preferred = some p → ¬ IsFree t.bindings.keys p := by
      intro p hp hfree
      exact hpreferred ⟨p, hp, hfree⟩
    exact .inr ⟨hnone, _, _, t.minter.mints _ _ ht, choosePrefix_of_not_free hnone⟩

theorem prefixFor_of_known (hname : t.prefixOf? uri = some name) :
    t.prefixFor uri preferred = (name, { t with used := t.used.insert name uri }) := by
  simp only [prefixFor, hname]

theorem prefixFor_of_new (hnew : t.prefixOf? uri = none) :
    t.prefixFor uri preferred =
      ((t.choosePrefix preferred).1,
        { t.add (t.choosePrefix preferred).1 uri with
          used := t.used.insert (t.choosePrefix preferred).1 uri
          nextGeneration := (t.choosePrefix preferred).2 }) := by
  simp only [prefixFor, hnew]
  rfl

theorem handsOut_prefixFor (ht : 1 ≤ t.nextGeneration) (uri : String) (preferred : Option String) :
    t.HandsOut t.minter.policy uri preferred (t.prefixFor uri preferred).1 (t.prefixFor uri preferred).2 := by
  cases hknown : t.prefixOf? uri with
  | some name =>
    rw [prefixFor_of_known hknown]
    exact .known hknown
  | none =>
    rw [prefixFor_of_new hknown]
    obtain ⟨p, hp, hfree, hchosen⟩ | ⟨hnone, name, last, hmints, hchosen⟩ := t.choosePrefix_cases ht uri preferred
    · rw [hchosen]
      exact .preferred hknown hp hfree
    · rw [hchosen]
      exact .minted hknown hnone hmints

end NamespaceTable

end Soap
