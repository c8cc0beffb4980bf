import Mathlib.Data.Finset.Card
import Mathlib.Order.Interval.Finset.Nat
import Soap.Proofs.Namespace.Bijection

/-!
# How many attempts minting takes

Attempts at minting are counted by a number of 32 bits, so they must not go on too long. `mintWithin` makes a given
number of attempts at most, and fails if these do not suffice or if the counter overflows.

Proposals that differ are taken one by one: a table with `n` prefixes can refuse `n` of them, and the next one is free
(`Mints.last_le`). Numbered prefixes differ whatever their stem is. So a table that mints them makes `n + 1` attempts
at most, and where the counter has room for these it finds a prefix (`NamespaceTable.IsReachable.mints_within`).
-/

namespace Soap

/-! ## Attempts under a policy -/

/-- Why attempts at minting come to nothing. -/
inductive MintFailure where
  /-- No attempt is left. -/
  | exhausted
  /-- The counter cannot be moved on. -/
  | overflow
deriving DecidableEq, Repr

/-- Make so many attempts at minting at most, the first of which has the number `counter`. An attempt asks for a
proposal and moves the counter on before it looks at what was proposed. -/
def mintWithin (policy : MintingPolicy) (taken : List String) (uri : String) :
    (attempts : Nat) → (counter : UInt32) → Except MintFailure (String × UInt32)
  | 0, _ => .error .exhausted
  | attempts + 1, counter =>
    let proposal := policy uri counter.toNat
    if counter.toNat + 1 = 2 ^ 32 then .error .overflow
    else if IsFree taken proposal then .ok (proposal, counter + 1)
    else mintWithin policy taken uri attempts (counter + 1)

variable {policy : MintingPolicy} {taken : List String} {uri name : String} {first last : Nat}

/-- A first proposal that is free is what is minted. -/
theorem Mints.of_free (h : Mints policy taken uri first name last) (hfree : IsFree taken (policy uri first)) :
    name = policy uri first ∧ last = first := by
  apply h.unique
  refine ⟨le_rfl, rfl, hfree, ?_⟩
  intro k hk hlt
  omega

/-- A first proposal that is refused leaves what is minted to the later ones. -/
theorem Mints.of_refused (h : Mints policy taken uri first name last) (hrefused : ¬ IsFree taken (policy uri first)) :
    Mints policy taken uri (first + 1) name last := by
  have hne : first ≠ last := by
    rintro rfl
    apply hrefused
    rw [h.proposed]
    exact h.free
  have hle := h.first_le
  refine ⟨by omega, h.proposed, h.free, ?_⟩
  intro k hk
  exact h.refused k (by omega)

/-- Attempts that go far enough find what is minted, if the counter does. -/
theorem Mints.mintWithin_eq {attempts : Nat} {counter : UInt32}
    (h : Mints policy taken uri counter.toNat name last) (hattempts : last < counter.toNat + attempts)
    (hroom : last + 1 < 2 ^ 32) : mintWithin policy taken uri attempts counter = .ok (name, .ofNat (last + 1)) := by
  induction attempts generalizing counter with
  | zero =>
    have hle := h.first_le
    omega
  | succ attempts ih =>
    have hle := h.first_le
    have hsucc : (counter + 1).toNat = counter.toNat + 1 := by
      rw [UInt32.toNat_add, UInt32.toNat_one]
      exact Nat.mod_eq_of_lt (by omega)
    rw [mintWithin]
    rw [if_neg (by omega)]
    split
    · next hfree =>
      obtain ⟨rfl, rfl⟩ := h.of_free hfree
      rw [← hsucc, UInt32.ofNat_toNat]
    · next hrefused =>
      apply ih
      · rw [hsucc]
        exact h.of_refused hrefused
      · omega

/-- If all proposals differ and none is empty, as many as there are taken prefixes may be refused, and no more. -/
theorem Mints.last_le (h : Mints policy taken uri first name last) (hinj : Function.Injective (policy uri))
    (hne : ∀ k, policy uri k ≠ "") : last ≤ first + taken.length := by
  -- What was refused is taken, and there are as many of these proposals as attempts before the last one.
  have hrefused : ∀ k ∈ Finset.Ico first last, policy uri k ∈ taken.toFinset := by
    intro k hk
    obtain ⟨hfirst, hlast⟩ := Finset.mem_Ico.mp hk
    have hnot := h.refused k hfirst hlast
    rw [List.mem_toFinset]
    by_contra hfree
    exact hnot ⟨hne k, hfree⟩
  have hcard : (Finset.Ico first last).card ≤ taken.toFinset.card :=
    Finset.card_le_card_of_injOn (policy uri) hrefused hinj.injOn
  have htaken : taken.toFinset.card ≤ taken.length := taken.toFinset_card_le
  rw [Nat.card_Ico] at hcard
  omega

/-! ## Numbered prefixes -/

/-- The policy that proposes a stem followed by the number of the attempt. -/
def MintingPolicy.numbered (stem : String) : MintingPolicy := fun _ generation => stem ++ toString generation

/-- A minter that offers no names proposes numbered prefixes. -/
theorem policy_of_stem (stem : String) : PrefixMinter.policy { stem } = .numbered stem := by
  funext uri generation
  simp [PrefixMinter.policy, PrefixMinter.candidate, MintingPolicy.numbered]

/-- The first numbered prefix that is free comes after those that are taken at the latest. -/
theorem Mints.last_le_of_numbered {stem : String} (h : Mints (.numbered stem) taken uri first name last) :
    last ≤ first + taken.length := by
  apply h.last_le
  · intro a b hab
    exact numbered_injective stem hab
  · exact numbered_ne_empty stem

namespace NamespaceTable

variable {t : NamespaceTable}

/-- A new namespace that does not get its preferred prefix gets a minted one. -/
theorem prefixFor_of_minted {preferred : Option String} (hnew : t.prefixOf? uri = none)
    (hnone : ∀ p, preferred = some p → ¬ IsFree t.bindings.keys p) :
    t.prefixFor uri preferred =
      ((t.minter.mint t.bindings.keys t.nextGeneration).1,
        { t.add (t.minter.mint t.bindings.keys t.nextGeneration).1 uri with
          used := t.used.insert (t.minter.mint t.bindings.keys t.nextGeneration).1 uri
          nextGeneration := (t.minter.mint t.bindings.keys t.nextGeneration).2 + 1 }) := by
  rw [prefixFor_of_new hnew, choosePrefix_of_not_free hnone]

theorem uri?_eq_none_iff : t.uri? name = none ↔ name ∉ t.bindings.keys := OrderedMap.get?_eq_none_iff

/-- A table that mints numbered prefixes makes one attempt more than it has prefixes, at most, for a new namespace
whose preferred prefix is absent, empty or taken. If the counter has room for so many it does not overflow. What is
found was not bound before and is bound to the namespace; all other bindings are as they were. -/
theorem IsReachable.mints_within (h : t.IsReachable) {stem : String} (hminter : t.minter = { stem })
    (hnew : t.prefixOf? uri = none) {preferred : Option String}
    (hpreferred : ∀ p, preferred = some p → p = "" ∨ (t.uri? p).isSome = true)
    (hroom : t.nextGeneration + t.bindings.length + 1 ≤ 2 ^ 32 - 1) :
    ∃ name counter,
      mintWithin (.numbered stem) t.bindings.keys uri (t.bindings.length + 1) (.ofNat t.nextGeneration) =
        .ok (name, counter) ∧
      (t.prefixFor uri preferred).1 = name ∧ (t.prefixFor uri preferred).2.nextGeneration = counter.toNat ∧
      name ≠ "" ∧ t.uri? name = none ∧
      (t.prefixFor uri preferred).2.bindings = t.bindings ++ [(name, uri)] ∧
      (∀ other, other ≠ name → (t.prefixFor uri preferred).2.uri? other = t.uri? other) ∧
      ∀ other, other ≠ uri → (t.prefixFor uri preferred).2.prefixOf? other = t.prefixOf? other := by
  have ht := h.isConsistent
  have hnone : ∀ p, preferred = some p → ¬ IsFree t.bindings.keys p := by
    rintro p hp ⟨hne, hfree⟩
    rcases hpreferred p hp with hempty | htaken
    · exact hne hempty
    · rw [uri?_eq_none_iff.mpr hfree] at htaken
      cases htaken
  have hmints := t.minter.mints t.bindings.keys uri ht.attempts
  rw [prefixFor_of_minted hnew hnone]
  generalize t.minter.mint t.bindings.keys t.nextGeneration = found at hmints ⊢
  obtain ⟨name, last⟩ := found
  rw [hminter, policy_of_stem] at hmints
  have hlast : last ≤ t.nextGeneration + t.bindings.length := by
    simpa [OrderedMap.keys] using hmints.last_le_of_numbered
  have hcounter : (UInt32.ofNat t.nextGeneration).toNat = t.nextGeneration :=
    UInt32.toNat_ofNat_of_lt' (show t.nextGeneration < 2 ^ 32 by omega)
  have hafter : (UInt32.ofNat (last + 1)).toNat = last + 1 :=
    UInt32.toNat_ofNat_of_lt' (show last + 1 < 2 ^ 32 by omega)
  refine ⟨name, .ofNat (last + 1), ?_, rfl, hafter.symm, hmints.free.1, uri?_eq_none_iff.mpr hmints.free.2, ?_, ?_, ?_⟩
  · rw [← hcounter] at hmints
    apply hmints.mintWithin_eq
    · omega
    · omega
  · exact bindings_add_of_free hmints.free.2 (not_mem_values_of_prefixOf? hnew)
  · intro other hother
    show (t.add name uri).uri? other = t.uri? other
    rw [ht.uri?_add, if_neg hother, if_neg]
    intro hbound
    rw [ht.uri?_iff_prefixOf?, hnew] at hbound
    cases hbound
  · intro other hother
    show (t.add name uri).prefixOf? other = t.prefixOf? other
    rw [ht.prefixOf?_add, if_neg hother, if_neg]
    intro hbound
    rw [← ht.uri?_iff_prefixOf?, uri?_eq_none_iff.mpr hmints.free.2] at hbound
    cases hbound

/-! ### A table that takes every attempt -/

/-- The first two numbered prefixes are taken. -/
def crowded : NamespaceTable := ofDeclarations [("tns2", "urn:price"), ("tns1", "urn:stock")]

/-- The third attempt is the last that is allowed, and it is needed. -/
theorem mints_within_crowded :
    crowded.IsReachable ∧ crowded.bindings.length = 2 ∧
    mintWithin (.numbered "tns") crowded.bindings.keys "urn:orders" 2 1 = .error .exhausted ∧
    mintWithin (.numbered "tns") crowded.bindings.keys "urn:orders" 3 1 = .ok ("tns3", 4) ∧
    (crowded.prefixFor "urn:orders" (some "tns1")).1 = "tns3" ∧
    (crowded.prefixFor "urn:orders" (some "tns1")).2.nextGeneration = 4 ∧
    (crowded.prefixFor "urn:orders" (some "tns1")).2.uri? "tns1" = some "urn:stock" := by
  have hreachable : crowded.IsReachable := .ofDeclarations _
  have hnew : crowded.prefixOf? "urn:orders" = none := by decide
  have htaken : ∀ p, some "tns1" = some p → p = "" ∨ (crowded.uri? p).isSome = true := by
    intro p hp
    obtain rfl := Option.some.inj hp
    exact .inr (by decide)
  have hattempts : mintWithin (.numbered "tns") crowded.bindings.keys "urn:orders" 3 1 = .ok ("tns3", 4) := by decide
  obtain ⟨name, counter, hfound, hname, hcounter, -, -, -, hothers, -⟩ :=
    IsReachable.mints_within hreachable rfl hnew htaken (by decide)
  obtain ⟨rfl, rfl⟩ := Prod.mk.inj (Except.ok.inj (hattempts.symm.trans hfound))
  have hkept := hothers "tns1" (by decide)
  exact ⟨hreachable, by decide, by decide, hattempts, hname, hcounter, hkept⟩

end NamespaceTable

end Soap
