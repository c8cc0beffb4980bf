/-!
# Counting what is left to visit

Four walks of the library follow references instead of subterms: describing recursive types,
looking for missing references, unfolding multi-references and processing includes. Each keeps a
list of what it has seen and enters only what is new, so each ends for one reason, given here: the
number of candidates not yet seen drops when a new one is seen (`unvisited_cons_lt`).
-/

namespace Soap

/-- How many of `candidates` are not in `seen`. -/
def unvisited [DecidableEq α] (candidates seen : List α) : Nat :=
  candidates.countP (fun a => decide (a ∉ seen))

/-- Seeing more leaves no more. -/
theorem unvisited_le_of_subset [DecidableEq α] (candidates : List α) {seen seen' : List α} (h : seen ⊆ seen') :
    unvisited candidates seen' ≤ unvisited candidates seen := by
  refine List.countP_mono_left fun x _ hnew => ?_
  rw [decide_eq_true_eq] at hnew ⊢
  exact fun hseen => hnew (h hseen)

theorem unvisited_cons_le [DecidableEq α] (candidates seen : List α) (a : α) :
    unvisited candidates (a :: seen) ≤ unvisited candidates seen :=
  unvisited_le_of_subset candidates (List.subset_cons_self a seen)

/-- Seeing a new candidate lowers the count. -/
theorem unvisited_cons_lt [DecidableEq α] {candidates seen : List α} {a : α}
    (hmem : a ∈ candidates) (hnew : a ∉ seen) :
    unvisited candidates (a :: seen) < unvisited candidates seen := by
  induction candidates with
  | nil => cases hmem
  | cons c rest ih =>
    have hle := unvisited_cons_le rest seen a
    simp only [unvisited, List.countP_cons] at hle ih ⊢
    by_cases hc : c = a
    · subst hc
      rw [if_neg (by simp), if_pos (by simp [hnew])]
      omega
    · have hrest : a ∈ rest := by
        cases hmem with
        | head => exact absurd rfl hc
        | tail _ h => exact h
      have hlt := ih hrest
      by_cases hs : c ∈ seen
      · rw [if_neg (by simp [hs]), if_neg (by simp [hs])]
        omega
      · rw [if_pos (by simp [hs, hc]), if_pos (by simp [hs])]
        omega

end Soap
