import Soap.Text.Split

/-!
# More on cutting text

What `afterLead?` and `beforeTail?` cut off stood there. The first part of a text ends before its
first separator; without one, it is the whole text. No separator stands in a part.
-/

namespace Soap.Text

theorem afterLead?_eq_some {lead cs rest : List Char} :
    afterLead? lead cs = some rest ↔ cs = lead ++ rest := by
  induction lead generalizing cs with
  | nil => simp [afterLead?]
  | cons l lead ih =>
    cases cs with
    | nil => simp [afterLead?]
    | cons c cs =>
      rw [afterLead?]
      split
      · next h => rw [ih, h, List.cons_append, List.cons.injEq, and_iff_right rfl]
      · next h =>
        refine ⟨fun hnone => ?_, fun he => absurd (List.cons.inj he).1.symm h⟩
        cases hnone

theorem beforeTail?_eq_some {tail cs rest : List Char} :
    beforeTail? tail cs = some rest ↔ cs = rest ++ tail := by
  rw [beforeTail?, Option.map_eq_some_iff]
  constructor
  · rintro ⟨reversed, h, rfl⟩
    have hcs := congrArg List.reverse (afterLead?_eq_some.mp h)
    rwa [List.reverse_reverse, List.reverse_append, List.reverse_reverse] at hcs
  · rintro rfl
    exact ⟨rest.reverse, by rw [List.reverse_append, afterLead?_append], List.reverse_reverse rest⟩

/-- Without a separator, all stands before the first one. -/
theorem before_eq_self {sep : Char → Bool} {cs : List Char} (h : ∀ c ∈ cs, sep c = false) :
    before sep cs = cs := by
  rw [before, ← List.append_nil cs, List.takeWhile_append_of_pos fun c hc => by rw [h c hc]; rfl]
  rfl

/-- What stands before the first separator. -/
theorem before_append {sep : Char → Bool} {cs : List Char} (h : ∀ c ∈ cs, sep c = false) {c : Char}
    (hc : sep c = true) (rest : List Char) : before sep (cs ++ c :: rest) = cs := by
  rw [before, List.takeWhile_append_of_pos fun c hc => by rw [h c hc]; rfl, List.takeWhile_cons_of_neg (by simp [hc]),
    List.append_nil]

/-- The parts between separators are those of the library. -/
theorem pieces_eq_splitOn (sep : Char) (cs : List Char) : pieces (· == sep) cs = cs.splitOn sep := by
  induction cs with
  | nil => rfl
  | cons c rest ih =>
    rw [pieces, List.splitOn_cons_eq_if_modifyHead, ih]
    split
    · rfl
    · obtain ⟨first, more, hrest⟩ := List.exists_cons_of_ne_nil (List.splitOn_ne_nil sep rest)
      rw [hrest]
      rfl

/-- No separator stands in a part. -/
theorem not_sep_of_mem_pieces {sep : Char → Bool} {cs piece : List Char} (h : piece ∈ pieces sep cs) {c : Char}
    (hc : c ∈ piece) : sep c = false := by
  induction cs generalizing piece with
  | nil =>
    obtain rfl := List.mem_singleton.mp h
    cases hc
  | cons d rest ih =>
    rw [pieces] at h
    split at h
    · rcases List.mem_cons.mp h with rfl | h
      · cases hc
      · exact ih h hc
    · next hd =>
      have hd : sep d = false := by simpa using hd
      cases hrest : pieces sep rest with
      | nil =>
        rw [hrest] at h
        obtain rfl := List.mem_singleton.mp h
        obtain rfl := List.mem_singleton.mp hc
        exact hd
      | cons first more =>
        rw [hrest] at h ih
        rcases List.mem_cons.mp h with rfl | h
        · rcases List.mem_cons.mp hc with rfl | hc
          · exact hd
          · exact ih List.mem_cons_self hc
        · exact ih (List.mem_cons_of_mem first h) hc

end Soap.Text
