/-!
# Cutting text at a separator

`splitFirst` cuts at the first separator, `pieces` at every one. Both are functions on lists of
characters; the laws say that nothing but the separators is lost.
-/

namespace Soap.Text

/-- What stands before and after the first character satisfying `sep`, if there is one. -/
def splitFirst (sep : Char → Bool) : List Char → Option (List Char × List Char)
  | [] => none
  | c :: rest =>
    if sep c then some ([], rest) else (splitFirst sep rest).map fun (a, b) => (c :: a, b)

/-- The part of `cs` before the first character satisfying `sep`, or all of it. -/
def before (sep : Char → Bool) (cs : List Char) : List Char := cs.takeWhile (fun c => !sep c)

/-- The parts of `cs` between the characters satisfying `sep`; there is always one. -/
def pieces (sep : Char → Bool) : List Char → List (List Char)
  | [] => [[]]
  | c :: rest =>
    if sep c then [] :: pieces sep rest
    else match pieces sep rest with
      | [] => [[c]]
      | piece :: more => (c :: piece) :: more

/-- The text after `lead`, if the text begins with it. -/
def afterLead? : (lead cs : List Char) → Option (List Char)
  | [], cs => some cs
  | _ :: _, [] => none
  | l :: lead, c :: cs => if l = c then afterLead? lead cs else none

/-- The text before `tail`, if the text ends with it. -/
def beforeTail? (tail cs : List Char) : Option (List Char) :=
  (afterLead? tail.reverse cs.reverse).map List.reverse

def lower (s : String) : String := s.map Char.toLower

def upper (s : String) : String := s.map Char.toUpper

/-! ### Laws -/

theorem splitFirst_eq_some {sep : Char → Bool} {cs a b : List Char}
    (h : splitFirst sep cs = some (a, b)) :
    ∃ c, sep c = true ∧ cs = a ++ c :: b ∧ ∀ x ∈ a, sep x = false := by
  induction cs generalizing a b with
  | nil => simp [splitFirst] at h
  | cons c rest ih =>
    simp only [splitFirst] at h
    split at h
    · next hc =>
      simp only [Option.some.injEq, Prod.mk.injEq] at h
      obtain ⟨rfl, rfl⟩ := h
      exact ⟨c, hc, rfl, by simp⟩
    · next hc =>
      obtain ⟨⟨a', b'⟩, hrec, heq⟩ := Option.map_eq_some_iff.1 h
      simp only [Prod.mk.injEq] at heq
      obtain ⟨rfl, rfl⟩ := heq
      obtain ⟨d, hd, hrest, hall⟩ := ih hrec
      refine ⟨d, hd, by simp [hrest], ?_⟩
      intro x hx
      rcases List.mem_cons.1 hx with rfl | hx
      · simpa using hc
      · exact hall x hx

theorem splitFirst_append {sep : Char → Bool} {a : List Char} {c : Char} (b : List Char)
    (ha : ∀ x ∈ a, sep x = false) (hc : sep c = true) :
    splitFirst sep (a ++ c :: b) = some (a, b) := by
  induction a with
  | nil => simp [splitFirst, hc]
  | cons x a ih =>
    have hx : sep x = false := ha x (by simp)
    simp [splitFirst, hx, ih fun y hy => ha y (by simp [hy])]

theorem splitFirst_eq_none {sep : Char → Bool} {cs : List Char} :
    splitFirst sep cs = none ↔ ∀ x ∈ cs, sep x = false := by
  induction cs with
  | nil => simp [splitFirst]
  | cons c rest ih =>
    by_cases h : sep c = true <;> simp [splitFirst, h, ih]

@[simp] theorem afterLead?_append (lead cs : List Char) :
    afterLead? lead (lead ++ cs) = some cs := by
  induction lead with
  | nil => rfl
  | cons l lead ih => simp [afterLead?, ih]

/-- The text after `lead` is shorter by the length of `lead`. -/
theorem length_of_afterLead? {lead cs rest : List Char} (h : afterLead? lead cs = some rest) :
    cs.length = lead.length + rest.length := by
  induction lead generalizing cs with
  | nil => simp_all [afterLead?]
  | cons l lead ih =>
    cases cs with
    | nil => simp [afterLead?] at h
    | cons c cs =>
      simp only [afterLead?] at h
      split at h
      · have := ih h
        simp only [List.length_cons]
        omega
      · cases h

end Soap.Text
