import Mathlib.Data.List.DropRight
import Soap.Text.Blank
import Soap.Text.Integer

/-!
# Reading digits

The digits of a number read back as the number (`decimalValue_toDigits`), and the text of a 64-bit
integer as the integer (`leadingInt64?_toString`). Digits are no blanks, so such texts have nothing
to be trimmed; and nor has what was trimmed before (`trimChars_trimChars`).
-/

namespace Soap.Text

/-! ## Blanks -/

/-- Nothing is trimmed where there are no blanks. -/
theorem trimChars_of_forall {cs : List Char} (h : ∀ c ∈ cs, isBlank c = false) :
    trimChars cs = cs := by
  have hdrop : ∀ {ds : List Char}, (∀ c ∈ ds, isBlank c = false) → ds.dropWhile isBlank = ds := by
    intro ds hds
    cases ds with
    | nil => rfl
    | cons d rest => simp [hds d (by simp)]
  rw [trimChars, trimStart, hdrop h, trimEnd, hdrop (fun c hc => h c (List.mem_reverse.mp hc)),
    List.reverse_reverse]

/-- There is nothing left to trim. -/
theorem trimChars_trimChars (cs : List Char) : trimChars (trimChars cs) = trimChars cs := by
  have hlead : trimChars cs <+: trimStart cs := List.rdropWhile_prefix isBlank _
  have hstart : trimStart (trimStart cs) = trimStart cs := List.dropWhile_idempotent isBlank cs
  -- What is left begins as it did when the blanks in front of it were taken away.
  have htrimmed : trimStart (trimChars cs) = trimChars cs := by
    rw [trimStart, List.dropWhile_eq_self_iff] at hstart ⊢
    intro hpos
    rw [hlead.getElem hpos]
    exact hstart (Nat.lt_of_lt_of_le hpos hlead.length_le)
  rw [trimChars, htrimmed]
  exact List.rdropWhile_idempotent isBlank _

/-! ## Digits -/

/-- A digit stands for its distance from `0`. -/
theorem digitValue?_of_isDigit {c : Char} (h : c.isDigit = true) :
    digitValue? 10 c = some (c.toNat - '0'.toNat) := by
  simp only [Char.isDigit, Bool.and_eq_true, decide_eq_true_eq, UInt32.le_iff_toNat_le] at h
  have hlow : 0x30 ≤ c.toNat := h.1
  have hhigh : c.toNat ≤ 0x39 := h.2
  have hsmall : c.toNat - 0x30 < 10 := by omega
  simp [digitValue?, hlow, hhigh, hsmall]

theorem isDigit_of_isDigit {c : Char} (h : c.isDigit = true) : isDigit c = true := by
  simp [isDigit, digitValue?_of_isDigit h]

/-- No digit is a blank. -/
theorem isBlank_of_isDigit {c : Char} (h : c.isDigit = true) : isBlank c = false := by
  simp only [Char.isDigit, Bool.and_eq_true, decide_eq_true_eq, UInt32.le_iff_toNat_le] at h
  have hlow : 0x30 ≤ c.toNat := h.1
  have hhigh : c.toNat ≤ 0x39 := h.2
  simp only [isBlank, Bool.or_eq_false_iff, Bool.and_eq_false_iff, decide_eq_false_iff_not,
    beq_eq_false_iff_ne]
  omega

theorem isDigit_toDigits (n : Nat) : ∀ c ∈ Nat.toDigits 10 n, c.isDigit = true := fun _ hc =>
  Nat.isDigit_of_mem_toDigits (by decide) (by decide) hc

/-- The value of digits, in the words of the core library. -/
theorem decimalValue_eq {cs : List Char} (h : ∀ c ∈ cs, c.isDigit = true) :
    decimalValue cs = Nat.ofDigitChars 10 cs 0 := by
  have hfold : ∀ n : Nat, cs.foldl (fun n c => n * 10 + (digitValue? 10 c).getD 0) n =
      Nat.ofDigitChars 10 cs n := by
    induction cs with
    | nil => exact fun n => by simp
    | cons c rest ih =>
      intro n
      rw [List.foldl_cons, ih fun d hd => h d (by simp [hd]), Nat.ofDigitChars_cons,
        digitValue?_of_isDigit (h c (by simp)), Nat.mul_comm]
      rfl
  exact hfold 0

@[simp] theorem decimalValue_toDigits (n : Nat) : decimalValue (Nat.toDigits 10 n) = n := by
  rw [decimalValue_eq (isDigit_toDigits n), Nat.ofDigitChars_ten_toDigits]

theorem takeWhile_isDigit {cs : List Char} (h : ∀ c ∈ cs, c.isDigit = true) :
    cs.takeWhile isDigit = cs := by
  induction cs with
  | nil => rfl
  | cons c rest ih =>
    rw [List.takeWhile_cons_of_pos (isDigit_of_isDigit (h c (by simp))),
      ih fun d hd => h d (by simp [hd])]

/-! ## Integers -/

theorem int64?_toInt (n : Int64) : int64? n.toInt = some n := by
  rw [int64?, if_pos ⟨n.minValue_le_toInt, n.toInt_le⟩, Int64.ofInt_toInt]

/-- Digits are read whole. -/
theorem leadingInt64?_of_digits {cs digits : List Char} {negative : Bool}
    (hsign : splitSign cs = (negative, digits)) (hdigits : ∀ c ∈ digits, c.isDigit = true)
    (hne : digits ≠ []) : leadingInt64? cs = int64? (signedValue negative digits) := by
  simp only [leadingInt64?, hsign, takeWhile_isDigit hdigits]

theorem splitSign_toDigits (n : Nat) :
    splitSign (Nat.toDigits 10 n) = (false, Nat.toDigits 10 n) := by
  have hdigits := isDigit_toDigits n
  unfold splitSign
  split
  · next h => exact absurd (hdigits '-' (by simp [h])) (by decide)
  · next h => exact absurd (hdigits '+' (by simp [h])) (by decide)
  · rfl

/-- The text of an integer, as characters. -/
theorem toList_toString (n : Int) :
    (toString n).toList =
      if 0 ≤ n then Nat.toDigits 10 n.toNat else '-' :: Nat.toDigits 10 (-n).toNat := by
  rw [Int.toString_eq_repr, Int.repr_eq_if]
  split
  · exact Nat.toList_repr
  · rw [String.toList_append, Nat.toList_repr]
    rfl

/-- An integer reads back from its text. -/
theorem leadingInt64?_toString (n : Int64) : leadingInt64? (toString n.toInt).toList = some n := by
  rw [toList_toString]
  split
  · next h =>
    rw [leadingInt64?_of_digits (splitSign_toDigits _) (isDigit_toDigits _) Nat.toDigits_ne_nil]
    have habs : ((n.toInt.toNat : Nat) : Int) = n.toInt := Int.toNat_of_nonneg h
    simp only [signedValue, Bool.false_eq_true, if_false, decimalValue_toDigits]
    rw [habs, int64?_toInt]
  · next h =>
    have hsign : splitSign ('-' :: Nat.toDigits 10 (-n.toInt).toNat) = (true, _) := rfl
    rw [leadingInt64?_of_digits hsign (isDigit_toDigits _) Nat.toDigits_ne_nil]
    have habs : -(((-n.toInt).toNat : Nat) : Int) = n.toInt := by omega
    simp only [signedValue, if_true, decimalValue_toDigits]
    rw [habs, int64?_toInt]

end Soap.Text
