import Soap.Proofs.Text.Integer
import Soap.Timestamp.Parser

/-!
# Timestamps read back

The text of a timestamp of the years 0 to 9999 is in the first notation, RFC 3339, field by field
and at full width, so it reads back as the same timestamp (`parse?_render`): the same offset, not
just the same instant.
-/

namespace Soap.Timestamp

open Soap.Text

/-! ## Padded numbers -/

theorem isDigit_padded (width n : Nat) : ∀ c ∈ padded width n, c.isDigit = true := by
  intro c hc
  rcases List.mem_append.mp hc with hc | hc
  · rw [List.eq_of_mem_replicate hc]
    decide
  · exact isDigit_toDigits n c hc

@[simp] theorem decimalValue_padded (width n : Nat) : decimalValue (padded width n) = n := by
  rw [decimalValue_eq (isDigit_padded width n), padded, Nat.ofDigitChars_append,
    Nat.ofDigitChars_replicate_zero, Nat.mul_zero, Nat.ofDigitChars_ten_toDigits]

/-- A number that fits in the width has exactly that width. -/
theorem length_padded {bound width n : Nat} (hbound : Nat.pow 10 width = bound) (hwidth : 0 < width)
    (h : n < bound) : (padded width n).length = width := by
  rw [← hbound] at h
  have hlen := (Nat.length_toDigits_le_iff (by decide) hwidth).mpr h
  rw [padded, List.length_append, List.length_replicate]
  omega

/-- Does a text go on with something other than a digit? -/
def EndsDigits : List Char → Prop
  | [] => True
  | c :: _ => isDigit c = false

/-- A run of digits is read whole if it is as long as allowed, or something else follows. -/
theorem digits_append {least most : Nat} {run : List Char} (hrun : ∀ c ∈ run, c.isDigit = true)
    (hleast : least ≤ run.length) (hmost : run.length ≤ most) {rest : List Char}
    (hrest : run.length = most ∨ EndsDigits rest) :
    digits least most (run ++ rest) = some (decimalValue run, rest) := by
  -- Reading stops at the full width, or else at the first character that is no digit.
  have htaken : ((run ++ rest).take most).takeWhile isDigit = run := by
    rw [List.take_append, List.take_of_length_le hmost,
      List.takeWhile_append_of_pos fun c hc => isDigit_of_isDigit (hrun c hc)]
    rcases hrest with hfull | hend
    · simp [hfull]
    · cases rest with
      | nil => simp
      | cons c rest =>
        cases h : most - run.length with
        | zero => simp
        | succ k => simp [show isDigit c = false from hend]
  simp only [digits, htaken, List.drop_left, Nat.not_lt_of_le hleast, if_false]

/-- A number of full width is read, whatever follows. -/
theorem digits_padded (bound : Nat) {width n : Nat} (hbound : Nat.pow 10 width = bound)
    (hwidth : 0 < width) (h : n < bound) (rest : List Char) :
    digits width width (padded width n ++ rest) = some (n, rest) := by
  have hlen := length_padded hbound hwidth h
  rw [digits_append (isDigit_padded width n) (by omega) (by omega) (.inl hlen), decimalValue_padded]

theorem literal_self (c : Char) (rest : List Char) : literal c (c :: rest) = some rest := if_pos rfl

/-! ## Fractions and offsets -/

/-- A fraction of the first `width` digits, each of which stands for `unit` nanoseconds. -/
theorem fraction_padded (bound unit : Nat) {width n : Nat} (hbound : Nat.pow 10 width = bound)
    (hunit : Nat.pow 10 (9 - width) = unit) (hwidth : 0 < width) (hnine : width ≤ 9) (h : n < bound)
    {rest : List Char} (hrest : EndsDigits rest) :
    fraction ('.' :: padded width n ++ rest) = some (n * unit, rest) := by
  have hlen := length_padded hbound hwidth h
  have hleft : rest.dropWhile isDigit = rest := by
    cases rest with
    | nil => rfl
    | cons c rest => rw [List.dropWhile_cons_of_neg (by simp [show isDigit c = false from hrest])]
  rw [List.cons_append, fraction,
    digits_append (isDigit_padded width n) (by omega) (by omega) (.inr hrest)]
  simp [hlen, hleft, ← hunit]

/-- A fraction reads back: the digits left out are zeros. -/
theorem fraction_renderFraction {nanosecond : Nat} (h : nanosecond < 1000000000) {c : Char}
    (hdot : c ≠ '.') (hdigit : isDigit c = false) (rest : List Char) :
    fraction (renderFraction nanosecond ++ c :: rest) = some (nanosecond, c :: rest) := by
  have hend : EndsDigits (c :: rest) := hdigit
  unfold renderFraction
  split
  · next hzero =>
    subst hzero
    rw [List.nil_append]
    unfold fraction
    split
    · next heq => exact absurd (List.cons.inj heq).1 hdot
    · rfl
  split
  · rw [fraction_padded 1000 1000000 (by decide) (by decide) (by decide) (by decide) (by omega) hend]
    simp only [Option.some.injEq, Prod.mk.injEq, and_true]
    omega
  split
  · rw [fraction_padded 1000000 1000 (by decide) (by decide) (by decide) (by decide) (by omega) hend]
    simp only [Option.some.injEq, Prod.mk.injEq, and_true]
    omega
  · rw [fraction_padded 1000000000 1 (by decide) (by decide) (by decide) (by decide) h hend,
      Nat.mul_one]

/-- An offset reads back. -/
theorem zone_renderOffset {offset : Int} (hlow : -1440 < offset) (hhigh : offset < 1440) :
    zone (renderOffset offset) = some (offset, []) := by
  have hhours : offset.natAbs / 60 < 24 := by omega
  have hminutes : offset.natAbs % 60 < 60 := Nat.mod_lt _ (by decide)
  have htotal : offset.natAbs / 60 * 60 + offset.natAbs % 60 = offset.natAbs := by omega
  -- Both signs are read alike; which one is written depends on the offset alone.
  have hread : ∀ sign : Char, sign = '+' ∨ sign = '-' →
      zone (sign :: padded 2 (offset.natAbs / 60) ++ ':' :: padded 2 (offset.natAbs % 60)) =
        some (if sign = '+' then (offset.natAbs : Int) else -offset.natAbs, []) := by
    intro sign hsign
    have hz : ¬(sign = 'Z' ∨ sign = 'z') := by rcases hsign with rfl | rfl <;> decide
    have hs : sign = '+' ∨ sign = '-' ∨ sign = '−' := by rcases hsign with h | h <;> simp [h]
    have hlast : digits 2 2 (padded 2 (offset.natAbs % 60) ++ []) = some (offset.natAbs % 60, []) :=
      digits_padded 100 (by decide) (by decide) (by omega) []
    rw [List.append_nil] at hlast
    rw [List.cons_append, zone, if_neg hz, if_pos hs,
      digits_padded 100 (by decide) (by decide) (by omega)]
    simp only [Option.bind_eq_bind, Option.bind_some, literal_self, hlast]
    simp [hhours, hminutes, htotal]
  unfold renderOffset
  split
  · rw [hread '-' (.inr rfl)]
    simp only [Option.some.injEq, Prod.mk.injEq, and_true]
    rw [if_neg (by decide)]
    omega
  · rw [hread '+' (.inl rfl)]
    simp only [Option.some.injEq, Prod.mk.injEq, and_true]
    rw [if_pos trivial]
    omega

/-! ## The whole timestamp -/

/-- Months are numbered up to 12, and none has more than 31 days. -/
theorem month_le_of_day {year : Int} {month day : Nat} (hpos : 1 ≤ day)
    (h : day ≤ daysInMonth year month) : month ≤ 12 ∧ day ≤ 31 := by
  unfold daysInMonth at h
  split at h <;> first | omega | (split at h <;> omega)

/-- The fields of a timestamp read back from its text. -/
theorem internet_renderChars (t : Timestamp) (hyear : 0 ≤ t.year ∧ t.year ≤ 9999) :
    internet t.renderChars = some (t.toCivil, []) := by
  obtain ⟨-, -, hday, hdays, hhour, hminute, hsecond, hnano, hlow, hhigh⟩ := t.isValid
  obtain ⟨hmonth, hday'⟩ := month_le_of_day hday hdays
  have hyearText : renderYear t.year = padded 4 t.year.toNat := if_pos hyear
  obtain ⟨sign, rest, hsign⟩ : ∃ sign rest, renderOffset t.offset = sign :: rest ∧ sign ≠ '.' ∧
      isDigit sign = false := by
    unfold renderOffset
    split <;> exact ⟨_, _, rfl, by decide, by decide⟩
  have hfraction := fraction_renderFraction hnano hsign.2.1 hsign.2.2 rest
  rw [← hsign.1] at hfraction
  -- Each reader takes one field off the front, in the order in which they are written.
  unfold internet renderChars
  simp only [List.append_assoc, List.cons_append]
  rw [hyearText, digits_padded 10000 (by decide) (by decide) (by omega)]
  simp only [Option.bind_eq_bind, Option.bind_some, literal_self]
  rw [digits_padded 100 (by decide) (by decide) (by omega)]
  simp only [Option.bind_some, literal_self]
  rw [digits_padded 100 (by decide) (by decide) (by omega)]
  simp only [Option.bind_some, literal_self, Option.orElse_eq_orElse, Option.orElse_some]
  rw [digits_padded 100 (by decide) (by decide) (by omega)]
  simp only [Option.bind_some, literal_self]
  rw [digits_padded 100 (by decide) (by decide) (by omega)]
  simp only [Option.bind_some, literal_self]
  rw [digits_padded 100 (by decide) (by decide) (by omega)]
  simp only [Option.bind_some, hfraction, zone_renderOffset hlow hhigh]
  rw [Int.toNat_of_nonneg hyear.1]
  rfl

/-- A timestamp of the years 0 to 9999 reads back from its text. -/
theorem parse?_render (t : Timestamp) (hyear : 0 ≤ t.year ∧ t.year ≤ 9999) :
    parse? t.render = some t := by
  have hcivil : ofCivil? t.toCivil = some t := dif_pos t.isValid
  have hwhole : whole? internet t.render = some t := by
    simp only [whole?, render, String.toList_ofList, internet_renderChars t hyear, hcivil]
  rw [parse?, hwhole]
  rfl

end Soap.Timestamp
