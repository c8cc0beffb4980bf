import Mathlib.Algebra.Group.Nat.Defs
import Soap.Proofs.Timestamp
import Soap.Value.Coerce

/-!
# Which timestamps read back

Timestamps are read in three notations and written in one. The written form is read again, as the same timestamp,
exactly if its year is one of 0 to 9999 (`Value.coerce_rendered_iff`). The first notation has no other years
(`year_of_internet`). The loose ones do: behind a sign a year may have any number of digits. It is written behind a
sign again, where the first notation expects a digit; and the loose notations, which read the sign, have no place for
the offset that comes last (`parse?_render_eq_none`).
-/

namespace Soap

open Soap.Text

/-! ## How large a number can be -/

namespace Text

theorem digitValue?_lt {radix : Nat} {c : Char} {d : Nat} (h : digitValue? radix c = some d) : d < radix := by
  unfold digitValue? at h
  exact of_decide_eq_true (Option.filter_eq_some_iff.mp h).2

theorem decimalValue_lt (run : List Char) : decimalValue run < 10 ^ run.length := by
  suffices h : ∀ n, run.foldl (fun n c => n * 10 + (digitValue? 10 c).getD 0) n < (n + 1) * 10 ^ run.length by
    simpa [decimalValue] using h 0
  induction run with
  | nil => simp
  | cons c rest ih =>
    intro n
    have hdigit : (digitValue? 10 c).getD 0 < 10 := by
      cases h : digitValue? 10 c with
      | none => decide
      | some d => exact digitValue?_lt h
    calc (c :: rest).foldl (fun n c => n * 10 + (digitValue? 10 c).getD 0) n
        < (n * 10 + (digitValue? 10 c).getD 0 + 1) * 10 ^ rest.length := ih _
      _ ≤ ((n + 1) * 10) * 10 ^ rest.length := Nat.mul_le_mul_right _ (by omega)
      _ = (n + 1) * 10 ^ (c :: rest).length := by rw [List.length_cons, Nat.pow_succ', Nat.mul_assoc]

end Text

namespace Timestamp

theorem digits_lt {least most n : Nat} {cs rest : List Char} (h : digits least most cs = some (n, rest)) :
    n < 10 ^ most := by
  simp only [digits] at h
  split at h
  · cases h
  · obtain ⟨rfl, -⟩ := Prod.mk.inj (Option.some.inj h)
    have hlength : ((cs.take most).takeWhile isDigit).length ≤ most :=
      Nat.le_trans (List.takeWhile_prefix _).length_le (List.length_take_le _ _)
    exact Nat.lt_of_lt_of_le (decimalValue_lt _) (Nat.pow_le_pow_right (by decide) hlength)

/-! ## Years -/

/-- Years that are written with four digits. -/
def HasFourDigits (year : Int) : Prop := 0 ≤ year ∧ year ≤ 9999

instance (year : Int) : Decidable (HasFourDigits year) := by
  unfold HasFourDigits
  infer_instance

theorem hasFourDigits_of_digits {least n : Nat} {cs rest : List Char} (h : digits least 4 cs = some (n, rest)) :
    HasFourDigits n := by
  have := digits_lt h
  exact ⟨by omega, by omega⟩

/-- The first notation has four digits for the year. -/
theorem year_of_internet {cs rest : List Char} {c : Civil} (h : internet cs = some (c, rest)) :
    HasFourDigits c.year := by
  simp only [internet, Option.bind_eq_bind, Option.bind_eq_some_iff] at h
  obtain ⟨⟨year, _⟩, hyear, _, -, _, -, _, -, _, -, _, -, _, -, _, -, _, -, _, -, _, -, _, -, _, -, hc⟩ := h
  obtain ⟨rfl, -⟩ := Prod.mk.inj (Option.some.inj hc)
  exact hasFourDigits_of_digits hyear

/-- Does a text begin with a sign, after any blanks? -/
def BeginsWithSign (cs : List Char) : Prop := (trimStart cs).head? = some '-' ∨ (trimStart cs).head? = some '+'

instance (cs : List Char) : Decidable (BeginsWithSign cs) := by
  unfold BeginsWithSign
  infer_instance

/-- Without a sign, a year has four digits at most. -/
theorem year_of_looseYear {cs rest : List Char} {year : Int} (h : looseYear cs = some (year, rest)) :
    HasFourDigits year ∨ BeginsWithSign cs := by
  unfold looseYear at h
  split at h
  · next hsign => exact .inr (.inl (by rw [hsign, List.head?_cons]))
  · next hsign => exact .inr (.inr (by rw [hsign, List.head?_cons]))
  · obtain ⟨⟨n, _⟩, hn, heq⟩ := Option.map_eq_some_iff.mp h
    obtain ⟨rfl, -⟩ := Prod.mk.inj heq
    exact .inl (hasFourDigits_of_digits hn)

theorem year_of_looseDate {cs rest : List Char} {c : Civil} (h : looseDate cs = some (c, rest)) :
    HasFourDigits c.year ∨ BeginsWithSign cs := by
  simp only [looseDate, Option.bind_eq_bind, Option.bind_eq_some_iff] at h
  obtain ⟨⟨year, _⟩, hyear, _, -, _, -, _, -, _, -, hc⟩ := h
  obtain ⟨rfl, -⟩ := Prod.mk.inj (Option.some.inj hc)
  exact year_of_looseYear hyear

theorem year_of_looseDateTime {cs rest : List Char} {c : Civil} (h : looseDateTime cs = some (c, rest)) :
    HasFourDigits c.year ∨ BeginsWithSign cs := by
  simp only [looseDateTime, Option.bind_eq_bind, Option.bind_eq_some_iff] at h
  obtain ⟨⟨date, _⟩, hdate, _, -, _, -, _, -, _, -, _, -, _, -, _, -, hc⟩ := h
  obtain ⟨rfl, -⟩ := Prod.mk.inj (Option.some.inj hc)
  show HasFourDigits date.year ∨ BeginsWithSign cs
  exact year_of_looseDate hdate

theorem whole?_eq_some {reader : List Char → Option (Civil × List Char)} {s : String} {t : Timestamp}
    (h : whole? reader s = some t) : reader s.toList = some (t.toCivil, []) := by
  unfold whole? at h
  split at h
  · next civil hread =>
    unfold ofCivil? at h
    split at h
    · obtain rfl := Option.some.inj h
      exact hread
    · cases h
  · cases h

/-- A text whose year has not four digits gives it with a sign. -/
theorem year_of_parse? {s : String} {t : Timestamp} (h : parse? s = some t) :
    HasFourDigits t.year ∨ BeginsWithSign s.toList := by
  simp only [parse?, Option.orElse_eq_orElse, Option.orElse_eq_or, Option.or_eq_some_iff] at h
  rcases h with h | ⟨-, h | ⟨-, h⟩⟩
  · exact .inl (year_of_internet (whole?_eq_some h))
  · exact year_of_looseDateTime (whole?_eq_some h)
  · exact year_of_looseDate (whole?_eq_some h)

/-! ## Written with a sign -/

theorem trimStart_of_head {c : Char} (h : isBlank c = false) (rest : List Char) :
    trimStart (c :: rest) = c :: rest := by
  rw [trimStart, List.dropWhile_cons_of_neg (by simp [h])]

/-- A number of full width is read by the loose notations as well. -/
theorem looseNumber_padded {n : Nat} (h : n < 100) (rest : List Char) :
    looseNumber (padded 2 n ++ rest) = some (n, rest) := by
  have hlength : (padded 2 n).length = 2 := length_padded (by decide) (by decide) h
  have hdigits := isDigit_padded 2 n
  have htrim : trimStart (padded 2 n ++ rest) = padded 2 n ++ rest := by
    cases hrun : padded 2 n with
    | nil =>
      rw [hrun] at hlength
      cases hlength
    | cons c more => exact trimStart_of_head (isBlank_of_isDigit (hdigits c (by rw [hrun]; exact List.mem_cons_self))) _
  rw [looseNumber, htrim, digits_append hdigits (by omega) (by omega) (.inl hlength), decimalValue_padded]

/-- Any other year is written behind a sign. -/
theorem renderYear_eq {year : Int} (h : ¬ HasFourDigits year) :
    ∃ sign, (sign = '-' ∧ year < 0 ∨ sign = '+' ∧ 0 ≤ year) ∧ renderYear year = sign :: padded 4 year.natAbs := by
  have hyear : renderYear year = (if year < 0 then '-' else '+') :: padded 4 year.natAbs := if_neg h
  by_cases hneg : year < 0
  · rw [if_pos hneg] at hyear
    exact ⟨'-', .inl ⟨rfl, hneg⟩, hyear⟩
  · rw [if_neg hneg] at hyear
    exact ⟨'+', .inr ⟨rfl, by omega⟩, hyear⟩

/-- The loose notations read it. -/
theorem looseYear_renderYear {year : Int} (h : ¬ HasFourDigits year) {rest : List Char} (hrest : EndsDigits rest) :
    looseYear (renderYear year ++ rest) = some (year, rest) := by
  obtain ⟨sign, hsign, hyear⟩ := renderYear_eq h
  have hwide : 4 ≤ (padded 4 year.natAbs).length := by
    rw [padded, List.length_append, List.length_replicate]
    omega
  have hdigits : digits 1 (padded 4 year.natAbs ++ rest).length (padded 4 year.natAbs ++ rest) =
      some (year.natAbs, rest) := by
    rw [digits_append (isDigit_padded 4 _) (by omega) (by rw [List.length_append]; omega) (.inr hrest),
      decimalValue_padded]
  rw [hyear, List.cons_append]
  rcases hsign with ⟨rfl, hneg⟩ | ⟨rfl, hpos⟩
  · simp only [looseYear, trimStart_of_head (show isBlank '-' = false by decide), hdigits, Option.map_some,
      Option.some.injEq, Prod.mk.injEq, and_true]
    omega
  · simp only [looseYear, trimStart_of_head (show isBlank '+' = false by decide), hdigits, Option.map_some,
      Option.some.injEq, Prod.mk.injEq, and_true]
    omega

/-- They read the date up to where the time begins. -/
theorem looseDate_rendered {year : Int} (hyear : ¬ HasFourDigits year) {month day : Nat} (hmonth : month < 100)
    (hday : day < 100) (rest : List Char) :
    looseDate (renderYear year ++ '-' :: (padded 2 month ++ '-' :: (padded 2 day ++ rest))) =
      some ({ year, month, day }, rest) := by
  have hend : EndsDigits ('-' :: (padded 2 month ++ '-' :: (padded 2 day ++ rest))) := by
    show isDigit '-' = false
    decide
  rw [looseDate, looseYear_renderYear hyear hend]
  simp only [Option.bind_eq_bind, Option.bind_some, literal_self, looseNumber_padded hmonth, looseNumber_padded hday]
  rfl

/-- What follows the date is read up to the offset. -/
theorem looseDateTime_of_looseDate {cs : List Char} {date : Civil} {hour minute second nanosecond : Nat} {sign : Char}
    {rest : List Char} (hhour : hour < 100) (hminute : minute < 100) (hsecond : second < 100)
    (hnano : nanosecond < 1000000000) (hdot : sign ≠ '.') (hdigit : isDigit sign = false)
    (h : looseDate cs = some (date, 'T' :: (padded 2 hour ++ ':' :: (padded 2 minute ++ ':' :: (padded 2 second ++
      (renderFraction nanosecond ++ sign :: rest)))))) :
    looseDateTime cs = some ({ date with hour, minute, second, nanosecond }, sign :: rest) := by
  rw [looseDateTime, h]
  simp only [Option.bind_eq_bind, Option.bind_some, literal_self, looseNumber_padded hhour, looseNumber_padded hminute,
    looseNumber_padded hsecond, fraction_renderFraction hnano hdot hdigit]
  rfl

/-- A sign is no digit. -/
theorem internet_of_sign {sign : Char} (h : isDigit sign = false) (cs : List Char) : internet (sign :: cs) = none := by
  have hdigits : digits 4 4 (sign :: cs) = none := by
    simp only [digits, List.take_succ_cons, List.takeWhile_cons, h]
    rfl
  rw [internet, hdigits]
  rfl

theorem whole?_eq_none {reader : List Char → Option (Civil × List Char)} {s : String}
    (h : ∀ c, reader s.toList ≠ some (c, [])) : whole? reader s = none := by
  unfold whole?
  split
  · next civil hread => exact absurd hread (h civil)
  · rfl

/-- A timestamp of any other year does not read back from its text. -/
theorem parse?_render_eq_none (t : Timestamp) (hyear : ¬ HasFourDigits t.year) : parse? t.render = none := by
  obtain ⟨-, -, hday, hdays, hhour, hminute, hsecond, hnano, -, -⟩ := t.isValid
  obtain ⟨hmonth, hday'⟩ := month_le_of_day hday hdays
  obtain ⟨sign, rest, hoffset, hdot, hdigit⟩ : ∃ sign rest, renderOffset t.offset = sign :: rest ∧ sign ≠ '.' ∧
      isDigit sign = false := by
    unfold renderOffset
    split <;> exact ⟨_, _, rfl, by decide, by decide⟩
  have htext : t.render.toList = renderYear t.year ++ '-' :: (padded 2 t.month ++ '-' :: (padded 2 t.day ++
      'T' :: (padded 2 t.hour ++ ':' :: (padded 2 t.minute ++ ':' :: (padded 2 t.second ++
        (renderFraction t.nanosecond ++ sign :: rest)))))) := by
    rw [render, String.toList_ofList, renderChars, hoffset]
    simp only [List.append_assoc, List.cons_append]
  have hdate := looseDate_rendered hyear (show t.month < 100 by omega) (show t.day < 100 by omega)
    ('T' :: (padded 2 t.hour ++ ':' :: (padded 2 t.minute ++ ':' :: (padded 2 t.second ++
      (renderFraction t.nanosecond ++ sign :: rest)))))
  have htime := looseDateTime_of_looseDate (by omega) (by omega) (by omega) hnano hdot hdigit hdate
  -- The first notation stops at the sign of the year, and the others are left with the offset.
  have hfirst : whole? internet t.render = none := by
    obtain ⟨yearSign, hsign, hrendered⟩ := renderYear_eq hyear
    have hnot : isDigit yearSign = false := by rcases hsign with ⟨rfl, -⟩ | ⟨rfl, -⟩ <;> decide
    refine whole?_eq_none fun c => ?_
    rw [htext, hrendered, List.cons_append, internet_of_sign hnot]
    exact (Option.some_ne_none _).symm
  have hsecond : whole? looseDateTime t.render = none := by
    refine whole?_eq_none fun c => ?_
    rw [htext, htime]
    simp
  have hthird : whole? looseDate t.render = none := by
    refine whole?_eq_none fun c => ?_
    rw [htext, hdate]
    simp
  rw [parse?, hfirst, hsecond, hthird]
  rfl

end Timestamp

/-! ## The written form -/

namespace Value

open Timestamp (HasFourDigits BeginsWithSign)

/-- A timestamp that was read from a text is read again from what is written for it, as the same instant with the
same offset, exactly if its year is one of 0 to 9999. It is then the very same timestamp. Otherwise the text gave the
year with a sign, and what is written stays text. -/
theorem coerce_rendered_iff {text : String} {t : Timestamp} (h : coerce .dateTime text = .dateTime t) :
    ∃ written, (Value.dateTime t).scalarText? = some written ∧
      ((∃ t' : Timestamp, coerce .dateTime written = .dateTime t' ∧ t'.instant = t.instant ∧ t'.offset = t.offset) ↔
        HasFourDigits t.year) ∧
      (HasFourDigits t.year → coerce .dateTime written = .dateTime t) ∧
      (¬ HasFourDigits t.year → coerce .dateTime written = .string written ∧ BeginsWithSign text.toList) := by
  have hread := coerce_dateTime_eq.mp h
  have hback : HasFourDigits t.year → coerce .dateTime t.render = .dateTime t := fun hyear =>
    coerce_dateTime_eq.mpr (t.parse?_render hyear)
  have hlost : ¬ HasFourDigits t.year → coerce .dateTime t.render = .string t.render := fun hyear => by
    rw [coerce, t.parse?_render_eq_none hyear, Option.map_none, Option.getD_none]
  refine ⟨t.render, rfl, ⟨fun hagain => ?_, fun hyear => ⟨t, hback hyear, rfl, rfl⟩⟩, hback, fun hyear => ?_⟩
  · obtain ⟨t', ht', -⟩ := hagain
    by_contra hyear
    rw [hlost hyear] at ht'
    cases ht'
  · exact ⟨hlost hyear, (Timestamp.year_of_parse? hread).resolve_left hyear⟩

/-! ### A day and a far one -/

/-- The first of March 2024, at midnight. -/
def march : Timestamp := ⟨{ year := 2024, month := 3, day := 1 }, by decide⟩

/-- The same day ten thousand years later. -/
def farMarch : Timestamp := ⟨{ year := 12024, month := 3, day := 1 }, by decide⟩

theorem coerce_march : coerce .dateTime "2024-3-1" = .dateTime march := by
  rw [coerce_dateTime_eq]
  decide +kernel

theorem coerce_farMarch : coerce .dateTime "+12024-03-01" = .dateTime farMarch := by
  rw [coerce_dateTime_eq]
  decide +kernel

theorem coerce_rendered_iff_march :
    coerce .dateTime "2024-3-1" = .dateTime march ∧
    coerce .dateTime "2024-03-01T00:00:00+00:00" = .dateTime march := by
  have hwritten : (Value.dateTime march).scalarText? = some "2024-03-01T00:00:00+00:00" := by decide +kernel
  obtain ⟨written, htext, -, hback, -⟩ := coerce_rendered_iff coerce_march
  obtain rfl := Option.some.inj (hwritten.symm.trans htext)
  exact ⟨coerce_march, hback (by decide)⟩

/-- The year 12024 is read behind a sign, and what is written for it is not read. -/
theorem not_coerce_rendered_farMarch :
    ¬ ∀ (text : String) (t : Timestamp) (written : String), coerce .dateTime text = .dateTime t →
      (Value.dateTime t).scalarText? = some written →
      ∃ t' : Timestamp, coerce .dateTime written = .dateTime t' ∧ t'.instant = t.instant ∧ t'.offset = t.offset := by
  intro h
  obtain ⟨t', ht', -⟩ := h "+12024-03-01" farMarch "+12024-03-01T00:00:00+00:00" coerce_farMarch (by decide +kernel)
  rw [coerce_dateTime_eq] at ht'
  have hnone : Timestamp.parse? "+12024-03-01T00:00:00+00:00" = none := by decide +kernel
  rw [hnone] at ht'
  cases ht'

end Value

end Soap
