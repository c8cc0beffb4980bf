import Mathlib.Algebra.Group.Int.Defs
import Mathlib.Data.List.Infix
import Soap.Proofs.Text.Utf8
import Soap.Proofs.Value.Scalar

/-!
# Integers at the beginning of texts

A numeral is a sign or none, and digits. The text of an integer leaf is read by the longest numeral that it begins
with (`Text.LongestNumeral`): the leaf is the number that this numeral writes if it is one of 64 bits, and the text as
it is otherwise (`Value.coerce_integer_iff_numeral`).

The end of that numeral can be found in the bytes of the text (`Text.numberEnd?`). Signs and digits are one byte each,
and the bytes that other characters begin with are none of these. So what is cut off at the end of the numeral is a
text, whatever comes behind it.
-/

namespace Soap

namespace Text

/-! ## Numerals -/

/-- The signs, and whether they make a number negative. -/
inductive IsSign : Bool → List Char → Prop where
  | none : IsSign false []
  | plus : IsSign false ['+']
  | minus : IsSign true ['-']

/-- A sign with digits behind it, at least one, and the number that they write. -/
inductive Writes : List Char → Int → Prop where
  | numeral {negative : Bool} {sign digits : List Char} (hsign : IsSign negative sign) (hne : digits ≠ [])
    (hdigits : ∀ c ∈ digits, c.isDigit = true) :
    Writes (sign ++ digits)
      (if negative then -(Nat.ofDigitChars 10 digits 0 : Int) else Nat.ofDigitChars 10 digits 0)

/-- The longest beginning of `cs` that is a numeral, and the number that it writes. -/
structure LongestNumeral (cs lead : List Char) (n : Int) : Prop where
  begins : lead <+: cs
  writes : Writes lead n
  longest : ∀ other m, other <+: cs → Writes other m → other.length ≤ lead.length

theorem isDigit_eq (c : Char) : isDigit c = c.isDigit := by
  rw [Bool.eq_iff_iff]
  constructor
  · intro h
    simp only [isDigit, digitValue?, Option.isSome_filter] at h
    rw [Char.isDigit_iff_toNat]
    show 48 ≤ c.toNat ∧ c.toNat ≤ 57
    grind
  · exact isDigit_of_isDigit

/-! ### What a text begins with -/

/-- The sign that a text begins with. -/
def leadingSign : List Char → List Char
  | '-' :: _ => ['-']
  | '+' :: _ => ['+']
  | _ => []

/-- The digits behind it. -/
def leadingDigits (cs : List Char) : List Char := (splitSign cs).2.takeWhile isDigit

theorem splitSign_cons_of_ne {c : Char} (hminus : c ≠ '-') (hplus : c ≠ '+') (rest : List Char) :
    splitSign (c :: rest) = (false, c :: rest) ∧ leadingSign (c :: rest) = [] := by
  simp [splitSign, leadingSign, hminus, hplus]

/-- What is split off is a sign. -/
theorem splitSign_spec (cs : List Char) :
    IsSign (splitSign cs).1 (leadingSign cs) ∧ leadingSign cs ++ (splitSign cs).2 = cs := by
  cases cs with
  | nil => exact ⟨.none, rfl⟩
  | cons c rest =>
    by_cases hminus : c = '-'
    · subst hminus
      exact ⟨.minus, rfl⟩
    by_cases hplus : c = '+'
    · subst hplus
      exact ⟨.plus, rfl⟩
    obtain ⟨hsplit, hsign⟩ := splitSign_cons_of_ne hminus hplus rest
    rw [hsplit, hsign]
    exact ⟨.none, rfl⟩

theorem isDigit_of_mem_leadingDigits {cs : List Char} {c : Char} (h : c ∈ leadingDigits cs) : c.isDigit = true := by
  rw [← isDigit_eq]
  exact List.mem_takeWhile_imp h

theorem leadingInt64?_eq (cs : List Char) :
    leadingInt64? cs =
      if leadingDigits cs = [] then none else int64? (signedValue (splitSign cs).1 (leadingDigits cs)) := by
  unfold leadingInt64? leadingDigits
  obtain ⟨negative, rest⟩ := splitSign cs
  dsimp only
  cases rest.takeWhile isDigit <;> simp

variable {negative : Bool} {sign digits cs lead : List Char} {n : Int}

/-- No sign begins with a digit, so a sign in front of digits is split off, and there is none otherwise. -/
theorem IsSign.split (h : IsSign negative sign) (hne : digits ≠ []) (hdigits : ∀ c ∈ digits, c.isDigit = true)
    (rest : List Char) :
    splitSign (sign ++ (digits ++ rest)) = (negative, digits ++ rest) ∧
      leadingSign (sign ++ (digits ++ rest)) = sign := by
  cases h with
  | plus | minus => exact ⟨rfl, rfl⟩
  | none =>
    obtain ⟨d, digits, rfl⟩ := List.exists_cons_of_ne_nil hne
    have hd : d.isDigit = true := hdigits d List.mem_cons_self
    have hminus : d ≠ '-' := by
      rintro rfl
      cases hd
    have hplus : d ≠ '+' := by
      rintro rfl
      cases hd
    exact splitSign_cons_of_ne hminus hplus _

/-- What a numeral writes is told by its sign and its digits. -/
theorem Writes.eq_signedValue (h : Writes lead n) : n = signedValue (splitSign lead).1 (leadingDigits lead) := by
  cases h with
  | @numeral negative sign digits hsign hne hdigits =>
    obtain ⟨hsplit, -⟩ := hsign.split hne hdigits []
    rw [List.append_nil] at hsplit
    rw [leadingDigits, hsplit, takeWhile_isDigit hdigits, signedValue, decimalValue_eq hdigits]

/-- A text that begins with a numeral begins with a sign and digits, and these go on at least as far. -/
theorem Writes.isPrefix (h : Writes lead n) (hlead : lead <+: cs) :
    leadingDigits cs ≠ [] ∧ lead <+: leadingSign cs ++ leadingDigits cs := by
  obtain ⟨rest, rfl⟩ := hlead
  cases h with
  | @numeral negative sign digits hsign hne hdigits =>
    rw [List.append_assoc]
    obtain ⟨hsplit, hsign⟩ := hsign.split hne hdigits rest
    have hall : leadingDigits (sign ++ (digits ++ rest)) = digits ++ rest.takeWhile isDigit := by
      rw [leadingDigits, hsplit]
      exact List.takeWhile_append_of_pos fun c hc => isDigit_of_isDigit (hdigits c hc)
    rw [hsign, hall]
    constructor
    · simp [hne]
    · exact ⟨rest.takeWhile isDigit, by rw [List.append_assoc]⟩

/-- Sign and digits are the longest numeral. -/
theorem longestNumeral_of_digits (h : leadingDigits cs ≠ []) :
    LongestNumeral cs (leadingSign cs ++ leadingDigits cs) (signedValue (splitSign cs).1 (leadingDigits cs)) where
  begins := by
    nth_rewrite 3 [← (splitSign_spec cs).2]
    exact (List.prefix_append_right_inj _).mpr (List.takeWhile_prefix _)
  writes := by
    have hdigits : ∀ c ∈ leadingDigits cs, c.isDigit = true := fun c hc => isDigit_of_mem_leadingDigits hc
    rw [signedValue, decimalValue_eq hdigits]
    exact .numeral (splitSign_spec cs).1 h hdigits
  longest other m hother hwrites := (hwrites.isPrefix hother).2.length_le

/-- There is one longest numeral, or none if there are no digits. -/
theorem longestNumeral_iff :
    LongestNumeral cs lead n ↔
      leadingDigits cs ≠ [] ∧ lead = leadingSign cs ++ leadingDigits cs ∧
        n = signedValue (splitSign cs).1 (leadingDigits cs) := by
  constructor
  · intro h
    obtain ⟨hne, hprefix⟩ := h.writes.isPrefix h.begins
    have hlongest := longestNumeral_of_digits hne
    obtain rfl : lead = leadingSign cs ++ leadingDigits cs :=
      hprefix.eq_of_length_le (h.longest _ _ hlongest.begins hlongest.writes)
    refine ⟨hne, rfl, ?_⟩
    rw [h.writes.eq_signedValue, hlongest.writes.eq_signedValue]
  · rintro ⟨hne, rfl, rfl⟩
    exact longestNumeral_of_digits hne

/-- A text that begins with any numeral begins with a longest one. -/
theorem exists_longestNumeral_iff :
    (∃ lead n, LongestNumeral cs lead n) ↔ ∃ lead n, lead <+: cs ∧ Writes lead n := by
  constructor
  · rintro ⟨lead, n, h⟩
    exact ⟨lead, n, h.begins, h.writes⟩
  · rintro ⟨lead, n, hlead, hwrites⟩
    exact ⟨_, _, longestNumeral_of_digits (hwrites.isPrefix hlead).1⟩

/-! ### Numbers of 64 bits -/

theorem int64?_eq_some_iff {i : Int64} : int64? n = some i ↔ i.toInt = n := by
  constructor
  · intro h
    rw [int64?] at h
    split at h
    · next hbounds =>
      obtain rfl := Option.some.inj h
      exact Int64.toInt_ofInt_of_le hbounds.1 (Int.lt_of_le_of_lt hbounds.2 (by decide))
    · cases h
  · rintro rfl
    exact int64?_toInt i

theorem exists_int64?_iff : (∃ i, int64? n = some i) ↔ -2 ^ 63 ≤ n ∧ n < 2 ^ 63 := by
  have hmin : Int64.minValue.toInt = -2 ^ 63 := rfl
  have hmax : Int64.maxValue.toInt = 2 ^ 63 - 1 := rfl
  rw [int64?, hmin, hmax]
  split
  · next h =>
    simp only [Option.some.injEq, exists_eq', true_iff]
    omega
  · next h =>
    simp only [reduceCtorEq, exists_false, false_iff]
    omega

theorem LongestNumeral.leadingInt64?_eq (h : LongestNumeral cs lead n) : leadingInt64? cs = int64? n := by
  obtain ⟨hne, -, rfl⟩ := longestNumeral_iff.mp h
  rw [Text.leadingInt64?_eq, if_neg hne]

theorem leadingInt64?_eq_some_iff {i : Int64} :
    leadingInt64? cs = some i ↔ ∃ lead, LongestNumeral cs lead i.toInt := by
  constructor
  · intro h
    rw [leadingInt64?_eq] at h
    split at h
    · cases h
    · next hne =>
      rw [int64?_eq_some_iff] at h
      refine ⟨leadingSign cs ++ leadingDigits cs, ?_⟩
      rw [h]
      exact longestNumeral_of_digits hne
  · rintro ⟨lead, h⟩
    rw [h.leadingInt64?_eq, int64?_toInt]

/-! ## Numerals in bytes -/

def isDigitByte (b : UInt8) : Bool := 0x30 ≤ b && b ≤ 0x39

def isSignByte (b : UInt8) : Bool := b == 0x2d || b == 0x2b

/-- Where the sign ends that the bytes begin with. -/
def signEnd (bytes : List UInt8) : Nat := if bytes.head?.any isSignByte then 1 else 0

/-- Where the digits end that begin at `place`. -/
def digitsEnd (bytes : List UInt8) (place : Nat) : Nat :=
  match _h : bytes[place]? with
  | some b => if isDigitByte b then digitsEnd bytes (place + 1) else place
  | none => place
termination_by bytes.length - place
decreasing_by
  have hplace : place < bytes.length := (List.getElem?_eq_some_iff.mp _h).1
  omega

/-- Where the number ends that the bytes begin with, if there is one. -/
def numberEnd? (bytes : List UInt8) : Option Nat :=
  let stop := digitsEnd bytes (signEnd bytes)
  if stop = signEnd bytes then none else some stop

/-- Cut off the bytes of the number and read them as a text, all of which has to be the number. -/
def scanInt64? (bytes : List UInt8) : Option Int64 :=
  match numberEnd? bytes with
  | none => none
  | some stop =>
    match Utf8.decode (bytes.take stop) with
    | .ok text => wholeInt64? text.toList
    | .error _ => none

/-! ### What stands for a character -/

/-- A character below `0x80` is the byte of its number, and any other begins with a byte above. -/
theorem exists_leadByte (c : Char) :
    ∃ b more, String.utf8EncodeChar c = b :: more ∧ (c.toNat < 0x80 → b.toNat = c.toNat ∧ more = []) ∧
      (0x80 ≤ c.toNat → 0x80 ≤ b.toNat) := by
  have hval : c.val.toNat = c.toNat := rfl
  unfold String.utf8EncodeChar
  dsimp only
  rw [hval]
  split
  · next h =>
    exact ⟨_, _, rfl, fun _ => ⟨Utf8.toNat_ofNat (by omega), rfl⟩, fun hhigh => absurd hhigh (by omega)⟩
  · next h =>
    -- However many bytes there are, the first is one of those that begin a character, which are high.
    split
    on_goal 2 => split
    all_goals
      refine ⟨_, _, rfl, fun hlow => absurd hlow (by omega), fun _ => ?_⟩
      rw [Utf8.toNat_ofNat (by omega)]
      omega

/-- The first byte tells whether a character is a digit or a sign. -/
theorem leadByte_spec (c : Char) :
    ∃ b more, String.utf8EncodeChar c = b :: more ∧ isDigitByte b = c.isDigit ∧
      (isSignByte b = true ↔ c = '-' ∨ c = '+') ∧ (c.toNat < 0x80 → more = []) := by
  obtain ⟨b, more, hbytes, hlow, hhigh⟩ := exists_leadByte c
  have hdigit : isDigitByte b = true ↔ 0x30 ≤ b.toNat ∧ b.toNat ≤ 0x39 := by
    simp [isDigitByte, UInt8.le_iff_toNat_le]
  have hsign : isSignByte b = true ↔ b.toNat = 0x2d ∨ b.toNat = 0x2b := by
    simp [isSignByte, ← UInt8.toNat_inj]
  have hchar : c.isDigit = true ↔ 0x30 ≤ c.toNat ∧ c.toNat ≤ 0x39 := Char.isDigit_iff_toNat
  have hmark : c = '-' ∨ c = '+' ↔ c.toNat = 0x2d ∨ c.toNat = 0x2b := by
    simp only [← Char.toNat_inj]
    rfl
  refine ⟨b, more, hbytes, ?_, ?_, fun h => (hlow h).2⟩
  · rw [Bool.eq_iff_iff, hdigit, hchar]
    by_cases h : c.toNat < 0x80
    · rw [(hlow h).1]
    · have hb := hhigh (by omega)
      omega
  · rw [hsign, hmark]
    by_cases h : c.toNat < 0x80
    · rw [(hlow h).1]
    · have hb := hhigh (by omega)
      omega

/-- Characters of one byte each are as many as their bytes. -/
theorem length_flatMap_of_ascii (h : ∀ c ∈ cs, c.toNat < 0x80) :
    (cs.flatMap String.utf8EncodeChar).length = cs.length := by
  induction cs with
  | nil => rfl
  | cons c rest ih =>
    obtain ⟨b, more, hbytes, -, -, hmore⟩ := leadByte_spec c
    rw [List.flatMap_cons, List.length_append, hbytes, hmore (h c List.mem_cons_self),
      ih fun d hd => h d (List.mem_cons_of_mem c hd), List.length_cons, List.length_cons, List.length_nil]
    omega

/-! ### The end of a numeral -/

theorem toNat_lt_of_isDigit {c : Char} (h : c.isDigit = true) : c.toNat < 0x80 := by
  have hhigh : c.toNat ≤ 0x39 := (Char.isDigit_iff_toNat.mp h).2
  omega

theorem digitsEnd_append (before bytes : List UInt8) :
    digitsEnd (before ++ bytes) before.length = before.length + (bytes.takeWhile isDigitByte).length := by
  induction bytes generalizing before with
  | nil =>
    rw [digitsEnd]
    split
    · next b hb => simp at hb
    · rfl
  | cons b rest ih =>
    have hfirst : (before ++ b :: rest)[before.length]? = some b := by simp
    rw [digitsEnd]
    split
    · next b' hb =>
      obtain rfl : b = b' := Option.some.inj (hfirst.symm.trans hb)
      have hnext := ih (before ++ [b])
      rw [List.append_assoc, List.singleton_append, List.length_append, List.length_singleton] at hnext
      by_cases hdigit : isDigitByte b = true
      · rw [if_pos hdigit, hnext, List.takeWhile_cons_of_pos hdigit, List.length_cons]
        omega
      · rw [if_neg hdigit, List.takeWhile_cons_of_neg hdigit, List.length_nil, Nat.add_zero]
    · next hnone =>
      rw [hfirst] at hnone
      cases hnone

theorem length_takeWhile_isDigitByte (cs : List Char) :
    ((cs.flatMap String.utf8EncodeChar).takeWhile isDigitByte).length = (cs.takeWhile isDigit).length := by
  induction cs with
  | nil => rfl
  | cons c rest ih =>
    obtain ⟨b, more, hbytes, hb, -, hmore⟩ := leadByte_spec c
    rw [List.flatMap_cons, hbytes, List.cons_append]
    by_cases hdigit : c.isDigit = true
    · rw [hmore (toNat_lt_of_isDigit hdigit), List.nil_append, List.takeWhile_cons_of_pos (hb.trans hdigit),
        List.takeWhile_cons_of_pos (isDigit_of_isDigit hdigit), List.length_cons, List.length_cons, ih]
    · rw [List.takeWhile_cons_of_neg (by rwa [hb]), List.takeWhile_cons_of_neg (by rwa [isDigit_eq]),
        List.length_nil, List.length_nil]

theorem signEnd_flatMap (cs : List Char) : signEnd (cs.flatMap String.utf8EncodeChar) = (leadingSign cs).length := by
  cases cs with
  | nil => rfl
  | cons c rest =>
    obtain ⟨b, more, hbytes, -, hb, -⟩ := leadByte_spec c
    rw [List.flatMap_cons, hbytes, List.cons_append, signEnd, List.head?_cons, Option.any_some]
    by_cases hsign : c = '-' ∨ c = '+'
    · rw [if_pos (hb.mpr hsign)]
      rcases hsign with rfl | rfl <;> rfl
    · rw [if_neg (hb.not.mpr hsign)]
      obtain ⟨hminus, hplus⟩ := not_or.mp hsign
      rw [(splitSign_cons_of_ne hminus hplus rest).2, List.length_nil]

theorem IsSign.isAscii (h : IsSign negative sign) : ∀ c ∈ sign, c.toNat < 0x80 := by
  intro c hc
  cases h with
  | none => cases hc
  | plus | minus =>
    obtain rfl := List.mem_singleton.mp hc
    decide

/-- Signs and digits are one byte each. -/
theorem Writes.isAscii (h : Writes lead n) : ∀ c ∈ lead, c.toNat < 0x80 := by
  cases h with
  | numeral hsign hne hdigits =>
    intro c hc
    rcases List.mem_append.mp hc with hc | hc
    · exact hsign.isAscii c hc
    · exact toNat_lt_of_isDigit (hdigits c hc)

/-- A scan over the bytes ends where the sign and the digits do. -/
theorem numberEnd?_flatMap (cs : List Char) :
    numberEnd? (cs.flatMap String.utf8EncodeChar) =
      if leadingDigits cs = [] then none else some (leadingSign cs ++ leadingDigits cs).length := by
  have hstop : digitsEnd (cs.flatMap String.utf8EncodeChar) (leadingSign cs).length =
      (leadingSign cs).length + (leadingDigits cs).length := by
    have hlength := length_flatMap_of_ascii (splitSign_spec cs).1.isAscii
    nth_rewrite 1 [← (splitSign_spec cs).2]
    rw [List.flatMap_append, ← hlength, digitsEnd_append, length_takeWhile_isDigitByte, leadingDigits]
  unfold numberEnd?
  rw [signEnd_flatMap, hstop, List.length_append]
  dsimp only
  by_cases hne : leadingDigits cs = []
  · simp [hne]
  · have hpos : 0 < (leadingDigits cs).length := List.length_pos_of_ne_nil hne
    rw [if_neg (by omega), if_neg hne]

/-- What is cut off at the end of a numeral is the numeral. -/
theorem LongestNumeral.decode_take (h : LongestNumeral cs lead n) :
    Utf8.decode ((cs.flatMap String.utf8EncodeChar).take lead.length) = .ok (String.ofList lead) := by
  obtain ⟨rest, rfl⟩ := h.begins
  rw [List.flatMap_append, ← length_flatMap_of_ascii h.writes.isAscii, List.take_left]
  have hdecode := Utf8.decode_encode (String.ofList lead)
  rwa [Utf8.encode, String.toList_ofList] at hdecode

/-- A numeral is read whole. -/
theorem Writes.wholeInt64?_eq (h : Writes lead n) : wholeInt64? lead = int64? n := by
  have hlongest : LongestNumeral lead lead n := ⟨List.prefix_rfl, h, fun _ _ hother _ => hother.length_le⟩
  rw [wholeInt64?, if_pos, hlongest.leadingInt64?_eq]
  cases h with
  | @numeral negative sign digits hsign hne hdigits =>
    obtain ⟨hsplit, -⟩ := hsign.split hne hdigits []
    rw [List.append_nil] at hsplit
    rw [hsplit, List.all_eq_true]
    exact fun c hc => isDigit_of_isDigit (hdigits c hc)

/-- Bytes that are scanned give what the characters give. -/
theorem scanInt64?_encode (text : String) : scanInt64? (Utf8.encode text) = leadingInt64? text.toList := by
  rw [scanInt64?, Utf8.encode, numberEnd?_flatMap]
  by_cases hne : leadingDigits text.toList = []
  · rw [if_pos hne, leadingInt64?_eq, if_pos hne]
  · have hlongest := longestNumeral_of_digits hne
    rw [if_neg hne, hlongest.leadingInt64?_eq]
    simp only [hlongest.decode_take, String.toList_ofList, hlongest.writes.wholeInt64?_eq]

end Text

/-! ## Integer leaves -/

namespace Value

open Text

theorem coerce_integer_eq_int_iff {text : String} {i : Int64} :
    coerce .integer text = .int i ↔ leadingInt64? text.toList = some i := by
  cases h : leadingInt64? text.toList <;> simp [coerce, h]

/-- The longest numeral that a text begins with decides what the text is as an integer: the number that is written,
exactly, if it is one of 64 bits. Otherwise, and if there is no numeral, it is the text as it is. A scan over the bytes
finds the end of the numeral, cuts off nothing but the numeral there, and leads to the same value. All numbers of 64
bits are read from their texts. -/
theorem coerce_integer_iff_numeral (text : String) :
    (∀ i, coerce .integer text = .int i ↔ ∃ lead, LongestNumeral text.toList lead i.toInt) ∧
    ((∃ lead n, LongestNumeral text.toList lead n) ↔ ∃ lead n, lead <+: text.toList ∧ Writes lead n) ∧
    (∀ lead n, LongestNumeral text.toList lead n →
      ((∃ i, coerce .integer text = .int i) ↔ -2 ^ 63 ≤ n ∧ n < 2 ^ 63) ∧
      numberEnd? (Utf8.encode text) = some lead.length ∧
      Utf8.decode ((Utf8.encode text).take lead.length) = .ok (String.ofList lead)) ∧
    ((¬ ∃ i, coerce .integer text = .int i) → coerce .integer text = .string text) ∧
    coerce .integer text = ((scanInt64? (Utf8.encode text)).map Value.int).getD (.string text) ∧
    ∀ i : Int64, ∃ written, (Value.int i).scalarText? = some written ∧ coerce .integer written = .int i := by
  refine ⟨?_, exists_longestNumeral_iff, ?_, ?_, ?_, ?_⟩
  · intro i
    rw [coerce_integer_eq_int_iff, leadingInt64?_eq_some_iff]
  · intro lead n h
    refine ⟨?_, ?_, h.decode_take⟩
    · simp only [coerce_integer_eq_int_iff, h.leadingInt64?_eq]
      exact exists_int64?_iff
    · obtain ⟨hne, rfl, -⟩ := longestNumeral_iff.mp h
      rw [Utf8.encode, numberEnd?_flatMap, if_neg hne]
  · intro hnone
    cases hread : leadingInt64? text.toList with
    | none => simp [coerce, hread]
    | some i => exact absurd ⟨i, coerce_integer_eq_int_iff.mpr hread⟩ hnone
  · rw [scanInt64?_encode]
    rfl
  · intro i
    exact ⟨_, rfl, coerce_int i⟩

/-- The least number of 64 bits is read in front of a character of three bytes. A number that is too large by one
stays a text. -/
theorem coerce_integer_iff_numeral_bounds :
    coerce .integer "-9223372036854775808€" = .int Int64.minValue ∧
    numberEnd? (Utf8.encode "-9223372036854775808€") = some 20 ∧
    coerce .integer "+09223372036854775808" = .string "+09223372036854775808" := by
  have hleast : LongestNumeral "-9223372036854775808€".toList "-9223372036854775808".toList (-2 ^ 63) :=
    longestNumeral_iff.mpr ⟨by decide, by decide, by decide⟩
  have hlarge : LongestNumeral "+09223372036854775808".toList "+09223372036854775808".toList (2 ^ 63) :=
    longestNumeral_iff.mpr ⟨by decide, by decide, by decide⟩
  obtain ⟨hint, -, hnumeral, -⟩ := coerce_integer_iff_numeral "-9223372036854775808€"
  obtain ⟨-, -, hnumeral', hstring, -⟩ := coerce_integer_iff_numeral "+09223372036854775808"
  refine ⟨(hint _).mpr ⟨_, hleast⟩, (hnumeral _ _ hleast).2.1, hstring ?_⟩
  rw [(hnumeral' _ _ hlarge).1]
  omega

end Value

end Soap
