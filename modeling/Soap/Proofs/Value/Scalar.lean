import Soap.Proofs.Timestamp
import Soap.Value.Coerce

/-!
# The texts of scalars

The text of a scalar other than a string is not empty and holds no blank
(`Value.isSolid_scalarText`), so trimming leaves it alone. Read by its own kind it is the scalar
again (`Value.coerce_int`, `Value.coerce_bool`, `Value.coerce_dateTime`).
-/

namespace Soap

open Soap.Text

/-- Not empty, and without blanks. -/
structure IsSolid (cs : List Char) : Prop where
  ne_nil : cs ≠ []
  solid : ∀ c ∈ cs, isBlank c = false

instance (cs : List Char) : Decidable (IsSolid cs) :=
  decidable_of_iff (cs ≠ [] ∧ cs.all (!isBlank ·) = true)
    ⟨fun h => ⟨h.1, by simpa using h.2⟩, fun h => ⟨h.1, by simpa using h.2⟩⟩

theorem IsSolid.trimChars {cs : List Char} (h : IsSolid cs) : trimChars cs = cs :=
  trimChars_of_forall h.solid

theorem IsSolid.append {a b : List Char} (ha : IsSolid a) (hb : ∀ c ∈ b, isBlank c = false) :
    IsSolid (a ++ b) where
  ne_nil h := ha.ne_nil (List.append_eq_nil_iff.mp h).1
  solid c hc := (List.mem_append.mp hc).elim (ha.solid c) (hb c)

theorem IsSolid.cons {c : Char} {cs : List Char} (hc : isBlank c = false)
    (h : ∀ d ∈ cs, isBlank d = false) : IsSolid (c :: cs) where
  ne_nil := List.cons_ne_nil _ _
  solid d hd := (List.mem_cons.mp hd).elim (fun e => e ▸ hc) (h d)

theorem isSolid_toDigits (n : Nat) : IsSolid (Nat.toDigits 10 n) where
  ne_nil := Nat.toDigits_ne_nil
  solid c hc := isBlank_of_isDigit (isDigit_toDigits n c hc)

/-! ## Integers and floats -/

theorem isSolid_toString (n : Int) : IsSolid (toString n).toList := by
  rw [toList_toString]
  split
  · exact isSolid_toDigits _
  · exact .cons (by decide) (isSolid_toDigits _).solid

theorem isSolid_positional (c : Nat) (k : Int) : IsSolid (Decimal.positional c k).toList := by
  have hzeros : ∀ n, ∀ d ∈ List.replicate n '0', isBlank d = false := by
    intro n d hd
    rw [List.eq_of_mem_replicate hd]
    decide
  simp only [Decimal.positional]
  split
  · rw [String.toList_ofList]
    exact (isSolid_toDigits c).append (hzeros _)
  · rw [String.toList_ofList]
    have hpadded : ∀ n, ∀ d ∈ List.replicate n '0' ++ Nat.toDigits 10 c, isBlank d = false := by
      intro n d hd
      exact (List.mem_append.mp hd).elim (hzeros n d) ((isSolid_toDigits c).solid d)
    refine ⟨by simp, fun d hd => ?_⟩
    rcases List.mem_append.mp hd with hd | hd
    · exact hpadded _ d (List.mem_of_mem_take hd)
    · rcases List.mem_cons.mp hd with rfl | hd
      · decide
      · exact hpadded _ d (List.mem_of_mem_drop hd)

theorem Binary64.isSolid_text (x : Binary64) : IsSolid x.text.toList := by
  have hinf : IsSolid "inf".toList := by decide
  have hzero : IsSolid "0".toList := by decide
  have hnan : IsSolid "NaN".toList := by decide
  let magnitude := if x.exponent = 0x7ff then "inf" else if x.isZero then "0"
    else Decimal.positional x.interval.shortest.1 x.interval.shortest.2
  have hmagnitude : IsSolid magnitude.toList := by
    unfold magnitude
    split
    · exact hinf
    split
    · exact hzero
    · exact isSolid_positional _ _
  show IsSolid (if x.isNaN then "NaN" else if x.negative then "-" ++ magnitude else magnitude).toList
  split
  · exact hnan
  split
  · rw [String.toList_append]
    exact .cons (by decide) hmagnitude.solid
  · exact hmagnitude

/-! ## Timestamps -/

theorem Timestamp.isBlank_padded (width n : Nat) : ∀ c ∈ padded width n, isBlank c = false :=
  fun c hc =>
  isBlank_of_isDigit (isDigit_padded width n c hc)

theorem Timestamp.isSolid_padded (width n : Nat) : IsSolid (padded width n) where
  ne_nil h := Nat.toDigits_ne_nil (List.append_eq_nil_iff.mp h).2
  solid := isBlank_padded width n

theorem Timestamp.isSolid_render (t : Timestamp) : IsSolid t.render.toList := by
  -- Every field is solid, and so are the marks between them.
  have hyear : IsSolid (renderYear t.year) := by
    unfold renderYear
    split
    · exact isSolid_padded _ _
    · exact .cons (by split <;> decide) (isBlank_padded _ _)
  have hfraction : ∀ c ∈ renderFraction t.nanosecond, isBlank c = false := by
    unfold renderFraction
    split
    · simp
    split
    · exact (IsSolid.cons (by decide) (isBlank_padded _ _)).solid
    split <;> exact (IsSolid.cons (by decide) (isBlank_padded _ _)).solid
  have hoffset : ∀ c ∈ renderOffset t.offset, isBlank c = false := by
    unfold renderOffset
    have hminutes := IsSolid.cons (c := ':') (by decide) (isBlank_padded 2 (t.offset.natAbs % 60))
    exact (IsSolid.cons (by split <;> decide)
      ((isSolid_padded 2 (t.offset.natAbs / 60)).append hminutes.solid).solid).solid
  have hfield : ∀ (c : Char) (width n : Nat), isBlank c = false →
      ∀ d ∈ c :: padded width n, isBlank d = false := fun c width n hc =>
    (IsSolid.cons hc (isBlank_padded width n)).solid
  have hdate := (hyear.append (hfield '-' 2 t.month (by decide))).append
    (hfield '-' 2 t.day (by decide))
  have htime := ((hdate.append (hfield 'T' 2 t.hour (by decide))).append
    (hfield ':' 2 t.minute (by decide))).append (hfield ':' 2 t.second (by decide))
  have hall := (htime.append hfraction).append hoffset
  rw [render, String.toList_ofList]
  simpa [renderChars] using hall

namespace Value

/-! ## Scalars -/

/-- The text of a scalar that is no string is solid. -/
theorem isSolid_scalarText {v : Value} {text : String} (h : v.scalarText? = some text)
    (hv : v.string? = none) : IsSolid text.toList := by
  cases v with
  | string s => cases hv
  | int n =>
    obtain rfl := Option.some.inj h
    exact isSolid_toString n.toInt
  | float x =>
    obtain rfl := Option.some.inj h
    exact x.isSolid_text
  | bool b =>
    obtain rfl := Option.some.inj h
    cases b <;> decide
  | dateTime t =>
    obtain rfl := Option.some.inj h
    exact t.isSolid_render
  | null | list _ | object _ => cases h

/-- An integer reads back from its text. -/
theorem coerce_int (n : Int64) : coerce .integer (toString n.toInt) = .int n := by
  rw [coerce, leadingInt64?_toString]
  rfl

/-- A truth value reads back from its text. -/
theorem coerce_bool (b : Bool) : coerce .boolean (if b then "true" else "false") = .bool b := by
  have hlower : ∀ s : String, (lower s).toList = s.toList.map Char.toLower := fun s => by
    rw [lower, String.toList_map]
  have htrue : lower "true" = "true" := by rw [← String.toList_inj, hlower]; decide
  have hfalse : lower "false" = "false" := by rw [← String.toList_inj, hlower]; decide
  cases b
  · simp [coerce, hfalse]
  · simp [coerce, htrue]

/-- A timestamp of the years 0 to 9999 reads back from its text. -/
theorem coerce_dateTime {t : Timestamp} (h : 0 ≤ t.year ∧ t.year ≤ 9999) :
    coerce .dateTime t.render = .dateTime t := by
  rw [coerce, Timestamp.parse?_render t h]
  rfl

end Value

end Soap
