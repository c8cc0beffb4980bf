import Soap.OrderedMap

/-!
# Timestamps

A timestamp is a civil date, a time of day and an offset from UTC in whole minutes, exactly as it is
written. A second 60 (a leap second) is kept. Two timestamps may denote the same `instant` under
different offsets; their text is given by `render`.
-/

namespace Soap

def isLeapYear (year : Int) : Bool := year % 4 == 0 && (year % 100 != 0 || year % 400 == 0)

/-- The number of days of a month; zero for what is no month. -/
def daysInMonth (year : Int) (month : Nat) : Nat :=
  match month with
  | 1 | 3 | 5 | 7 | 8 | 10 | 12 => 31
  | 4 | 6 | 9 | 11 => 30
  | 2 => if isLeapYear year then 29 else 28
  | _ => 0

/-- The fields of a timestamp, not yet checked. -/
structure Civil where
  year : Int
  month : Nat
  day : Nat
  hour : Nat := 0
  minute : Nat := 0
  second : Nat := 0
  nanosecond : Nat := 0
  /-- Whole minutes east of UTC. -/
  offset : Int := 0
deriving DecidableEq, Repr

/-- The fields name a day that exists, a time of that day and an offset of less than a day. -/
def Civil.IsValid (c : Civil) : Prop :=
  -262143 ≤ c.year ∧ c.year ≤ 262142 ∧ 1 ≤ c.day ∧ c.day ≤ daysInMonth c.year c.month ∧
    c.hour < 24 ∧ c.minute < 60 ∧ c.second ≤ 60 ∧ c.nanosecond < 1000000000 ∧
    -1440 < c.offset ∧ c.offset < 1440

instance (c : Civil) : Decidable c.IsValid := by unfold Civil.IsValid; infer_instance

/-- A timestamp: valid fields. Its offset can be written, so it has no seconds. A date and time whose offset has
some, such as a local mean time, is not among these: its text would be that of another one. -/
structure Timestamp extends Civil where
  isValid : toCivil.IsValid
deriving DecidableEq

namespace Timestamp

def ofCivil? (c : Civil) : Option Timestamp := if h : c.IsValid then some ⟨c, h⟩ else none

/-- Days from 1970-01-01 to a civil date. Years are counted from March, in eras of 400. -/
def daysFromEpoch (year : Int) (month day : Nat) : Int :=
  let y := if month ≤ 2 then year - 1 else year
  let era := y / 400
  let yearOfEra := y % 400
  let monthFromMarch : Int := (month + 9) % 12
  let dayOfYear := (153 * monthFromMarch + 2) / 5 + day - 1
  let dayOfEra := yearOfEra * 365 + yearOfEra / 4 - yearOfEra / 100 + dayOfYear
  era * 146097 + dayOfEra - 719468

/-- The instant denoted: seconds since 1970-01-01T00:00:00Z, and nanoseconds. A leap second counts
on past the nanoseconds of second 59. -/
def instant (t : Timestamp) : Int × Nat :=
  let second := min t.second 59
  let seconds := daysFromEpoch t.year t.month t.day * 86400 +
    (t.hour * 3600 + t.minute * 60 + second : Nat) - t.offset * 60
  (seconds, t.nanosecond + (t.second - second) * 1000000000)

/-! ### The written form -/

/-- `n` with at least `width` digits. -/
def padded (width n : Nat) : List Char :=
  let digits := Nat.toDigits 10 n
  List.replicate (width - digits.length) '0' ++ digits

/-- A year of four digits; outside 0 to 9999 it carries a sign. -/
def renderYear (year : Int) : List Char :=
  if 0 ≤ year ∧ year ≤ 9999 then padded 4 year.toNat
  else (if year < 0 then '-' else '+') :: padded 4 year.natAbs

/-- A fraction of a second, of no, three, six or nine digits: the fewest that are exact. -/
def renderFraction (nanosecond : Nat) : List Char :=
  if nanosecond = 0 then []
  else if nanosecond % 1000000 = 0 then '.' :: padded 3 (nanosecond / 1000000)
  else if nanosecond % 1000 = 0 then '.' :: padded 6 (nanosecond / 1000)
  else '.' :: padded 9 nanosecond

/-- An offset, always signed and never `Z`. -/
def renderOffset (offset : Int) : List Char :=
  (if offset < 0 then '-' else '+') ::
    padded 2 (offset.natAbs / 60) ++ ':' :: padded 2 (offset.natAbs % 60)

def renderChars (t : Timestamp) : List Char :=
  renderYear t.year ++ '-' :: padded 2 t.month ++ '-' :: padded 2 t.day ++
    'T' :: padded 2 t.hour ++ ':' :: padded 2 t.minute ++ ':' :: padded 2 t.second ++
    renderFraction t.nanosecond ++ renderOffset t.offset

/-- The RFC 3339 form. -/
def render (t : Timestamp) : String := String.ofList t.renderChars

end Timestamp

end Soap
