import Soap.Text.Split

/-!
# Punycode

The labels of a host are ASCII. Another character is moved to the end of its label, as the distance
in code points and positions from the one moved before it, in digits of variable weight. The
distances are taken in ascending order of code points. `encode` writes a label so, and `decode?`
reads it back, digit by digit.
-/

namespace Soap.Url.Punycode

/-- One digit: `a` to `z`, then `0` to `9`. -/
def digit (n : Nat) : Char := if n < 26 then Char.ofNat (0x61 + n) else Char.ofNat (0x16 + n)

def threshold (k bias : Nat) : Nat := if k ≤ bias then 1 else if bias + 26 ≤ k then 26 else k - bias

theorem threshold_pos (k bias : Nat) : 1 ≤ threshold k bias := by
  unfold threshold
  split
  · omega
  · split <;> omega

/-- Divide `delta` until it is small, counting the divisions. -/
def shrink (delta divisions : Nat) : Nat × Nat :=
  if 455 < delta then shrink (delta / 35) (divisions + 1) else (delta, divisions)
termination_by delta
decreasing_by exact Nat.div_lt_self (by omega) (by omega)

/-- The bias after a distance has been written as number `count`. -/
def adapt (delta count : Nat) (first : Bool) : Nat :=
  let delta := if first then delta / 700 else delta / 2
  let (delta, divisions) := shrink (delta + delta / count) 0
  36 * divisions + 36 * delta / (delta + 38)

/-- The digits of a distance from position `k` on. -/
def digits (bias k distance : Nat) : List Char :=
  let t := threshold k bias
  if distance < t then [digit distance]
  else digit (t + (distance - t) % (36 - t)) :: digits bias (k + 36) ((distance - t) / (36 - t))
termination_by distance
decreasing_by
  have := threshold_pos k bias
  exact Nat.lt_of_le_of_lt (Nat.div_le_self _ _) (by omega)

/-- A label written in part: what is written, the distance so far, the bias and how many characters
are placed. -/
structure Progress where
  written : List Char
  delta : Nat
  bias : Nat
  placed : Nat

/-- Pass one character of the label while the code point `code` is being placed. -/
def pass (basic code : Nat) (p : Progress) (c : Char) : Progress :=
  if c.toNat < code then { p with delta := p.delta + 1 }
  else if c.toNat = code then
    { written := p.written ++ digits p.bias 36 p.delta
      delta := 0
      bias := adapt p.delta (p.placed + 1) (p.placed == basic)
      placed := p.placed + 1 }
  else p

/-- Place the characters with the given ascending code points, the next candidate being `next`. -/
def place (label : List Char) (basic : Nat) :
    (codes : List Nat) → (next : Nat) → Progress → Progress
  | [], _, p => p
  | code :: rest, next, p =>
    let start := { p with delta := p.delta + (code - next) * (p.placed + 1) }
    let passed := label.foldl (pass basic code) start
    place label basic rest (code + 1) { passed with delta := passed.delta + 1 }

def encode (label : List Char) : List Char :=
  let basic := label.filter (·.toNat < 0x80)
  let codes := ((label.filter (0x80 ≤ ·.toNat)).map Char.toNat).eraseDups.mergeSort
  let start : Progress := { written := [], delta := 0, bias := 72, placed := basic.length }
  basic ++ (if basic.isEmpty then [] else ['-']) ++ (place label basic.length codes 0x80 start).written

/-! ### Reading -/

def digitValue? (c : Char) : Option Nat :=
  if c.isLower then some (c.toNat - 0x61)
  else if c.isUpper then some (c.toNat - 0x41)
  else if c.isDigit then some (c.toNat - 0x30 + 26)
  else none

/-- Numbers in a label stay below this one. -/
def limit : Nat := 0x100000000

/-- A label read in part: its characters so far, the latest code point, the distance read so far and
what it was before the current number, and the weight and the position of the next digit of that
number. -/
structure Decoding where
  text : List Char
  code : Nat := 0x80
  distance : Nat := 0
  before : Nat := 0
  bias : Nat := 72
  weight : Nat := 1
  k : Nat := 36

/-- Has the current number no digit yet? -/
def Decoding.isBetween (d : Decoding) : Bool := d.k == 36

/-- A number ends that brings the distance to `distance`: insert the character that it places. -/
def Decoding.insert? (d : Decoding) (distance : Nat) : Option Decoding :=
  let count := d.text.length + 1
  let code := d.code + distance / count
  let place := distance % count
  if code.isValidChar then
    some
      { text := d.text.insertIdx place (Char.ofNat code)
        code
        distance := place + 1
        before := place + 1
        bias := adapt (distance - d.before) count (d.before == 0) }
  else none

def Decoding.step? (d : Decoding) (c : Char) : Option Decoding := do
  let value ← digitValue? c
  let distance := d.distance + value * d.weight
  let t := threshold d.k d.bias
  if limit ≤ distance then none
  if value < t then d.insert? distance
  else
    let weight := d.weight * (36 - t)
    if limit ≤ weight then none
    return { d with distance, weight, k := d.k + 36 }

/-- The characters that are ASCII anyhow, which end at the last hyphen, and the digits behind it. -/
def splitBasic? (cs : List Char) : Option (List Char × List Char) :=
  match Text.splitFirst (· == '-') cs.reverse with
  | some (_, []) => none
  | some (digits, basic) => some (basic.reverse, digits.reverse)
  | none => some ([], cs)

def decode? (cs : List Char) : Option (List Char) := do
  let (basic, digits) ← splitBasic? cs
  if basic.any (0x80 ≤ ·.toNat) then none
  let read ← digits.foldlM Decoding.step? { text := basic }
  if read.isBetween then return read.text else none

end Soap.Url.Punycode
