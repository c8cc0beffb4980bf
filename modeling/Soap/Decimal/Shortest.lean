/-!
# The fewest digits that read back

A binary float stands for every real that rounds to it: an interval around `m · 2^q`, whose ends
belong to it when `m` is even. `shortest` finds the decimal `c · 10^k` in that interval with the
largest `k`, hence the fewest digits; of two such neighbours it takes the nearer, and the larger at
an exact tie. Everything is exact arithmetic on natural numbers.
-/

namespace Soap.Decimal

/-- A positive number `m · 2^q` with its rounding interval, all over one denominator: the number is
`value / scale`, and the reals between `low / scale` and `high / scale` round to it. The ends count
when `closed`. -/
structure Interval where
  value : Nat
  low : Nat
  high : Nat
  scale : Nat
  closed : Bool
deriving DecidableEq, Repr

/-- The interval of `m · 2^q`. The float below a power of two is only half as far away as the one
above it; `narrow` says that this is such a power. -/
def Interval.of (m : Nat) (q : Int) (narrow : Bool) : Interval :=
  let up := Nat.pow 2 (q - 2).toNat
  { value := 4 * m * up
    low := (if narrow then 4 * m - 1 else 4 * m - 2) * up
    high := (4 * m + 2) * up
    scale := Nat.pow 2 (2 - q).toNat
    closed := m % 2 == 0 }

/-- Does `c · 10^k` round to the number? -/
def Interval.contains (iv : Interval) (c : Nat) (k : Int) : Bool :=
  let point := c * Nat.pow 10 k.toNat * iv.scale
  let low := iv.low * Nat.pow 10 (-k).toNat
  let high := iv.high * Nat.pow 10 (-k).toNat
  if iv.closed then low ≤ point && point ≤ high else low < point && point < high

/-- The point of the grid `10^k` that rounds to the number, if there is one: only the number's two
neighbours on the grid can be nearest, and if any point lies in the interval, one of them does. -/
def Interval.gridPoint? (iv : Interval) (k : Int) : Option Nat :=
  let value := iv.value * Nat.pow 10 (-k).toNat
  let step := iv.scale * Nat.pow 10 k.toNat
  let below := value / step
  let nearer := if 2 * (value % step) < step then below else below + 1
  let farther := if 2 * (value % step) < step then below + 1 else below
  if iv.contains nearer k then some nearer
  else if iv.contains farther k then some farther
  else none

/-- The exponents `top`, `top - 1`, …, of which there are `count`. -/
def exponentsFrom (top : Int) : (count : Nat) → List Int
  | 0 => []
  | n + 1 => top :: exponentsFrom (top - 1) n

/-- The shortest decimal `(c, k)`, that is `c · 10^k`, for a number of binary exponent at least
`-1074` and below `10^309`: the first grid that has a point, from the coarsest on. The finest grid
always has one, the number itself. -/
def Interval.shortest (iv : Interval) : Nat × Int :=
  ((exponentsFrom 309 1384).findSome? fun k => (iv.gridPoint? k).map fun c => (c, k)).getD (0, 0)

/-- `c · 10^k` without an exponent: the digits, followed by zeros or cut by a point. -/
def positional (c : Nat) (k : Int) : String :=
  let digits := Nat.toDigits 10 c
  if 0 ≤ k then String.ofList (digits ++ List.replicate k.toNat '0')
  else
    let places := (-k).toNat
    let padded := List.replicate (places + 1 - digits.length) '0' ++ digits
    let cut := padded.length - places
    String.ofList (padded.take cut ++ '.' :: padded.drop cut)

end Soap.Decimal
