import Soap.Decimal.Shortest

/-!
# Double-precision numbers

A number is its IEEE 754 bit pattern. Nothing here computes with floats: they are carried from a
caller to the wire, so what matters is their text and when two of them are equal.
-/

namespace Soap

/-- An IEEE 754 double, as its 64 bits. -/
structure Binary64 where
  bits : UInt64
deriving DecidableEq, Repr

namespace Binary64

/-- The sign bit. -/
def negative (x : Binary64) : Bool := x.bits >>> 63 == 1

def exponent (x : Binary64) : Nat := ((x.bits >>> 52) &&& 0x7ff).toNat

def fraction (x : Binary64) : Nat := (x.bits &&& 0xfffffffffffff).toNat

def isNaN (x : Binary64) : Bool := x.exponent == 0x7ff && x.fraction != 0

def isZero (x : Binary64) : Bool := x.exponent == 0 && x.fraction == 0

/-- Equality as IEEE 754 defines it: a NaN equals nothing, the two zeros equal each other. -/
def equal (x y : Binary64) : Bool :=
  !x.isNaN && !y.isNaN && (x.bits == y.bits || (x.isZero && y.isZero))

/-- The interval of the reals that round to the absolute value of a finite, nonzero number. -/
def interval (x : Binary64) : Decimal.Interval :=
  if x.exponent = 0 then .of x.fraction (-1074) false
  else .of (0x10000000000000 + x.fraction) (x.exponent - 1075) (x.fraction == 0 && x.exponent != 1)

/-- The shortest decimal text that reads back as this number, never with an exponent. -/
def text (x : Binary64) : String :=
  let magnitude :=
    if x.exponent = 0x7ff then "inf"
    else if x.isZero then "0"
    else
      let (c, k) := x.interval.shortest
      Decimal.positional c k
  if x.isNaN then "NaN" else if x.negative then "-" ++ magnitude else magnitude

end Binary64

end Soap
