/-!
# Reading integers

Two readings are needed. An integer leaf takes the *longest* decimal beginning of its text and
ignores what follows; it is refused only if there is no digit or the number does not fit. A
character reference takes *all* of its text, in one of two radices, and says what is wrong with it.
-/

namespace Soap.Text

/-- The value of a digit in the given radix (at most 16). -/
def digitValue? (radix : Nat) (c : Char) : Option Nat :=
  let n := c.toNat
  let value? :=
    if 0x30 ≤ n && n ≤ 0x39 then some (n - 0x30)
    else if 0x61 ≤ n && n ≤ 0x66 then some (n - 0x61 + 10)
    else if 0x41 ≤ n && n ≤ 0x46 then some (n - 0x41 + 10)
    else none
  value?.filter (· < radix)

def isDigit (c : Char) : Bool := (digitValue? 10 c).isSome

def decimalValue (digits : List Char) : Nat :=
  digits.foldl (fun n c => n * 10 + (digitValue? 10 c).getD 0) 0

def splitSign : List Char → Bool × List Char
  | '-' :: rest => (true, rest)
  | '+' :: rest => (false, rest)
  | rest => (false, rest)

def int64? (n : Int) : Option Int64 :=
  if Int64.minValue.toInt ≤ n ∧ n ≤ Int64.maxValue.toInt then some (Int64.ofInt n) else none

/-- The integer written by an optional sign and the digits `digits`. -/
def signedValue (negative : Bool) (digits : List Char) : Int :=
  if negative then - (decimalValue digits : Int) else decimalValue digits

/-- The integer written by the longest beginning of `cs` that is an optional sign and digits. -/
def leadingInt64? (cs : List Char) : Option Int64 :=
  let (negative, rest) := splitSign cs
  match rest.takeWhile isDigit with
  | [] => none
  | digits => int64? (signedValue negative digits)

def wholeInt64? (cs : List Char) : Option Int64 :=
  if (splitSign cs).2.all isDigit then leadingInt64? cs else none

inductive NumberError where
  | empty
  | invalidDigit
  | tooLarge
deriving DecidableEq, Repr

def NumberError.message : NumberError → String
  | .empty => "cannot parse integer from empty string"
  | .invalidDigit => "invalid digit found in string"
  | .tooLarge => "number too large to fit in target type"

/-- Continue reading digits after `value`, staying below `limit`. -/
def natDigits (radix limit : Nat) : Nat → List Char → Except NumberError Nat
  | value, [] => .ok value
  | value, c :: rest =>
    match digitValue? radix c with
    | none => .error .invalidDigit
    | some d =>
      if value * radix + d < limit then natDigits radix limit (value * radix + d) rest
      else .error .tooLarge

/-- The number below `limit` that all of `cs` writes, without a sign. -/
def wholeNat (radix limit : Nat) (cs : List Char) : Except NumberError Nat :=
  if cs.isEmpty then .error .empty else natDigits radix limit 0 cs

end Soap.Text
