import Soap.Timestamp
import Soap.Text.Blank
import Soap.Text.Integer

/-!
# Reading timestamps

Three notations are accepted, tried in this order:

* RFC 3339, with every field at its full width and an offset;
* a local date and time, read as UTC, in which numbers may be short, may follow blanks, and the year
  may carry a sign;
* a date alone, in the same loose spelling, meaning its midnight in UTC.

Each reader takes the characters from the front and returns those that are left; a notation matches
only if nothing is left.
-/

namespace Soap.Timestamp

open Soap.Text

def digits (least most : Nat) (cs : List Char) : Option (Nat × List Char) :=
  let run := (cs.take most).takeWhile isDigit
  if run.length < least then none else some (decimalValue run, cs.drop run.length)

def literal (c : Char) : List Char → Option (List Char)
  | d :: rest => if d = c then some rest else none
  | [] => none

/-- An optional fraction of a second, in nanoseconds; digits past the ninth are dropped. -/
def fraction : List Char → Option (Nat × List Char)
  | '.' :: rest => do
    let (n, left) ← digits 1 9 rest
    return (n * Nat.pow 10 (9 - (rest.length - left.length)), left.dropWhile isDigit)
  | cs => some (0, cs)

/-- An offset: `Z`, or a sign, two digits of hours, a colon and two digits of minutes. -/
def zone : List Char → Option (Int × List Char)
  | [] => none
  | c :: rest =>
    if c = 'Z' ∨ c = 'z' then some (0, rest)
    else if c = '+' ∨ c = '-' ∨ c = '−' then do
      let (hours, rest) ← digits 2 2 rest
      let rest ← literal ':' rest
      let (minutes, rest) ← digits 2 2 rest
      if hours < 24 ∧ minutes < 60 then
        let total : Int := (hours * 60 + minutes : Nat)
        return (if c = '+' then total else - total, rest)
      else none
    else none

/-- An RFC 3339 timestamp. A space or a small `t` may stand between date and time. -/
def internet (cs : List Char) : Option (Civil × List Char) := do
  let (year, cs) ← digits 4 4 cs
  let cs ← literal '-' cs
  let (month, cs) ← digits 2 2 cs
  let cs ← literal '-' cs
  let (day, cs) ← digits 2 2 cs
  let cs ← literal 'T' cs <|> literal 't' cs <|> literal ' ' cs
  let (hour, cs) ← digits 2 2 cs
  let cs ← literal ':' cs
  let (minute, cs) ← digits 2 2 cs
  let cs ← literal ':' cs
  let (second, cs) ← digits 2 2 cs
  let (nanosecond, cs) ← fraction cs
  let (offset, cs) ← zone cs
  return ({ year, month, day, hour, minute, second, nanosecond, offset }, cs)

/-- A year: up to four digits, or any number of them after a sign. -/
def looseYear (cs : List Char) : Option (Int × List Char) :=
  match trimStart cs with
  | '-' :: rest => (digits 1 rest.length rest).map fun (n, left) => (- (n : Int), left)
  | '+' :: rest => (digits 1 rest.length rest).map fun (n, left) => ((n : Int), left)
  | rest => (digits 1 4 rest).map fun (n, left) => ((n : Int), left)

/-- A number of one or two digits, after any blanks. -/
def looseNumber (cs : List Char) : Option (Nat × List Char) := digits 1 2 (trimStart cs)

/-- A date in loose spelling. -/
def looseDate (cs : List Char) : Option (Civil × List Char) := do
  let (year, cs) ← looseYear cs
  let cs ← literal '-' cs
  let (month, cs) ← looseNumber cs
  let cs ← literal '-' cs
  let (day, cs) ← looseNumber cs
  return ({ year, month, day }, cs)

/-- A local date and time in loose spelling. -/
def looseDateTime (cs : List Char) : Option (Civil × List Char) := do
  let (date, cs) ← looseDate cs
  let cs ← literal 'T' cs
  let (hour, cs) ← looseNumber cs
  let cs ← literal ':' cs
  let (minute, cs) ← looseNumber cs
  let cs ← literal ':' cs
  let (second, cs) ← looseNumber cs
  let (nanosecond, cs) ← fraction cs
  return ({ date with hour, minute, second, nanosecond }, cs)

/-- The timestamp that a reader finds in all of the text. -/
def whole? (reader : List Char → Option (Civil × List Char)) (s : String) : Option Timestamp :=
  match reader s.toList with
  | some (civil, []) => ofCivil? civil
  | _ => none

def ofInternet? (s : String) : Option Timestamp := whole? internet s

/-- The timestamp of a text in any of the three notations. -/
def parse? (s : String) : Option Timestamp :=
  whole? internet s <|> whole? looseDateTime s <|> whole? looseDate s

end Soap.Timestamp
