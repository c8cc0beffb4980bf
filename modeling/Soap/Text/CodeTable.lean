import Soap.Text.Integer
import Soap.Text.Split

/-!
# Tables of code points

What a standard says of characters is written in rows of entries with blanks between them. An entry
is a code point in hexadecimal digits, or the first and the last of a stretch of them with a hyphen
between, and behind it what is said of them, in a spelling that each table chooses.
-/

namespace Soap.Text

/-- A stretch of code points and what a table says of them. -/
structure Stretch (α : Type) where
  first : Nat
  last : Nat
  value : α

def Stretch.contains (s : Stretch α) (n : Nat) : Bool := s.first ≤ n && n ≤ s.last

/-- What is said of stretches of code points. -/
abbrev CodeTable (α : Type) := List (Stretch α)

/-- The hexadecimal number that `cs` begins with, and what follows it. -/
def leadingHex (cs : List Char) : Nat × List Char :=
  let digits := cs.takeWhile fun c => (digitValue? 16 c).isSome
  (digits.foldl (fun n c => n * 16 + (digitValue? 16 c).getD 0) 0, cs.drop digits.length)

/-- Read an entry; `value?` reads what is said in it. -/
def readStretch? (value? : List Char → Option α) (entry : List Char) : Option (Stretch α) :=
  let (first, rest) := leadingHex entry
  match rest with
  | '-' :: rest =>
    let (last, rest) := leadingHex rest
    (value? rest).map fun value => { first, last, value }
  | _ => (value? rest).map fun value => { first, last := first, value }

def entries (rows : List String) : List (List Char) :=
  rows.flatMap fun row => pieces (· == ' ') row.toList

namespace CodeTable

def read (value? : List Char → Option α) (rows : List String) : CodeTable α :=
  (entries rows).filterMap (readStretch? value?)

def lookup? (t : CodeTable α) (c : Char) : Option α :=
  (t.find? (·.contains c.toNat)).map Stretch.value

end CodeTable

end Soap.Text
