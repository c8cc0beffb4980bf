import Soap.Text.Integer
import Soap.Text.Split

/-!
# Numeric addresses

The two kinds of numeric host. A version 4 address is up to four numbers, each decimal, octal or
hexadecimal, the last of which fills all remaining bytes; it is written as four decimal bytes. A
version 6 address is eight groups of four digits, of which one run of zeros may be left out and the
last two may be written as a version 4 address; it is written with the longest run of zeros left
out.
-/

namespace Soap.Url

open Soap.Text

/-! ### Version 4 -/

/-- The radix of a number of an address, and its digits. -/
def numberRadix : List Char → Nat × List Char
  | '0' :: 'x' :: rest => (16, rest)
  | '0' :: 'X' :: rest => (16, rest)
  | '0' :: c :: rest => (8, c :: rest)
  | cs => (10, cs)

def addressNumber? (part : List Char) : Option Nat :=
  if part.isEmpty then none
  else
    let (radix, digits) := numberRadix part
    digits.foldlM (fun n c => (digitValue? radix c).map (n * radix + ·)) 0

/-- The parts of a host between its dots; a final dot does not count. -/
def hostParts (host : List Char) : List (List Char) :=
  let parts := pieces (· == '.') host
  match parts.reverse with
  | [] :: (before :: more) => (before :: more).reverse
  | _ => parts

/-- Does the last part of a host make it an address? -/
def endsInNumber (host : List Char) : Bool :=
  match (hostParts host).getLast? with
  | some last => (!last.isEmpty && last.all isDigit) || (addressNumber? last).isSome
  | none => false

def ipv4? (host : List Char) : Option Nat := do
  let numbers ← (hostParts host).mapM addressNumber?
  if numbers.length > 4 then none
  let last ← numbers.getLast?
  let leading := numbers.dropLast
  if leading.any (255 < ·) || Nat.pow 256 (4 - leading.length) ≤ last then none
  return leading.zipIdx.foldl (fun address (n, i) => address + n * Nat.pow 256 (3 - i)) last

def renderIpv4 (address : Nat) : List Char :=
  let byte (i : Nat) : String := toString (address / Nat.pow 256 i % 256)
  (".".intercalate [byte 3, byte 2, byte 1, byte 0]).toList

/-! ### Version 6 -/

def group? (digits : List Char) : Option Nat :=
  if digits.isEmpty || 4 < digits.length then none
  else digits.foldlM (fun n c => (digitValue? 16 c).map (n * 16 + ·)) 0

/-- One byte of a version 4 address inside a version 6 one: decimal, without a leading zero. -/
def plainByte? (digits : List Char) : Option Nat :=
  if digits.isEmpty || !digits.all isDigit || (1 < digits.length && digits.head? == some '0') then none
  else
    let n := decimalValue digits
    if n < 256 then some n else none

/-- The groups written by the parts between single colons. The last part may be a version 4
address. -/
def groups? : List (List Char) → Option (List Nat)
  | [] => some []
  | [last] =>
    if last.contains '.' then do
      match ← (pieces (· == '.') last).mapM plainByte? with
      | [a, b, c, d] => some [a * 256 + b, c * 256 + d]
      | _ => none
    else (group? last).map fun n => [n]
  | part :: rest => do return (← group? part) :: (← groups? rest)

/-- The groups of one side of an omitted run; an empty side has none. -/
def sideGroups? (cs : List Char) : Option (List Nat) :=
  if cs.isEmpty then some [] else groups? (pieces (· == ':') cs)

/-- What stands before and after the first `::`. -/
def splitOmission : List Char → Option (List Char × List Char)
  | ':' :: ':' :: rest => some ([], rest)
  | c :: rest => (splitOmission rest).map fun (a, b) => (c :: a, b)
  | [] => none

/-- The eight groups of a version 6 address. Only the last group of all may be a version 4 address,
and an omitted run stands for at least one group. -/
def ipv6? (cs : List Char) : Option (List Nat) :=
  match splitOmission cs with
  | none => do
    let groups ← groups? (pieces (· == ':') cs)
    if groups.length = 8 then some groups else none
  | some (before, after) => do
    if before.contains '.' then none
    let head ← sideGroups? before
    let tail ← sideGroups? after
    if head.length + tail.length < 8 then
      some (head ++ List.replicate (8 - head.length - tail.length) 0 ++ tail)
    else none

/-- The length of the run of zeros at the start. -/
def zeroRun (groups : List Nat) : Nat := (groups.takeWhile (· == 0)).length

/-- Where the first of the longest runs of at least two zeros begins, and its length. -/
def longestZeros (groups : List Nat) : Option (Nat × Nat) :=
  (List.range groups.length).foldl (fun best i =>
    let length := zeroRun (groups.drop i)
    let longest := (best.map Prod.snd).getD 1
    if longest < length then some (i, length) else best) none

def renderGroups (groups : List Nat) : List Char :=
  [':'].intercalate (groups.map (Nat.toDigits 16))

def renderIpv6 (groups : List Nat) : List Char :=
  '[' :: (match longestZeros groups with
    | some (start, length) =>
      renderGroups (groups.take start) ++ [':', ':'] ++ renderGroups (groups.drop (start + length))
    | none => renderGroups groups) ++ [']']

end Soap.Url
