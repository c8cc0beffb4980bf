import Soap.Text.Composition
import Soap.Text.Direction
import Soap.Text.Joining
import Soap.Url.Domain.Mapping
import Soap.Url.Punycode

/-!
# Domain names

A domain name is labels with dots between them. It may be given in any script and is brought into
the one form in which it is asked for: differences that do not matter are removed (`normalized?`),
and each label that is not ASCII then is written in Punycode after `xn--`. A label that comes in
Punycode must stand for what would be written so, and a label of either kind must be one that can be
read: it does not begin with a mark, it holds invisible joiners only where they show, and, if any
label is written from right to left, its direction is clear.
-/

namespace Soap.Url.Domain

open Soap.Text

/-- Characters that no domain name contains. -/
def isForbidden (c : Char) : Bool :=
  c.toNat ≤ 0x20 || c.toNat == 0x7f || "%#/:<>?@[\\]^|".toList.contains c

def isAscii (cs : List Char) : Bool := cs.all (·.toNat < 0x80)

/-- A domain name without the differences that do not matter. -/
def normalized? (cs : List Char) : Option (List Char) := (map? cs).map composed

/-! ### Joiners -/

/-- The sign that keeps its neighbours from joining. -/
def nonJoiner : Char := '\u200c'

/-- The sign that makes its neighbours join. -/
def joiner : Char := '\u200d'

/-- Does a joiner show between what stands before it, latest first, and after it? It does behind a
sign that mutes a vowel; and letters that would join can be kept from it. -/
def joinerShows (c : Char) (before after : List Char) : Bool :=
  before.head?.any isVirama ||
    (c == nonJoiner && [Joining.left, .dual].contains (firstJoining before) &&
      [Joining.right, .dual].contains (firstJoining after))

/-- Do all joiners show, those after `before`, which is given latest first? -/
def joinersShow (before : List Char) : List Char → Bool
  | [] => true
  | c :: rest =>
    ((c != nonJoiner && c != joiner) || joinerShows c before rest) && joinersShow (c :: before) rest

/-! ### Direction -/

/-- What a label written from left to right contains. -/
def leftToRightKinds : List Direction :=
  [.leftToRight, .europeanNumber, .europeanSeparator, .commonSeparator, .europeanTerminator, .neutral,
    .boundary, .mark]

/-- What a label written from right to left contains. -/
def rightToLeftKinds : List Direction :=
  [.rightToLeft, .arabicLetter, .arabicNumber, .europeanNumber, .europeanSeparator, .commonSeparator,
    .europeanTerminator, .neutral, .boundary, .mark]

/-- Does a label of these directions end, but for marks, in one of `kinds`? -/
def endsIn (kinds directions : List Direction) : Bool :=
  (directions.reverse.dropWhile (· == .mark)).head?.all kinds.contains

/-- Is the direction of a label clear? Its first character determines it, and the last one confirms
it. From right to left it has numbers of one kind only. -/
def hasClearDirection (label : List Char) : Bool :=
  let directions := label.map direction
  match directions with
  | [] => true
  | .leftToRight :: _ =>
    directions.all leftToRightKinds.contains && endsIn [.leftToRight, .europeanNumber] directions
  | .rightToLeft :: _ | .arabicLetter :: _ =>
    directions.all rightToLeftKinds.contains &&
      endsIn [.rightToLeft, .arabicLetter, .europeanNumber, .arabicNumber] directions &&
      !(directions.contains .europeanNumber && directions.contains .arabicNumber)
  | _ => false

/-! ### Labels -/

/-- A label: how it is written in ASCII, and the text it stands for. -/
structure Label where
  written : List Char
  meaning : List Char
deriving DecidableEq, Repr

/-- What stands before a label in Punycode. -/
def punycodeMark : List Char := "xn--".toList

/-- Can a label be read? One that is not in ASCII has at most a thousand characters. -/
def isReadable (label : List Char) : Bool :=
  !label.head?.any isMark && joinersShow [] label && (isAscii label || label.length ≤ 1000)

/-- The text that a label's Punycode stands for: one that would be written so. -/
def decodeLabel? (code : List Char) : Option (List Char) :=
  if code.isEmpty || code.getLast? == some '-' || 2000 < code.length then none
  else (Punycode.decode? code).filter fun meaning => normalized? meaning == some meaning

def readLabel? (text : List Char) : Option Label :=
  let label? : Option Label :=
    match afterLead? punycodeMark text with
    | some code => (decodeLabel? code).map fun meaning => { written := text, meaning }
    | none =>
      let written := if isAscii text then text else punycodeMark ++ Punycode.encode text
      some { written, meaning := text }
  label?.filter fun label => isReadable label.meaning

/-- Are these labels in which every direction is clear, or is none in doubt? -/
def haveClearDirections (labels : List Label) : Bool :=
  !(labels.any fun label => label.meaning.any isRightToLeft) ||
    labels.all fun label => hasClearDirection label.meaning

def toAscii? (domain : List Char) : Option (List Char) := do
  let text ← normalized? domain
  let labels ← (pieces (· == '.') text).mapM readLabel?
  let written := ['.'].intercalate (labels.map Label.written)
  if written.any isForbidden || !haveClearDirections labels then none
  return written

end Soap.Url.Domain
