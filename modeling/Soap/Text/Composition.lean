import Soap.Text.CombiningClass
import Soap.Text.Composition.Pairs

/-!
# Composed text

Texts that are read as the same text can be written in several ways: a letter and its marks as one
character or as several, and marks in any order of their classes. `composed` gives the one way in
which everything that can be one character is one: it takes all characters apart, puts their marks
in order and composes each character with the marks behind it from left to right.
-/

namespace Soap.Text

/-- Take a character apart, and its first part again, up to `depth` times. -/
def decomposeWithin : (depth : Nat) → Char → List Char
  | 0, c => [c]
  | depth + 1, c =>
    match parts? c with
    | some (first, second) => decomposeWithin depth first ++ [second]
    | none => [c]

/-- A character taken apart. The deepest composite is a letter with three marks. -/
def decompose (c : Char) : List Char := decomposeWithin 3 c

/-- A text with every character taken apart and all marks in order. -/
def decomposed (cs : List Char) : List Char := inMarkOrder (cs.flatMap decompose)

/-- Does the last of the characters `between` keep `c` from being composed with the one before
them? -/
def isBlocked (between : List Char) (c : Char) : Bool :=
  match between.getLast? with
  | some last => combiningClass last == 0 || combiningClass c ≤ combiningClass last
  | none => false

/-- Compose `start`, which the characters `between` follow that do not compose with it, with what
comes next. -/
def composeOnto (start : Char) (between : List Char) : List Char → List Char
  | [] => start :: between
  | c :: rest =>
    match (if isBlocked between c then none else whole? start c) with
    | some whole => composeOnto whole between rest
    | none =>
      if combiningClass c = 0 then start :: between ++ composeOnto c [] rest
      else composeOnto start (between ++ [c]) rest

/-- Compose a text that is taken apart. Marks at its very beginning have nothing to be composed
with. -/
def compose : List Char → List Char
  | [] => []
  | c :: rest => if combiningClass c = 0 then composeOnto c [] rest else c :: compose rest

def composed (cs : List Char) : List Char := compose (decomposed cs)

end Soap.Text
