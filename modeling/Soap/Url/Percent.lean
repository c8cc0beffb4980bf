import Soap.Text.Integer
import Soap.Text.Utf8

/-!
# Percent encoding

A character that must not stand in some part of a URL is written as its UTF-8 bytes, each as `%` and
two digits. Which characters must be is a set per part (`CodeSet`); a set with fewer parts to
delimit is contained in those with more.
-/

namespace Soap.Url

/-- A set of characters to be encoded in some part of a URL. -/
abbrev CodeSet := Char → Bool

/-- Controls, and everything outside ASCII. -/
def controlSet : CodeSet := fun c => c.toNat < 0x20 || 0x7e < c.toNat

def fragmentSet : CodeSet := fun c => controlSet c || " \"<>`".toList.contains c

def querySet : CodeSet := fun c => controlSet c || " \"#<>".toList.contains c

/-- What is encoded after `?` in a URL of a special scheme. -/
def specialQuerySet : CodeSet := fun c => querySet c || c == '\''

def pathSet : CodeSet := fun c => fragmentSet c || "#?\x7b\x7d".toList.contains c

def userinfoSet : CodeSet := fun c => pathSet c || "/:;=@[\\]^|".toList.contains c

def hexDigit (n : Nat) : Char := if n < 10 then Char.ofNat (0x30 + n) else Char.ofNat (0x37 + n)

def encodeByte (b : UInt8) : List Char := ['%', hexDigit (b.toNat / 16), hexDigit (b.toNat % 16)]

def encodeChar (set : CodeSet) (c : Char) : List Char :=
  if set c then (String.utf8EncodeChar c).flatMap encodeByte else [c]

def encode (set : CodeSet) (cs : List Char) : List Char := cs.flatMap (encodeChar set)

/-- The bytes that a written text stands for. A `%` that two digits do not follow stands for
itself. -/
def decodeBytes : List Char → List UInt8
  | [] => []
  | '%' :: a :: b :: rest =>
    match Text.digitValue? 16 a, Text.digitValue? 16 b with
    | some high, some low => UInt8.ofNat (high * 16 + low) :: decodeBytes rest
    | _, _ => String.utf8EncodeChar '%' ++ decodeBytes (a :: b :: rest)
  | c :: rest => String.utf8EncodeChar c ++ decodeBytes rest
termination_by cs => cs.length

/-- The text that a written text stands for, if its bytes spell one. -/
def decode? (cs : List Char) : Option (List Char) :=
  (Utf8.decode (decodeBytes cs)).toOption.map String.toList

/-- What needs no encoding is written as it is. -/
theorem encode_of_forall_not {set : CodeSet} {cs : List Char} (h : ∀ c ∈ cs, set c = false) :
    encode set cs = cs := by
  induction cs with
  | nil => rfl
  | cons c rest ih =>
    have hrest : encode set rest = rest := ih fun d hd => h d (List.mem_cons_of_mem _ hd)
    simp only [encode] at hrest
    simp [encode, encodeChar, h c (by simp), hrest]

end Soap.Url
