/-!
# UTF-8

Request bodies arrive as bytes. `Utf8.pieces` cuts them into characters, ill-formed sequences (each
as long as it could still have become a character) and at most one sequence cut off by the end. The
strict reading `decode` refuses at the first piece that is no character; the lenient `decodeLossy`
shows each such piece as U+FFFD.
-/

namespace Soap.Utf8

/-- Why bytes are not UTF-8. -/
inductive Error where
  /-- The `length` bytes at `index` belong to no character. -/
  | invalid (index length : Nat)
  /-- The bytes end inside the character that begins at `index`. -/
  | incomplete (index : Nat)
deriving DecidableEq, Repr

def Error.message : Error → String
  | .invalid index length =>
    "invalid utf-8 sequence of " ++ toString length ++ " bytes from index " ++ toString index
  | .incomplete index => "incomplete utf-8 byte sequence from index " ++ toString index

/-- A character begun but not finished: where it began, how many bytes of it were read, how many
are still to come, the bounds of the next one, and the bits collected so far. -/
structure Partial where
  start : Nat
  read : Nat
  missing : Nat
  low : Nat
  high : Nat
  bits : Nat
deriving DecidableEq, Repr

/-- What a byte means where a character may begin. -/
inductive Lead where
  | complete (c : Char)
  | begins (p : Partial)
  | wrong
deriving DecidableEq, Repr

/-- Read a first byte at `index`. The bounds on the second byte keep out overlong forms,
surrogates and what lies past U+10FFFF. -/
def Lead.ofByte (index : Nat) (b : UInt8) : Lead :=
  let n := b.toNat
  if n < 0x80 then .complete (Char.ofNat n)
  else if n < 0xc2 then .wrong
  else if n < 0xe0 then .begins ⟨index, 1, 1, 0x80, 0xbf, n - 0xc0⟩
  else if n = 0xe0 then .begins ⟨index, 1, 2, 0xa0, 0xbf, 0⟩
  else if n = 0xed then .begins ⟨index, 1, 2, 0x80, 0x9f, 0xd⟩
  else if n < 0xf0 then .begins ⟨index, 1, 2, 0x80, 0xbf, n - 0xe0⟩
  else if n = 0xf0 then .begins ⟨index, 1, 3, 0x90, 0xbf, 0⟩
  else if n < 0xf4 then .begins ⟨index, 1, 3, 0x80, 0xbf, n - 0xf0⟩
  else if n = 0xf4 then .begins ⟨index, 1, 3, 0x80, 0x8f, 4⟩
  else .wrong

/-- A character, or a stretch of bytes that is none. -/
abbrev Piece := Except Error Char

/-- The pieces of `bytes`, the first of which stands at `index`, after the begun character
`open?`. -/
def piecesFrom : (index : Nat) → (open? : Option Partial) → List UInt8 → List Piece
  | _, none, [] => []
  | _, some p, [] => [.error (.incomplete p.start)]
  | index, open?, b :: rest =>
    let fresh (before : List Piece) : List Piece :=
      match Lead.ofByte index b with
      | .complete c => before ++ .ok c :: piecesFrom (index + 1) none rest
      | .begins p => before ++ piecesFrom (index + 1) (some p) rest
      | .wrong => before ++ .error (.invalid index 1) :: piecesFrom (index + 1) none rest
    match open? with
    | none => fresh []
    | some p =>
      if p.low ≤ b.toNat && b.toNat ≤ p.high then
        let bits := p.bits * 64 + (b.toNat - 0x80)
        if p.missing = 1 then .ok (Char.ofNat bits) :: piecesFrom (index + 1) none rest
        else piecesFrom (index + 1) (some ⟨p.start, p.read + 1, p.missing - 1, 0x80, 0xbf, bits⟩) rest
      else fresh [.error (.invalid p.start p.read)]

def pieces (bytes : List UInt8) : List Piece := piecesFrom 0 none bytes

/-- The text that `bytes` spell, or the first thing wrong with them. -/
def decode (bytes : List UInt8) : Except Error String :=
  (pieces bytes).mapM id |>.map String.ofList

/-- The text that `bytes` spell, with U+FFFD for every piece that is no character. -/
def decodeLossy (bytes : List UInt8) : String :=
  String.ofList ((pieces bytes).map fun | .ok c => c | .error _ => '\ufffd')

def encode (s : String) : List UInt8 := s.toList.flatMap String.utf8EncodeChar

/-- How many bytes a text takes. -/
def length (cs : List Char) : Nat := cs.foldl (fun n c => n + c.utf8Size) 0

end Soap.Utf8
