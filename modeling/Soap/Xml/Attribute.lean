import Soap.OrderedMap
import Soap.Text.Utf8
import Soap.Xml.Token

/-!
# Attributes

The attributes of a tag are read from what follows its name: keys and quoted values, blanks around
the equals sign allowed and blanks between attributes not required. `rawAttributes` stops at the
first thing that is no attribute; `unescape` then replaces the references in a value.
-/

namespace Soap.Xml

/-- What the next character of a tag stands in. Positions are byte offsets; what was read is kept
latest first. -/
inductive AttributeState where
  | between
  | key (start : Nat) (name : List Char)
  | afterKey (start : Nat) (name : List Char)
  | afterEquals (name : List Char)
  | value (name : List Char) (quote : Char) (run : List Char)
deriving DecidableEq, Repr

/-- Attributes as they are written, and the error that stopped the reading, if any. -/
structure RawAttributes where
  items : List (List Char × List Char)
  error : Option AttributeError
deriving DecidableEq, Repr

/-- The key `name` at `start` has met its equals sign: it must be new. -/
def keyState (seen : List (List Char × Nat)) (start : Nat) (name : List Char) :
    Except AttributeError AttributeState :=
  match OrderedMap.get? seen name with
  | some previous => .error (.duplicated start previous)
  | none => .ok (.afterEquals name)

/-- Read attributes from the offset `pos` on. `seen` holds the earlier keys and where they stand. -/
def rawAttributesFrom (seen : List (List Char × Nat)) (pos : Nat) (state : AttributeState) :
    List Char → RawAttributes
  | [] =>
    match state with
    | .between => ⟨[], none⟩
    | .key _ _ | .afterKey _ _ => ⟨[], some (.expectedEquals pos)⟩
    | .afterEquals _ => ⟨[], some (.expectedValue pos)⟩
    | .value _ quote _ => ⟨[], some (.unclosedValue pos quote)⟩
  | c :: rest =>
    let next := pos + c.utf8Size
    let equals (start : Nat) (name : List Char) : RawAttributes :=
      match keyState seen start name with
      | .error e => ⟨[], some e⟩
      | .ok state => rawAttributesFrom ((name, start) :: seen) next state rest
    match state with
    | .between =>
      if isSpace c then rawAttributesFrom seen next .between rest
      else rawAttributesFrom seen next (.key pos [c]) rest
    | .key start name =>
      if c = '=' then equals start name.reverse
      else if isSpace c then rawAttributesFrom seen next (.afterKey start name) rest
      else rawAttributesFrom seen next (.key start (c :: name)) rest
    | .afterKey start name =>
      if isSpace c then rawAttributesFrom seen next (.afterKey start name) rest
      else if c = '=' then equals start name.reverse
      else ⟨[], some (.expectedEquals pos)⟩
    | .afterEquals name =>
      if isSpace c then rawAttributesFrom seen next (.afterEquals name) rest
      else if c = '\'' ∨ c = '"' then rawAttributesFrom seen next (.value name c []) rest
      else ⟨[], some (.unquotedValue pos)⟩
    | .value name quote run =>
      if c = quote then
        let later := rawAttributesFrom seen next .between rest
        ⟨(name, run.reverse) :: later.items, later.error⟩
      else rawAttributesFrom seen next (.value name quote (c :: run)) rest

def rawAttributes (content : List Char) : RawAttributes :=
  let name := startName content
  rawAttributesFrom [] (Utf8.length name) .between (content.drop name.length)

/-! ### Values -/

/-- The five entities that every document knows. -/
def predefinedEntity? (name : List Char) : Option Char :=
  if name = "lt".toList then some '<'
  else if name = "gt".toList then some '>'
  else if name = "amp".toList then some '&'
  else if name = "apos".toList then some '\''
  else if name = "quot".toList then some '"'
  else none

def charOfCode? (n : Nat) : Option Char := if n.isValidChar then some (Char.ofNat n) else none

/-- The character named by a reference in an attribute value, given without `&#` and `;`. -/
def charRef (code : List Char) : Except CharRefError Char := do
  let (radix, digits) :=
    match code with
    | 'x' :: rest => (16, rest)
    | _ => (10, code)
  match digits with
  | '+' :: _ | '-' :: _ => throw .sign
  | _ => pure ()
  let n ← (Text.wholeNat radix 0x100000000 digits).mapError .number
  if n = 0 then throw (.illegal n)
  match charOfCode? n with
  | some c => return c
  | none => throw (.invalidCodePoint n)

/-- What the name between `&` at `start` and `;` stands for in an attribute value. -/
def entityValue (start : Nat) (name : List Char) : Except UnescapeError Char :=
  match name with
  | '#' :: code => (charRef code).mapError .charRef
  | _ =>
    match predefinedEntity? name with
    | some c => .ok c
    | none => .error (.unknownEntity (start + 1) (start + 1 + Utf8.length name) (String.ofList name))

/-- Replace references from the offset `pos` on, in a value of `total` bytes. `entity?` holds the
offset of an `&` not yet met by its `;`, and what was read since, latest first. -/
def unescapeFrom (total pos : Nat) (entity? : Option (Nat × List Char)) :
    List Char → Except UnescapeError (List Char)
  | [] =>
    match entity? with
    | some (start, _) => .error (.unterminated start total)
    | none => .ok []
  | c :: rest =>
    let next := pos + c.utf8Size
    match entity? with
    | none =>
      if c = '&' then unescapeFrom total next (some (pos, [])) rest
      else (unescapeFrom total next none rest).map (c :: ·)
    | some (start, name) =>
      if c = '&' then .error (.unterminated start total)
      else if c = ';' then do
        let d ← entityValue start name.reverse
        return d :: (← unescapeFrom total next none rest)
      else unescapeFrom total next (some (start, c :: name)) rest

def unescape (raw : List Char) : Except UnescapeError (List Char) :=
  unescapeFrom (Utf8.length raw) 0 none raw

/-! ### Text -/

/-- What a reference in text stands for, given without `&` and `;`. Unlike in an attribute value,
the `x` may be large and a plus sign may precede the digits. -/
def resolveReference (name : List Char) : Option Char :=
  let code? (radix : Nat) (digits : List Char) : Option Char :=
    let unsigned :=
      match digits with
      | '+' :: rest => rest
      | _ => digits
    (Text.wholeNat radix 0x100000000 unsigned).toOption.bind charOfCode?
  match name with
  | '#' :: 'x' :: hex => code? 16 hex
  | '#' :: 'X' :: hex => code? 16 hex
  | '#' :: decimal => code? 10 decimal
  | _ => predefinedEntity? name

/-- The reference that stands for a character in rendered text, if it needs one. -/
def escapeChar (c : Char) : List Char :=
  if c = '<' then "&lt;".toList
  else if c = '>' then "&gt;".toList
  else if c = '&' then "&amp;".toList
  else if c = '\'' then "&apos;".toList
  else if c = '"' then "&quot;".toList
  else [c]

/-- Text as it is rendered: the five characters of markup are replaced by their entities. -/
def escape (s : String) : String := String.ofList (s.toList.flatMap escapeChar)

/-- The entity written for a character stands for that character. -/
theorem predefinedEntity?_escape :
    ∀ p ∈ [("lt", '<'), ("gt", '>'), ("amp", '&'), ("apos", '\''), ("quot", '"')],
      predefinedEntity? p.1.toList = some p.2 := by decide

end Soap.Xml
