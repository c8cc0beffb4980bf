import Soap.Text.Split
import Soap.Url.Parser

/-!
# Locations of documents

A document says where those it includes are: by a URL, by a path, or relative to itself.
`resolveLocation` gives the one text under which an included document is fetched and by which it is
recognised.

Paths are resolved without looking at any file system. The components of a path are folded from the
left: an ordinary component is dropped together with a `..` right after it, and a `..` that has
nothing to drop is kept, also after the root.
-/

namespace Soap

/-- A path: whether it starts at the root, and its components. -/
structure FilePath where
  absolute : Bool
  components : List String
deriving DecidableEq, Repr

namespace FilePath

/-- Read a path. Empty components and `.` say nothing. -/
def parse (text : String) : FilePath :=
  let pieces := (Text.pieces (· == '/') text.toList).map String.ofList
  { absolute := text.toList.head? == some '/'
    components := pieces.filter fun c => c != "" && c != "." }

def render (p : FilePath) : String :=
  (if p.absolute then "/" else "") ++ "/".intercalate p.components

/-- The directory that a path stands in; the root stands in none, and the current one takes its
place. -/
def parent (p : FilePath) : FilePath :=
  if p.components.isEmpty then { absolute := false, components := [] }
  else { p with components := p.components.dropLast }

/-- `q`, seen from the directory `p`. -/
def join (p q : FilePath) : FilePath :=
  if q.absolute then q else { p with components := p.components ++ q.components }

/-- Add a component to folded ones, latest first. -/
def foldComponent (folded : List String) (component : String) : List String :=
  if component = ".." then
    match folded with
    | [] => [".."]
    | last :: before => if last = ".." then ".." :: last :: before else before
  else component :: folded

/-- Drop every ordinary component that a `..` follows. -/
def normalize (p : FilePath) : FilePath :=
  { p with components := (p.components.foldl foldComponent []).reverse }

end FilePath

/-- Does the location name a scheme? One letter before the colon is the name of a drive. -/
def hasScheme (location : String) : Bool :=
  match Url.parse? location with
  | some u => 1 < u.scheme.length
  | none => false

/-- Where `location`, as the document at `base?` writes it, is to be found. -/
def resolveLocation (base? : Option String) (location : String) : String :=
  match base? with
  | none => location
  | some base =>
    if hasScheme location then location
    else if hasScheme base then
      match (Url.parse? base).bind fun u => u.join? location with
      | some u => u.render
      | none => location
    else (((FilePath.parse base).parent.join (FilePath.parse location)).normalize).render

/-- A location without a base, and one with a scheme, stand for themselves. -/
theorem resolveLocation_none (location : String) : resolveLocation none location = location := rfl

theorem resolveLocation_of_hasScheme {location : String} (h : hasScheme location = true)
    (base? : Option String) : resolveLocation base? location = location := by
  cases base? <;> simp [resolveLocation, h]

end Soap
