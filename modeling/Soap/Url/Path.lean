import Soap.Url.Percent

/-!
# Paths of URLs

A path is read segment by segment onto what is already there. A segment `.` disappears; a segment
`..` takes the one before it along, but never the root and never a drive letter. `SegmentReader.run`
reads up to the query or the fragment.

Tabs and line breaks in a URL do not count. In the path of a file one leaves a trace all the same:
what precedes it is written out, and a drive letter that is all of a path so far gets a slash before
anything is added to it.
-/

namespace Soap.Url

/-- How the scheme of a URL is treated. -/
inductive SchemeKind where
  /-- Documents on this machine. -/
  | file
  /-- A scheme with a host and a path of its own, with this usual port. -/
  | web (port : Nat)
  | other
deriving DecidableEq, Repr

def SchemeKind.ofName (scheme : List Char) : SchemeKind :=
  if scheme = "http".toList ∨ scheme = "ws".toList then .web 80
  else if scheme = "https".toList ∨ scheme = "wss".toList then .web 443
  else if scheme = "ftp".toList then .web 21
  else if scheme = "file".toList then .file
  else .other

/-- Has the scheme a syntax of its own? -/
def SchemeKind.isSpecial : SchemeKind → Bool
  | .other => false
  | _ => true

def isSlash (c : Char) : Bool := c == '/' || c == '\\'

def isBreak (c : Char) : Bool := c == '\t' || c == '\n' || c == '\r'

def withoutBreaks (cs : List Char) : List Char := cs.filter (!isBreak ·)

def endsPath (c : Char) : Bool := c == '?' || c == '#'

/-! ### Drive letters -/

/-- Is the text a drive letter: a letter, then a colon or a bar? -/
def isDriveLetter : List Char → Bool
  | [letter, mark] => letter.isAlpha && (mark == ':' || mark == '|')
  | _ => false

def isNormalDriveLetter (cs : List Char) : Bool := isDriveLetter cs && cs.getLast? == some ':'

/-- Does the text begin with a segment that is a drive letter? -/
def beginsWithDriveLetter (cs : List Char) : Bool :=
  isDriveLetter (cs.take 2) && (cs.drop 2).head?.all fun c => isSlash c || endsPath c

/-! ### Segments -/

/-- The dots of a segment written as such, whether encoded or not. -/
def plainDots : List Char → List Char
  | '%' :: '2' :: 'e' :: rest => '.' :: plainDots rest
  | '%' :: '2' :: 'E' :: rest => '.' :: plainDots rest
  | c :: rest => c :: plainDots rest
  | [] => []

def lastSegment (path : List Char) : List Char := (path.reverse.takeWhile (· != '/')).reverse

/-- What goes up to the last slash, and the slash. -/
def upToLastSlash (path : List Char) : List Char := (path.reverse.dropWhile (· != '/')).reverse

/-- A path without its last segment; a drive letter of a file stays. -/
def withoutLastSegment (kind : SchemeKind) (path : List Char) : List Char :=
  if kind = .file ∧ isNormalDriveLetter (lastSegment path) then path else upToLastSlash path

/-- A path that ends in a slash without the segment before the slash, if there is one that may
go. -/
def parentPath (path : List Char) : List Char :=
  match path.reverse with
  | '/' :: before =>
    let shorter := before.reverse
    if shorter.contains '/' && !isDriveLetter (lastSegment shorter) then upToLastSlash shorter else path
  | _ => path

/-- A path being read: what stands before the current segment, what of the segment is written out
and what is not, and whether a drive letter was met, with which a host makes no sense. -/
structure SegmentReader where
  done : List Char
  written : List Char := []
  pending : List Char := []
  metDrive : Bool := false
deriving DecidableEq, Repr

namespace SegmentReader

def segment (r : SegmentReader) : List Char := r.written ++ r.pending

/-- End the current segment; `slash` tells whether a slash ended it. -/
def close (kind : SchemeKind) (r : SegmentReader) (slash : Bool) : SegmentReader :=
  let slashes := if slash then ['/'] else []
  let begun (done : List Char) : SegmentReader := { done, metDrive := r.metDrive }
  if plainDots r.segment = ['.', '.'] then begun (parentPath r.done)
  else if plainDots r.segment = ['.'] then
    begun (if r.done.getLast? = some '/' then r.done else r.done ++ ['/'])
  else if kind = .file ∧ r.done.length = 1 ∧ isDriveLetter r.segment then
    { done := r.done ++ r.segment.take 1 ++ [':'] ++ slashes, metDrive := true }
  else begun (r.done ++ r.segment ++ slashes)

def writeOut (r : SegmentReader) : SegmentReader := { r with written := r.segment, pending := [] }

/-- Put a slash behind what is written. It counts as one more character before the current segment,
which therefore takes the last character of a drive letter along if it wrote the drive letter
itself. -/
def pushSlash (r : SegmentReader) : SegmentReader :=
  let path := r.done ++ r.written ++ ['/']
  { r with done := path.take (r.done.length + 1), written := path.drop (r.done.length + 1) }

def add (kind : SchemeKind) (r : SegmentReader) (c : Char) : SegmentReader :=
  let onDrive := kind = .file ∧ isNormalDriveLetter ((r.done ++ r.written).drop 1)
  let r := if onDrive then r.pushSlash else r
  { r with pending := r.pending ++ encodeChar pathSet c }

/-- The path at its end. The path of a file begins with one slash. -/
def finish (kind : SchemeKind) (r : SegmentReader) : List Char :=
  let path := (r.close kind false).done
  if kind = .file then '/' :: path.dropWhile (· == '/') else path

/-- Read a path to its end: the path, whether a drive letter was met, and what follows. -/
def run (kind : SchemeKind) (r : SegmentReader) : List Char → List Char × Bool × List Char
  | [] => (r.finish kind, (r.close kind false).metDrive, [])
  | c :: rest =>
    if isBreak c then run kind r.writeOut rest
    else if c = '/' ∨ c = '\\' ∧ kind.isSpecial then run kind (r.close kind true) rest
    else if endsPath c then (r.finish kind, (r.close kind false).metDrive, c :: rest)
    else run kind (r.add kind c) rest

end SegmentReader

def readPath (kind : SchemeKind) (done rest : List Char) : List Char × Bool × List Char :=
  SegmentReader.run kind { done } rest

/-! ### Laws -/

/-- Nothing but the last segment is left out. -/
theorem upToLastSlash_append_lastSegment (path : List Char) :
    upToLastSlash path ++ lastSegment path = path := by
  rw [upToLastSlash, lastSegment, ← List.reverse_append, List.takeWhile_append_dropWhile,
    List.reverse_reverse]

end Soap.Url
