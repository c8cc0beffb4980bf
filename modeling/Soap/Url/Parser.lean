import Soap.Text.Split
import Soap.Url
import Soap.Url.Host

/-!
# Reading URLs

`Url.parse?` reads an absolute URL, `Url.join?` one that may be relative to another. Whatever is not
a URL has none. Blanks and controls around a URL do not count, nor do tabs and line breaks inside
it.
-/

namespace Soap.Url

/-- A URL's text without the blanks and controls around it. -/
def trimmed (text : String) : List Char :=
  let blank (c : Char) : Bool := c.toNat ≤ 0x20
  ((text.toList.dropWhile blank).reverse.dropWhile blank).reverse

/-- The scheme before the first colon, in lower case, and what follows the colon. -/
def splitScheme? (cs : List Char) : Option (List Char × List Char) :=
  match cs, Text.splitFirst (· == ':') cs with
  | first :: _, some (scheme, rest) =>
    if first.isAlpha && scheme.all (fun c => c.isAlphanum || "+-.".toList.contains c) then
      some (scheme.map Char.toLower, rest)
    else none
  | _, _ => none

def readSuffix (kind : SchemeKind) (cs : List Char) : Option (List Char) × Option (List Char) :=
  let fragment (cs : List Char) : Option (List Char) :=
    match cs.dropWhile (· != '#') with
    | _ :: rest => some (encode fragmentSet rest)
    | [] => none
  match cs with
  | '?' :: rest =>
    let set := if kind.isSpecial then specialQuerySet else querySet
    (some (encode set (rest.takeWhile (· != '#'))), fragment rest)
  | _ => (none, fragment cs)

def withSuffix (u : Url) (cs : List Char) : Url :=
  let (query, fragment) := readSuffix u.kind cs
  { u with query, fragment }

/-! ### Authorities -/

def endsAuthority (kind : SchemeKind) (c : Char) : Bool :=
  c == '/' || endsPath c || (kind.isSpecial && c == '\\')

/-- What stands before and after the last `@` of an authority. -/
def splitCredentials (authority : List Char) : Option (List Char × List Char) :=
  (Text.splitFirst (· == '@') authority.reverse).map fun (after, before) =>
    (before.reverse, after.reverse)

/-- Credentials as they are written; an empty password is left out with its colon. -/
def renderCredentials (credentials : List Char) : List Char :=
  match Text.splitFirst (· == ':') credentials with
  | some (user, []) => encode userinfoSet user
  | some (user, password) => encode userinfoSet user ++ ':' :: encode userinfoSet password
  | none => encode userinfoSet credentials

/-- Cut the host off the text after the credentials: it ends at a colon outside brackets. -/
def splitHost (kind : SchemeKind) (bracketed : Bool) : List Char → List Char × List Char
  | [] => ([], [])
  | c :: rest =>
    if (c = ':' ∧ !bracketed) ∨ endsAuthority kind c then ([], c :: rest)
    else
      let bracketed := if c = '[' then true else if c = ']' then false else bracketed
      let (host, after) := splitHost kind bracketed rest
      (c :: host, after)

/-- The port after the host, unless it is the usual one, and what follows. -/
def readPort? (kind : SchemeKind) : List Char → Option (Option Nat × List Char)
  | ':' :: rest =>
    let digits := rest.takeWhile Text.isDigit
    let after := rest.drop digits.length
    let n := Text.decimalValue digits
    if n > 65535 || !after.head?.all (fun c => isSlash c || endsPath c) then none
    else some (if digits.isEmpty || kind = .web n then none else some n, after)
  | rest => some (none, rest)

/-- Read an authority: what follows the two slashes. -/
def readAuthority? (kind : SchemeKind) (cs : List Char) : Option (Authority × List Char) := do
  let text := cs.takeWhile (!endsAuthority kind ·)
  let cut? := splitCredentials text
  if cut? == some ([], []) && text.length < cs.length then none
  let (credentials, afterCredentials) := cut?.getD ([], text)
  let rest := afterCredentials ++ cs.drop text.length
  let (hostText, afterHost) := splitHost kind false rest
  let host ← if kind.isSpecial then specialHost? hostText else plainHost? hostText
  let written := renderCredentials credentials
  if host.isEmpty && (!written.isEmpty || afterHost.head? == some ':') then none
  let (port, after) ← readPort? kind afterHost
  return ({ credentials := written, host, port }, after)

/-- Read what follows the two slashes of an authority: the authority, the path and the rest. -/
def afterSlashes? (scheme cs : List Char) : Option Url := do
  let kind := SchemeKind.ofName scheme
  let (authority, rest) ← readAuthority? kind cs
  let (path, _, rest) :=
    match kind.isSpecial, rest with
    | true, c :: more => readPath kind ['/'] (if isSlash c then more else c :: more)
    | true, [] => readPath kind ['/'] []
    | false, c :: more =>
      if endsPath c then ([], false, c :: more)
      else readPath kind (if c = '/' then [] else ['/']) (c :: more)
    | false, [] => ([], false, [])
  return withSuffix { scheme, authority, path, query := none, fragment := none } rest

/-! ### Files

The text of a file's URL is read with its tabs and line breaks, which matter to the path alone. -/

/-- A URL of a file whose host is `host`; `rest` follows the path. -/
def ofFile (host path rest : List Char) : Url :=
  withSuffix
    { scheme := "file".toList, authority := some { credentials := [], host, port := none }, path,
      query := none, fragment := none } (withoutBreaks rest)

/-- Cut the host off what follows the two slashes of a file's URL. -/
def splitFileHost (cs : List Char) : List Char × List Char :=
  let ends (c : Char) : Bool := isSlash c || endsPath c
  (withoutBreaks (cs.takeWhile (!ends ·)), cs.dropWhile (!ends ·))

/-- Read what follows the two slashes of a file's URL. A local host goes unsaid, and a drive letter
is none. -/
def fileAfterSlashes? (cs : List Char) : Option Url := do
  let (text, afterHost) := splitFileHost cs
  if isDriveLetter text then
    let (path, _, rest) := readPath .file ['/'] cs
    return ofFile [] path rest
  let named ← if text.isEmpty then some [] else specialHost? text
  let host := if named = "localhost".toList then [] else named
  if host.isEmpty then
    let (path, _, rest) := readPath .file ['/'] afterHost
    return ofFile [] path rest
  let afterSlash :=
    match afterHost with
    | c :: more => if isSlash c then more else c :: more
    | [] => []
  let (path, metDrive, rest) := readPath .file ['/'] afterSlash
  return ofFile (if metDrive then [] else host) path rest

def fileHost (u : Url) : List Char := (u.authority.map Authority.host).getD []

/-- The drive letter that a file's path begins with. -/
def drive? (u : Url) : Option (List Char) :=
  let first := (u.path.drop 1).takeWhile (· != '/')
  if isNormalDriveLetter first then some first else none

/-- Read a file's URL after its scheme, relative to that of another file if there is one. -/
def readFile? (base? : Option Url) (cs : List Char) : Option Url :=
  match cs.dropWhile isBreak, base? with
  | c :: rest, _ =>
    if isSlash c then
      match rest.dropWhile isBreak with
      | d :: more =>
        if isSlash d then fileAfterSlashes? more else some (fromRoot rest)
      | [] => some (fromRoot rest)
    else
      match base? with
      | none => some (fromNothing cs)
      | some base =>
        let plain := withoutBreaks cs
        if c = '?' then some (withSuffix base plain)
        else if c = '#' then some { base with fragment := (readSuffix base.kind plain).2 }
        else if beginsWithDriveLetter plain then some (fromNothing cs)
        else
          let (path, _, rest) := readPath .file (withoutLastSegment .file base.path) cs
          some (withSuffix { base with path } (withoutBreaks rest))
  | [], some base => some { base with fragment := none }
  | [], none => some (fromNothing [])
where
  /-- A path of its own. -/
  fromNothing (cs : List Char) : Url :=
    let (path, _, rest) := readPath .file ['/'] cs
    ofFile [] path rest
  /-- A path from the root, which is that of the other file's drive or host; `rest` follows the
  slash. -/
  fromRoot (rest : List Char) : Url :=
    let (host, start) :=
      match base?, beginsWithDriveLetter (withoutBreaks rest) with
      | some base, false =>
        match base.drive? with
        | some drive => ([], '/' :: drive)
        | none => (base.fileHost, [])
      | _, _ => ([], [])
    let (path, _, rest) := readPath .file start ('/' :: rest)
    ofFile host path rest

/-! ### Absolute and relative URLs -/

/-- Read a URL relative to another of the same scheme, which is not a file's. -/
def readRelative? (base : Url) (cs : List Char) : Option Url :=
  match cs with
  | [] => some { base with fragment := none }
  | c :: rest =>
    if c = '?' then some (withSuffix base cs)
    else if c = '#' then some { base with fragment := (readSuffix base.kind cs).2 }
    else if isSlash c then
      match rest with
      | d :: more =>
        if isSlash d then
          -- Two plain slashes are the mark itself; of any others the whole run is.
          afterSlashes? base.scheme (if c = '/' ∧ d = '/' then more else more.dropWhile isSlash)
        else some (onto base ['/'] rest)
      | [] => some (onto base ['/'] rest)
    else
      let start := upToLastSlash base.path
      some (onto base (if start.isEmpty then ['/'] else start) cs)
where
  /-- The path in `cs` read onto `start`. -/
  onto (base : Url) (start cs : List Char) : Url :=
    let (path, _, rest) := readPath base.kind start cs
    withSuffix { base with path } rest

/-- Read a URL of a scheme without a syntax of its own. -/
def readOther? (scheme cs : List Char) : Option Url :=
  match cs with
  | '/' :: '/' :: rest => afterSlashes? scheme rest
  | '/' :: rest =>
    let (path, _, rest) := readPath .other ['/'] rest
    some (withSuffix { scheme, authority := none, path, query := none, fragment := none } rest)
  | _ =>
    let path := encode controlSet (cs.takeWhile (!endsPath ·))
    some (withSuffix { scheme, authority := none, path, query := none, fragment := none }
      (cs.dropWhile (!endsPath ·)))

def read? (base? : Option Url) (text : String) : Option Url :=
  let whole := trimmed text
  let cs := withoutBreaks whole
  match splitScheme? cs with
  | some (scheme, rest) =>
    let same? := base?.filter (·.scheme == scheme)
    match SchemeKind.ofName scheme with
    | .file => readFile? same? ((whole.dropWhile (· != ':')).drop 1)
    | .web _ =>
      match same?, rest.takeWhile isSlash with
      | some base, [] | some base, [_] => readRelative? base rest
      | _, _ => afterSlashes? scheme (rest.dropWhile isSlash)
    | .other => readOther? scheme rest
  | none =>
    match base? with
    | none => none
    | some base =>
      if cs.head? = some '#' then some { base with fragment := (readSuffix base.kind cs).2 }
      else if base.isOpaque then none
      else if base.kind = .file then readFile? base? whole
      else readRelative? base cs

/-- Read an absolute URL. -/
def parse? (text : String) : Option Url := read? none text

def join? (base : Url) (text : String) : Option Url := read? (some base) text

end Soap.Url
