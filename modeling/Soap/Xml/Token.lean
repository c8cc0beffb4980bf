import Soap.Text.Split
import Soap.Text.Utf8
import Soap.Xml.Error

/-!
# Tokens

`scan` cuts the text of a document into tags, text, references and markup that carries nothing. It
reads one character at a time: `State` says what the character stands in, `step` what it does there.
A tag runs to the first `>` outside quotes; a comment, a CDATA section, an instruction and a
document type declaration each to their own end. Only three things are checked here: that markup is
closed, that an end tag names the innermost open element, and that a reference reaches its
semicolon.

Each token is paired with the byte offset behind it. The result ends with the length of the text or
with the first failure.
-/

namespace Soap.Xml

/-- A piece of a document. Tags are given by what stands between their brackets. -/
inductive Token where
  | startTag (content : List Char)
  | emptyTag (content : List Char)
  | endTag (name : List Char)
  | text (run : List Char)
  | cdata (run : List Char)
  | reference (name : List Char)
  /-- A comment, an instruction or a declaration. -/
  | other
deriving DecidableEq, Repr

/-- A failure to go on, and how far the text had been consumed by then. -/
structure Failure where
  error : Error
  stop : Nat
deriving DecidableEq, Repr

/-- How reading ends: after so many bytes, or in a failure. -/
inductive Ending where
  | done (length : Nat)
  | failed (f : Failure)
deriving DecidableEq, Repr

/-- The four characters that separate names in markup. -/
def isSpace (c : Char) : Bool := c == ' ' || c == '\t' || c == '\n' || c == '\r'

/-! ### Document type declarations -/

/-- Where in a document type declaration a character stands. -/
inductive Doctype where
  /-- Outside the internal subset, possibly in quotes. -/
  | outer (quote : Option Char)
  /-- Between the brackets of the internal subset. -/
  | subset
  /-- In a comment of the subset; the characters since `<!`, latest first. -/
  | comment (content : List Char)
  /-- In an instruction of the subset: before its question mark, or behind it, where the last
  character was a question mark or not. -/
  | instruction (mark : Option Bool)
  /-- In a declaration of the subset that may quote a `>`. -/
  | quoting (quote : Option Char)
  /-- In other markup of the subset. -/
  | markup
  /-- Behind the internal subset. -/
  | trailer
deriving DecidableEq, Repr

/-- Do the characters `content`, latest first, end a comment that began right after `<!`? The
shortest comment is `<!---->`. -/
def closesComment (content : List Char) : Bool :=
  match content with
  | '-' :: '-' :: _ :: _ :: _ => true
  | _ => false

/-- What `<` begins in the internal subset, seen from the text that follows it. Markup of an unknown
kind runs to the next `>`, as an element declaration does. -/
def Doctype.ofMarkup (rest : List Char) : Doctype :=
  let begins (s : String) : Bool := s.toList.isPrefixOf rest
  if begins "?" then .instruction none
  else if begins "!--" then .comment []
  else if begins "!ENTITY" || begins "!ATTLIST" || begins "!NOTATION" then .quoting none
  else .markup

/-- The next quotation state of text in which quotes hide other characters. -/
def quoteStep (quote : Option Char) (c : Char) : Option Char :=
  match quote with
  | some q => if c = q then none else quote
  | none => if c = '\'' ∨ c = '"' then some c else none

/-- Read `c`, followed by `rest`, in a document type declaration; `none` at its closing `>`. -/
def Doctype.step (d : Doctype) (c : Char) (rest : List Char) : Option Doctype :=
  match d with
  | .outer none => if c = '>' then none else if c =
      '[' then some .subset else some (.outer (quoteStep none c))
  | .outer quote => some (.outer (quoteStep quote c))
  | .subset => if c = ']' then some .trailer else if c =
      '<' then some (ofMarkup rest) else some .subset
  | .comment content =>
    if c = '>' ∧ closesComment content then some .subset
    else some (.comment (if c = '!' ∧ content = [] then [] else c :: content))
  | .instruction none => some (.instruction (some false))
  | .instruction (some mark) =>
    if c = '>' ∧ mark then some .subset else some (.instruction (some (c == '?')))
  | .quoting none => if c = '>' then some .subset else some (.quoting (quoteStep none c))
  | .quoting quote => some (.quoting (quoteStep quote c))
  | .markup => if c = '>' then some .subset else some .markup
  | .trailer => if c = '>' then none else some .trailer

/-! ### The scanner's state -/

/-- What the next character stands in. Constructs know the offset of their `<` or `&`; what was read
of them is kept latest first. -/
inductive State where
  | text (run : List Char)
  | reference (start : Nat) (name : List Char)
  /-- Right after `<`. -/
  | markup (start : Nat)
  | tag (start : Nat) (quote : Option Char) (content : List Char)
  | instruction (start : Nat) (content : List Char)
  /-- Right after `<!`. -/
  | bang (start : Nat)
  | comment (start : Nat) (content : List Char)
  | cdata (start : Nat) (content : List Char)
  | doctype (start : Nat) (inside : Doctype) (content : List Char)
deriving DecidableEq, Repr

/-- A token and the byte offset behind it. -/
abbrev Placed := Token × Nat

/-- What a character does: fail, or lead to a state and to the elements open from then on,
completing tokens. -/
inductive Outcome where
  | fail (error : Error) (stop : Nat)
  | next (state : State) (opened : List (List Char)) (tokens : List Placed)
deriving DecidableEq, Repr

/-- A run of text that ends at `stop`, if there is any. -/
def textToken (run : List Char) (stop : Nat) : List Placed :=
  if run.isEmpty then [] else [(.text run.reverse, stop)]

/-- The name in an end tag: blanks behind it do not count, unless there is nothing else. -/
def endName (content : List Char) : List Char :=
  match content.reverse.dropWhile isSpace with
  | [] => content
  | name => name.reverse

/-- The name in a start tag: everything up to the first blank. -/
def startName (content : List Char) : List Char := Text.before isSpace content

/-- Complete a tag with the given content, which began at `start` and ends before `stop`. -/
def closeTag (opened : List (List Char)) (start stop : Nat) (content : List Char) : Outcome :=
  match content with
  | '/' :: rest =>
    let name := endName rest
    match opened with
    | [] => .fail ⟨start, .unmatchedEnd (String.ofList name)⟩ stop
    | expected :: outer =>
      if name = expected then .next (.text []) outer [(.endTag name, stop)]
      else .fail ⟨start, .mismatchedEnd (String.ofList expected) (String.ofList name)⟩ stop
  | _ =>
    match content.reverse with
    | '/' :: body => .next (.text []) opened [(.emptyTag body.reverse, stop)]
    | _ => .next (.text []) (startName content :: opened) [(.startTag content, stop)]

def tagStep (opened : List (List Char)) (start : Nat) (quote : Option Char) (content : List Char)
    (c : Char) (stop : Nat) : Outcome :=
  if quote = none ∧ c = '>' then closeTag opened start stop content.reverse
  else .next (.tag start (quoteStep quote c) (c :: content)) opened []

/-- Is `content` the beginning of an XML declaration, from its first question mark on? -/
def isDeclaration (content : List Char) : Bool :=
  match Text.afterLead? "?xml".toList content with
  | some [] => true
  | some (c :: _) => isSpace c || c == '?'
  | none => false

/-- Complete a document type declaration with the given content. It must spell the keyword, in any
case, and go on with something that is not blank. -/
def closeDoctype (opened : List (List Char)) (start stop : Nat) (content : List Char) : Outcome :=
  match Text.afterLead? "doctype".toList (content.map Char.toLower) with
  | none => .fail ⟨start, .unclosed .doctype⟩ stop
  | some rest =>
    if rest.all isSpace then .fail ⟨stop - 1, .missingDoctypeName⟩ stop
    else .next (.text []) opened [(.other, stop)]

/-- Read `c`, which stands at offset `pos` and is followed by `rest`. -/
def step (opened : List (List Char)) (pos : Nat) (state : State) (c : Char) (rest : List Char) :
    Outcome :=
  let stop := pos + c.utf8Size
  match state with
  | .text run =>
    if c = '<' then .next (.markup pos) opened (textToken run pos)
    else if c = '&' then .next (.reference pos []) opened (textToken run pos)
    else .next (.text (c :: run)) opened []
  | .reference start name =>
    if c = ';' then .next (.text []) opened [(.reference name.reverse, stop)]
    else if c = '&' ∨ c = '<' then .fail ⟨start, .unclosedReference⟩ pos
    else .next (.reference start (c :: name)) opened []
  | .markup start =>
    if c = '!' then .next (.bang start) opened []
    else if c = '?' then .next (.instruction start [c]) opened []
    else tagStep opened start none [] c stop
  | .tag start quote content => tagStep opened start quote content c stop
  | .instruction start content =>
    if c = '>' then
      match content with
      | ['?'] => .fail ⟨start, .unclosed .instruction⟩ stop
      | '?' :: _ => .next (.text []) opened [(.other, stop)]
      | _ => .next (.instruction start (c :: content)) opened []
    else .next (.instruction start (c :: content)) opened []
  | .bang start =>
    if c = '[' then .next (.cdata start [c]) opened []
    else if c = '-' then .next (.comment start [c]) opened []
    else if c = 'D' ∨ c = 'd' then .next (.doctype start (.outer none) [c]) opened []
    else .fail ⟨start, .badMarkup⟩ start
  | .comment start content =>
    if c = '>' ∧ closesComment content then
      if "--".toList.isPrefixOf content.reverse then .next (.text []) opened [(.other, stop)]
      else .fail ⟨start, .unclosed .comment⟩ stop
    else .next (.comment start (c :: content)) opened []
  | .cdata start content =>
    match c, content with
    | '>', ']' :: ']' :: body =>
      match Text.afterLead? "[CDATA[".toList body.reverse with
      | some run => .next (.text []) opened [(.cdata run, stop)]
      | none => .fail ⟨start, .unclosed .cdata⟩ stop
    | _, _ => .next (.cdata start (c :: content)) opened []
  | .doctype start inside content =>
    match inside.step c rest with
    | some inside => .next (.doctype start inside (c :: content)) opened []
    | none => closeDoctype opened start stop content.reverse

/-- The text ends at offset `pos`. -/
def finish (pos : Nat) : State → List Placed × Ending
  | .text run => (textToken run pos, .done pos)
  | .reference start _ => ([], .failed ⟨⟨start, .unclosedReference⟩, pos⟩)
  | .markup start => ([], .failed ⟨⟨start, .unclosed .tag⟩, start⟩)
  | .tag start none _ => ([], .failed ⟨⟨start, .unclosed .tag⟩, pos⟩)
  | .tag start (some quote) _ => ([], .failed ⟨⟨start, .unclosed (.attributeValue quote)⟩, pos⟩)
  | .instruction start content =>
    let what := if isDeclaration content.reverse then Construct.declaration else .instruction
    ([], .failed ⟨⟨start, .unclosed what⟩, pos⟩)
  | .bang start => ([], .failed ⟨⟨start, .badMarkup⟩, start⟩)
  | .comment start _ => ([], .failed ⟨⟨start, .unclosed .comment⟩, pos⟩)
  | .cdata start _ => ([], .failed ⟨⟨start, .unclosed .cdata⟩, pos⟩)
  | .doctype start _ _ => ([], .failed ⟨⟨start, .unclosed .doctype⟩, pos⟩)

structure Tokens where
  items : List Placed
  ending : Ending
deriving DecidableEq, Repr

def scanFrom (opened : List (List Char)) (pos : Nat) (state : State) : List Char → Tokens
  | [] =>
    let (items, ending) := finish pos state
    ⟨items, ending⟩
  | c :: rest =>
    match step opened pos state c rest with
    | .fail error stop => ⟨[], .failed ⟨error, stop⟩⟩
    | .next state opened items =>
      let later := scanFrom opened (pos + c.utf8Size) state rest
      ⟨items ++ later.items, later.ending⟩

/-- The tokens of a text. A byte order mark at its start is no part of it. -/
def scan : List Char → Tokens
  | '\ufeff' :: rest => scanFrom [] 0 (.text []) rest
  | cs => scanFrom [] 0 (.text []) cs

end Soap.Xml
