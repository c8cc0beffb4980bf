import Soap.Name
import Soap.OrderedMap
import Soap.Text.Blank
import Soap.Xml.Attribute

/-!
# Events

Readers of documents see three things: an element opens, an element closes, and text stands between
two tags. `eventsOf` reduces tokens to these. A self-closing tag opens and closes; text, CDATA
sections and references join into one run, which comments do not interrupt; a run is trimmed and
dropped if nothing is left. An opening tag has its namespace declarations set apart from its
attributes.
-/

namespace Soap.Xml

inductive Event where
  /-- An element opens. The default namespace is declared under the empty prefix. -/
  | start (name : QName) (attributes declarations : OrderedMap String String)
  /-- An element closes. -/
  | stop (name : QName)
  /-- Text between two tags: trimmed and not empty. -/
  | text (content : String)
deriving DecidableEq, Repr

/-- File an attribute under the declarations or under the attributes proper. -/
def fileAttribute (attributes declarations : OrderedMap String String) (key value : List Char) :
    OrderedMap String String × OrderedMap String String :=
  let text := String.ofList value
  if key = "xmlns".toList then (attributes, declarations.insert "" text)
  else match Text.afterLead? "xmlns:".toList key with
    | some name => (attributes, declarations.insert (String.ofList name) text)
    | none => (attributes.insert (String.ofList key) text, declarations)

def fileAttributes : (raw : List (List Char × List Char)) →
    (attributes declarations : OrderedMap String String) →
    Except UnescapeError (OrderedMap String String × OrderedMap String String)
  | [], attributes, declarations => .ok (attributes, declarations)
  | (key, raw) :: rest, attributes, declarations => do
    let value ← unescape raw
    let (attributes, declarations) := fileAttribute attributes declarations key value
    fileAttributes rest attributes declarations

/-- The event of an opening tag with the given content. Of two faults the one that stands first in
the tag is reported. -/
def startEvent (content : List Char) : Except Cause (QName × Event) := do
  let name := QName.parse (String.ofList (startName content))
  let raw := rawAttributes content
  let (attributes, declarations) ← (fileAttributes raw.items [] []).mapError .value
  match raw.error with
  | some e => throw (.attribute e)
  | none => return (name, .start name attributes declarations)

/-- An event and the byte offset up to which the document had been read when it was known. -/
abbrev Occurrence := Event × Nat

/-- The text collected since the last tag, if anything is left of it; known at `pos`. -/
def flush (run : List Char) (pos : Nat) : List Occurrence :=
  match Text.trimChars run with
  | [] => []
  | trimmed => [(.text (String.ofList trimmed), pos)]

/-- A document as its events, and how reading it ended. -/
structure Reading where
  events : List Occurrence
  ending : Ending
deriving DecidableEq, Repr

/-- Events before further ones. -/
def Reading.after (events : List Occurrence) (later : Reading) : Reading :=
  ⟨events ++ later.events, later.ending⟩

def Reading.fail (pos : Nat) (cause : Cause) : Reading := ⟨[], .failed ⟨⟨pos, cause⟩, pos⟩⟩

/-- Reduce tokens to events. `run` is the text since the last tag. Text that a failure follows is
not an event: its end was not seen. -/
def eventsFrom (ending : Ending) (run : List Char) : List Placed → Reading
  | [] =>
    match ending with
    | .done pos => ⟨flush run pos, ending⟩
    | .failed _ => ⟨[], ending⟩
  | (token, pos) :: rest =>
    match token with
    | .startTag content =>
      match startEvent content with
      | .error cause => .fail pos cause
      | .ok (_, event) => .after (flush run pos ++ [(event, pos)]) (eventsFrom ending [] rest)
    | .emptyTag content =>
      match startEvent content with
      | .error cause => .fail pos cause
      | .ok (name, event) =>
        .after (flush run pos ++ [(event, pos), (.stop name, pos)]) (eventsFrom ending [] rest)
    | .endTag name =>
      .after (flush run pos ++ [(.stop (QName.parse (String.ofList name)), pos)])
        (eventsFrom ending [] rest)
    | .text more => eventsFrom ending (run ++ more) rest
    | .cdata more => eventsFrom ending (run ++ more) rest
    | .reference name =>
      match resolveReference name with
      | some c => eventsFrom ending (run ++ [c]) rest
      | none => .fail pos (.unknownReference (String.ofList name))
    | .other => eventsFrom ending run rest

def eventsOf (tokens : Tokens) : Reading := eventsFrom tokens.ending [] tokens.items

def read (text : String) : Reading := eventsOf (scan text.toList)

def Reading.error? (r : Reading) : Option Error :=
  match r.ending with
  | .done _ => none
  | .failed f => some f.error

end Soap.Xml
