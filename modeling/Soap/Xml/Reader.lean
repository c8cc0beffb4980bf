import Soap.Xml.Event

/-!
# Reading event by event

`eventsOf` reduces all tokens of a document at once. A `Reader` does so on demand: `Reader.next` gives the next
event, for which it reads no more tokens than it has to. One token may make several events, and none before a later
one is read, so between two calls a reader keeps the text since the last tag and the events that are ready. Once it
has come to the end or to a failure, there is nothing more.
-/

namespace Soap.Xml

/-- What a token comes to. -/
inductive Raw where
  /-- The event of an opening tag, and the name of the element if the tag closes it as well. -/
  | start (event : Event) (selfClosing : Option QName)
  | stop (name : QName)
  | text (content : List Char)
  | skip
deriving DecidableEq, Repr

def Raw.ofToken (token : Token) : Except Cause Raw :=
  match token with
  | .startTag content => (startEvent content).map fun opened => .start opened.2 none
  | .emptyTag content => (startEvent content).map fun opened => .start opened.2 (some opened.1)
  | .endTag name => .ok (.stop (QName.parse (String.ofList name)))
  | .text run => ((unescape run).mapError .value).map .text
  | .cdata run => .ok (.text run)
  | .reference name =>
    match resolveReference name with
    | some c => .ok (.text [c])
    | none => .error (.unknownReference (String.ofList name))
  | .other => .ok .skip

/-- What a reader keeps between two calls. -/
structure Buffer where
  /-- The text since the last tag. -/
  text : List Char := []
  /-- The events that are ready. -/
  queued : List Occurrence := []
  /-- Will nothing more be read? -/
  done : Bool := false
deriving DecidableEq, Repr

namespace Buffer

/-- The text since the last tag is ready; its end is known at `pos`. -/
def flushText (b : Buffer) (pos : Nat) : Buffer :=
  { b with text := [], queued := b.queued ++ flush b.text pos }

def push (b : Buffer) (event : Event) (pos : Nat) : Buffer :=
  { b with queued := b.queued ++ [(event, pos)] }

/-- Take in what was read up to `pos`. -/
def feed (b : Buffer) (pos : Nat) (raw : Raw) : Buffer :=
  match raw with
  | .start event selfClosing =>
    let b := (b.flushText pos).push event pos
    match selfClosing with
    | some name => b.push (.stop name) pos
    | none => b
  | .stop name => (b.flushText pos).push (.stop name) pos
  | .text content => { b with text := b.text ++ content }
  | .skip => b

end Buffer

/-- A reader of the tokens that it has not read yet. -/
structure Reader where
  items : List Placed
  ending : Ending
  buffer : Buffer := {}
deriving DecidableEq, Repr

namespace Reader

def ofTokens (tokens : Tokens) : Reader := { items := tokens.items, ending := tokens.ending }

def ofText (text : String) : Reader := ofTokens (scan text.toList)

/-- Read tokens until an event is ready. -/
def advance (ending : Ending) (b : Buffer) (items : List Placed) :
    Option (Except Failure Occurrence) × Reader :=
  match b.queued with
  | event :: queued => (some (.ok event), { items, ending, buffer := { b with queued } })
  | [] =>
    if b.done then (none, { items, ending, buffer := b })
    else match items with
      | [] =>
        match ending with
        | .failed f => (some (.error f), { items, ending, buffer := { b with done := true } })
        | .done pos =>
          match (b.flushText pos).queued with
          | event :: queued => (some (.ok event), { items, ending, buffer := { queued, done := true } })
          | [] => (none, { items, ending, buffer := { done := true } })
      | (token, pos) :: items =>
        match Raw.ofToken token with
        | .error cause =>
          (some (.error ⟨⟨pos, cause⟩, pos⟩), { items, ending, buffer := { b with queued := [], done := true } })
        | .ok raw => advance ending (b.feed pos raw) items

/-- The next event, or the failure that there is instead; nothing, once either the end or a failure was met. -/
def next (r : Reader) : Option (Except Failure Occurrence) × Reader := advance r.ending r.buffer r.items

/-- What the call gives that comes after `n` others. -/
def call (r : Reader) : (n : Nat) → Option (Except Failure Occurrence)
  | 0 => r.next.1
  | n + 1 => r.next.2.call n

end Reader

end Soap.Xml
