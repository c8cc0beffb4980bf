import Soap.Definitions
import Soap.Envelope
import Soap.Envelope.Partial

/-!
# Reading envelopes

An envelope is read by following the events of its text with the open elements on a stack, innermost
first. Each open element knows its description, which decides how its text is read, which of its
children are repeatable and what it is when it has neither text nor children. The description starts
from `Envelope.overlay`; the first element of a body that is no fault takes the description of the
message it carries. The parts of a call are described, but their text stays text.

An element with an `id` is recorded as it closes; one with an `href` stands for the element of that
`id`.
-/

namespace Soap

inductive DecodeError where
  | parse (e : ParseError)
  | missingEnvelope
  | fault (f : Fault)
deriving Inhabited

def DecodeError.message : DecodeError → String
  | .parse e => "envelope parse error: " ++ e.message
  | .missingEnvelope => "document has no Envelope element"
  | .fault f => f.render

def DecodeError.isFault : DecodeError → Bool
  | .fault _ => true
  | _ => false

/-- How a message is read: its shape, and whether its leaves are read by their types. -/
structure MessageSchema where
  description : Description
  typed : Bool
deriving Repr

def messageSchema (definitions : Option Definitions) (element : String) : MessageSchema :=
  match definitions.bind fun d => (d.findMessage? element).map fun m => (d, m) with
  | none => { description := .absent, typed := true }
  | some (d, m) =>
    { description := d.describeMessage m
      typed := match m.body with
        | .parts _ => false
        | .element _ | .unresolved _ => true }

namespace Decoder

structure Frame where
  name : String
  node : Partial
  schema : Option Description
  typed : Bool
  id : Option String
  href : Option String
deriving Inhabited

/-- An envelope read in part: the open elements, innermost first, around which stands what holds the
root; whether a message was met; and the elements with an `id`. -/
structure Progress where
  opened : List Frame
  metMessage : Bool
  targets : OrderedMap String Partial

/-- What holds the root. -/
def outermost : Frame :=
  { name := "", node := .empty, schema := some Envelope.overlay, typed := true, id := none,
    href := none }

/-- Before the first event. -/
def start : Progress := { opened := [outermost], metMessage := false, targets := [] }

def localAttribute? (attributes : OrderedMap String String) (name : String) : Option String :=
  (attributes.find? fun (key, _) => localPart key == name).map Prod.snd

/-- What the text of an element is read as. -/
def Frame.scalarKind (f : Frame) : ScalarKind :=
  if f.typed then (f.schema.bind Description.scalarKind?).getD .text else .text

/-- Does the element `name` inside `parent` carry the message? -/
def carriesMessage (p : Progress) (parent : Frame) (name : String) : Bool :=
  parent.name == "Body" && name != "Fault" && !p.metMessage

def openElement (definitions : Option Definitions) (p : Progress) (name : String)
    (attributes : OrderedMap String String) : Progress :=
  match p.opened with
  | [] => p
  | parent :: _ =>
    let (schema, typed) :=
      if carriesMessage p parent name then
        let found := messageSchema definitions name
        (some found.description, found.typed)
      else (parent.schema.bind (·.child? name), parent.typed)
    let frame : Frame :=
      { name, node := .empty, schema, typed
        id := localAttribute? attributes "id"
        href := localAttribute? attributes "href" }
    { p with
      opened := frame :: p.opened
      metMessage := p.metMessage || carriesMessage p parent name }

/-- Text stands in the innermost element. -/
def addText (p : Progress) (text : String) : Progress :=
  match p.opened with
  | [] => p
  | top :: outer => { p with opened := { top with node := top.node.addText top.scalarKind text } :: outer }

/-- What an element is to its parent: itself, or what its `href` refers to. -/
def Frame.standIn (f : Frame) (node : Partial) : Partial :=
  match f.href with
  | some href => .ref (String.ofList (href.toList.dropWhile (· == '#')))
  | none => node

def closeElement (p : Progress) : Progress :=
  match p.opened with
  | frame :: parent :: outer =>
    let node := frame.node.close (frame.schema.any Description.isLeaf)
    let targets :=
      match frame.id with
      | some id => p.targets.insert id node
      | none => p.targets
    let repeatable := parent.schema.any (·.isRepeated frame.name)
    { p with
      opened :=
        { parent with node := parent.node.addChild frame.name (frame.standIn node) repeatable } :: outer
      targets }
  | _ => p

def step (definitions : Option Definitions) (p : Progress) : Xml.Event → Progress
  | .start name attributes _ => openElement definitions p name.localName attributes
  | .text content => addText p content
  | .stop _ => closeElement p

def faultOf? (body : Value) : Option Fault :=
  (body.get? "Fault").map fun fault =>
    let text (key : String) : String := ((fault.get? key).bind Value.scalarText?).getD ""
    { code := text "faultcode", message := text "faultstring", detail := fault.get? "detail" }

def finish (p : Progress) : Except DecodeError Envelope :=
  match p.opened.reverse with
  | _ :: outer :: _ => .error (.parse (.unexpectedEnd outer.name))
  | [] => .error .missingEnvelope
  | [holder] =>
    match holder.node.fields.get? "Envelope" with
    | none => .error .missingEnvelope
    | some node =>
      let envelope := node.resolve p.targets []
      let body := (envelope.get? "Body").getD .emptyObject
      match faultOf? body with
      | some f => .error (.fault f)
      | none => .ok { header := envelope.get? "Header", body }

def ofReading (definitions : Option Definitions) (r : Xml.Reading) : Except DecodeError Envelope :=
  match r.error? with
  | some e => .error (.parse (.xml e))
  | none => finish (r.events.foldl (fun p e => step definitions p e.1) start)

end Decoder

/-- Read an envelope; with definitions, messages are read by their types. -/
def Envelope.decode (definitions : Option Definitions) (text : String) :
    Except DecodeError Envelope :=
  Decoder.ofReading definitions (Xml.read text)

end Soap
