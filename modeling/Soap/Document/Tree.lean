import Soap.Document.Kind
import Soap.Xml.Event

/-!
# Document trees

A description or schema document is read into a tree whose nodes carry their kinds and the namespace
bindings in scope. `Document.parse` follows the events of the document with the open elements on a
stack, innermost first. In strict mode an element its parent does not allow is an error; otherwise
it becomes a generic node.
-/

namespace Soap

inductive ParseError where
  | xml (e : Xml.Error)
  /-- An element that its parent does not allow. -/
  | grammarViolation (tag parent : String)
  | unexpectedRoot (tag : String)
  /-- The document ended inside this element. -/
  | unexpectedEnd (tag : String)
  | noRoot
  | missingAttribute (element attr : String)
deriving DecidableEq, Repr

def ParseError.message : ParseError → String
  | .xml e => e.message
  | .grammarViolation tag parent => "found unexpected element (" ++ tag ++ ") inside " ++ parent
  | .unexpectedRoot tag => "unexpected root element '" ++ tag ++ "' of description or include"
  | .unexpectedEnd tag => "unexpected end of document inside '" ++ tag ++ "'"
  | .noRoot => "document has no root element"
  | .missingAttribute element attr =>
    "missing required attribute '" ++ attr ++ "' on element '" ++ element ++ "'"

/-- An element of a document. -/
structure Node where
  kind : Kind
  name : QName
  /-- Attributes other than namespace declarations. -/
  attributes : OrderedMap String String
  /-- The namespaces declared on this element. -/
  declared : OrderedMap String String
  /-- The namespace bindings in scope. -/
  scope : OrderedMap String String
  /-- The runs of text directly inside, joined. -/
  text : String
  children : List Node

namespace Node

def attr? (n : Node) (name : String) : Option String := n.attributes.get? name

def childrenOf (n : Node) (kind : Kind) : List Node := n.children.filter (·.kind == kind)

def child? (n : Node) (kind : Kind) : Option Node := n.children.find? (·.kind == kind)

def resolvePrefix? (n : Node) (name : String) : Option String := n.scope.get? name

/-- The text of the first documentation child, unless it is empty. -/
def documentation? (n : Node) : Option String :=
  (n.child? .documentation).bind fun d => if d.text = "" then none else some d.text

end Node

/-- A document: its root, and every namespace that is declared anywhere in it. The root's
declarations come first, the others in the order in which their elements close; of two for one
prefix the later counts. -/
structure Document where
  root : Node
  namespaces : OrderedMap String String

namespace Document

/-- A document read in part: the open elements, innermost first, the root once it is closed, and the
declarations so far. -/
structure Progress where
  opened : List Node := []
  root : Option Node := none
  namespaces : OrderedMap String String := []

/-- The kind that an element named `name` has inside the open elements. -/
def kindFor (strict : Bool) (p : Progress) (name : QName) : Except ParseError Kind :=
  match p.opened with
  | [] =>
    match p.root, Kind.root? name.localName with
    | none, some kind => .ok kind
    | _, _ => .error (.unexpectedRoot name.render)
  | parent :: _ =>
    match parent.kind.child? name.localName with
    | some kind => .ok kind
    | none =>
      if strict then .error (.grammarViolation name.render parent.name.render) else .ok .generic

/-- The bindings in scope in an element: those of its parent, and its own. -/
def scopeFor (p : Progress) (declared : OrderedMap String String) : OrderedMap String String :=
  match p.opened with
  | [] => OrderedMap.extend [] declared
  | parent :: _ => parent.scope.extend declared

def step (strict : Bool) (p : Progress) : Xml.Event → Except ParseError Progress
  | .start name attributes declared => do
    let kind ← kindFor strict p name
    let node : Node :=
      { kind, name, attributes, declared, scope := scopeFor p declared, text := "", children := [] }
    let namespaces := if p.opened.isEmpty then p.namespaces.extend declared else p.namespaces
    return { p with opened := node :: p.opened, namespaces }
  | .stop _ =>
    match p.opened with
    | [] => return p
    | [node] => return { p with opened := [], root := some node }
    | node :: parent :: outer =>
      return { p with
        opened := { parent with children := parent.children ++ [node] } :: outer
        namespaces := p.namespaces.extend node.declared }
  | .text content =>
    match p.opened with
    | [] => return p
    | node :: outer => return { p with opened := { node with text := node.text ++ content } :: outer }

def follow (strict : Bool) (p : Progress) : List Xml.Occurrence → Except ParseError Progress
  | [] => .ok p
  | (event, _) :: rest => do follow strict (← step strict p event) rest

/-- The document at the end of its events. -/
def finish (p : Progress) : Except ParseError Document :=
  match p.opened with
  | node :: _ => .error (.unexpectedEnd node.name.render)
  | [] =>
    match p.root with
    | some root => .ok { root, namespaces := p.namespaces }
    | none => .error .noRoot

/-- Build the document of a reading. Of the faults of the tree and those of the text, the one that
is met first is reported. -/
def ofReading (strict : Bool) (r : Xml.Reading) : Except ParseError Document := do
  let p ← follow strict {} r.events
  match r.error? with
  | some e => throw (.xml e)
  | none => finish p

def parse (text : String) (strict : Bool) : Except ParseError Document :=
  ofReading strict (Xml.read text)

end Document

end Soap
