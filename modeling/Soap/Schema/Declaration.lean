import Soap.Document.Tree
import Soap.Scalar

/-!
# Schema declarations

What a `schema` element declares: elements, complex types with their content models, simple types
and inclusions of further documents. A content model is flat: the elements of nested groups stand in
it in document order. Every element declaration knows its *owner*, the target namespace of the
document that declares it, because that is where its type reference is looked up.
-/

namespace Soap

/-- The `minOccurs` and `maxOccurs` of an element, as they are written. -/
structure Occurs where
  min : Option String
  max : Option String
deriving DecidableEq, Repr

/-- An element may repeat when its bounds differ. They are compared as text, and an absent bound is
a value of its own: a lone `minOccurs` makes an element repeatable. -/
def Occurs.isRepeated (o : Occurs) : Bool := o.min != o.max

/-- A complex type whose content model consists of `δ`. -/
structure ContentModel (δ : Type) where
  /-- The type's name; an inline type need not have one. -/
  name : Option String
  content : List δ
deriving DecidableEq, Repr

structure ElementDecl where
  name : String
  occurs : Occurs
  /-- The type reference, as it is written. -/
  typeRef : Option String
  /-- The complex type declared in place. -/
  inline : Option (ContentModel ElementDecl)
  owner : Option String
deriving Repr

abbrev ComplexType := ContentModel ElementDecl

def ContentModel.field? (ct : ComplexType) (name : String) : Option ElementDecl :=
  ct.content.find? (·.name == name)

/-! ### Reading declarations off nodes -/

mutual

/-- The declaration that an `element` node makes; without a name it makes none. -/
def ElementDecl.ofNode? (owner : Option String) : Node → Option ElementDecl
  | ⟨_, _, attributes, _, _, _, children⟩ =>
    (attributes.get? "name").map fun name =>
      { name
        occurs := ⟨attributes.get? "minOccurs", attributes.get? "maxOccurs"⟩
        typeRef := attributes.get? "type"
        inline := inlineTypeOf owner children
        owner }

def inlineTypeOf (owner : Option String) : List Node → Option ComplexType
  | [] => none
  | node :: rest =>
    if node.kind = .complexType then some (complexTypeOf owner node) else inlineTypeOf owner rest

def complexTypeOf (owner : Option String) : Node → ComplexType
  | ⟨_, _, attributes, _, _, _, children⟩ =>
    { name := attributes.get? "name", content := groupsOf owner children }

/-- The elements of the groups among the children of a complex type. -/
def groupsOf (owner : Option String) : List Node → List ElementDecl
  | [] => []
  | ⟨kind, _, _, _, _, _, children⟩ :: rest =>
    (if kind.isGroup then membersOf owner children else []) ++ groupsOf owner rest

/-- The elements among the children of a group, nested groups included. -/
def membersOf (owner : Option String) : List Node → List ElementDecl
  | [] => []
  | ⟨kind, name, attributes, declared, scope, text, children⟩ :: rest =>
    (if kind = .element then
        (ElementDecl.ofNode? owner ⟨kind, name, attributes, declared, scope, text, children⟩).toList
      else if kind.isGroup then membersOf owner children
      else []) ++ membersOf owner rest

end

/-! ### Changing the owner -/

mutual

/-- The same declaration, owned by `ns` at every depth. -/
def ElementDecl.ownedBy (ns : String) : ElementDecl → ElementDecl
  | ⟨name, occurs, typeRef, inline, _⟩ => ⟨name, occurs, typeRef, inlineOwnedBy ns inline, some ns⟩

def inlineOwnedBy (ns : String) :
    Option (ContentModel ElementDecl) → Option (ContentModel ElementDecl)
  | none => none
  | some ⟨name, content⟩ => some ⟨name, allOwnedBy ns content⟩

def allOwnedBy (ns : String) : List ElementDecl → List ElementDecl
  | [] => []
  | decl :: rest => decl.ownedBy ns :: allOwnedBy ns rest

end

/-! ### Counting declarations -/

mutual

/-- How many declarations a declaration holds, itself included. -/
def ElementDecl.weight : ElementDecl → Nat
  | ⟨_, _, _, inline, _⟩ => 1 + inlineWeight inline

/-- How many declarations an inline type holds. -/
def inlineWeight : Option (ContentModel ElementDecl) → Nat
  | none => 0
  | some ⟨_, content⟩ => totalWeight content

def totalWeight : List ElementDecl → Nat
  | [] => 0
  | decl :: rest => decl.weight + totalWeight rest

end

theorem totalWeight_append (a b : List ElementDecl) :
    totalWeight (a ++ b) = totalWeight a + totalWeight b := by
  induction a with
  | nil => simp [totalWeight]
  | cons decl rest ih => simp [totalWeight, ih, Nat.add_assoc]

theorem totalWeight_lt_cons (decl : ElementDecl) (rest : List ElementDecl) :
    totalWeight rest < totalWeight (decl :: rest) := by
  cases decl
  simp only [totalWeight, ElementDecl.weight]
  omega

/-! ### Simple types and inclusions -/

/-- The restriction of a simple type: the type it restricts, as it is written, and the values it
lists. -/
structure Restriction where
  base : Option String
  values : List String
deriving DecidableEq, Repr

structure SimpleType where
  name : String
  restriction : Option Restriction
deriving DecidableEq, Repr

def SimpleType.ofNode (node : Node) (name : String) : SimpleType :=
  { name
    restriction := (node.child? .restriction).map fun r =>
      { base := r.attr? "base"
        values := (r.childrenOf .enumeration).filterMap (·.attr? "value") } }

/-- A document to be included: the namespace it contributes to and its location, as it is
written. -/
structure Inclusion where
  space : Option String
  location : String
deriving DecidableEq, Repr

inductive TypeDef where
  | complex (ct : ComplexType)
  | simple (st : SimpleType)

/-! ### Schema documents -/

structure SchemaDocument where
  targetNamespace : Option String := none
  /-- The namespace bindings in scope at the `schema` element. -/
  namespaces : OrderedMap String String := []
  complexTypes : OrderedMap String ComplexType := []
  simpleTypes : OrderedMap String SimpleType := []
  elements : OrderedMap String ElementDecl := []
  inclusions : List Inclusion := []
deriving Repr

namespace SchemaDocument

/-- The inclusion that an `include` or `import` node asks for; without a location there is none. -/
def inclusionOf (target : Option String) (node : Node) : Option Inclusion :=
  (node.attr? "schemaLocation" <|> node.attr? "location").map fun location =>
    { space := node.attr? "namespace" <|> node.attr? "targetNamespace" <|> target, location }

/-- Add what a child of the `schema` element declares. A child named like a built-in type is passed
over, whatever it is. -/
def addChild (doc : SchemaDocument) (child : Node) : SchemaDocument :=
  let name := child.attr? "name"
  if name.any isPrimitive then doc
  else match child.kind, name with
    | .schemaInclude, _ | .schemaImport, _ =>
      { doc with inclusions := doc.inclusions ++ (inclusionOf doc.targetNamespace child).toList }
    | .complexType, some name =>
      { doc with
        complexTypes := doc.complexTypes.insert name (complexTypeOf doc.targetNamespace child) }
    | .element, some name =>
      match ElementDecl.ofNode? doc.targetNamespace child with
      | some decl => { doc with elements := doc.elements.insert name decl }
      | none => doc
    | .simpleType, some name =>
      { doc with simpleTypes := doc.simpleTypes.insert name (SimpleType.ofNode child name) }
    | _, _ => doc

def ofNode (node : Node) : SchemaDocument :=
  node.children.foldl addChild
    { targetNamespace := node.attr? "targetNamespace", namespaces := node.scope }

/-- The type of this name; a complex type hides a simple one. -/
def type? (doc : SchemaDocument) (name : String) : Option TypeDef :=
  match doc.complexTypes.get? name with
  | some ct => some (.complex ct)
  | none => (doc.simpleTypes.get? name).map .simple

/-- The key under which a document is registered by itself. -/
def key (doc : SchemaDocument) : String := doc.targetNamespace.getD ""

/-- Move a document without a namespace into `ns`. -/
def adopt (doc : SchemaDocument) (ns : String) : SchemaDocument :=
  { doc with
    targetNamespace := some ns
    elements := doc.elements.mapValues (ElementDecl.ownedBy ns)
    complexTypes := doc.complexTypes.mapValues fun ct =>
      { ct with content := allOwnedBy ns ct.content } }

/-- Add the declarations of `other`, which win over those of the same name. A prefix that is bound
here keeps its URI. -/
def extend (doc other : SchemaDocument) : SchemaDocument :=
  { doc with
    namespaces := other.namespaces.foldl (fun m e => m.insertNew e.1 e.2) doc.namespaces
    complexTypes := doc.complexTypes.extend other.complexTypes
    simpleTypes := doc.simpleTypes.extend other.simpleTypes
    elements := doc.elements.extend other.elements
    inclusions := doc.inclusions ++ other.inclusions }

end SchemaDocument

end Soap
