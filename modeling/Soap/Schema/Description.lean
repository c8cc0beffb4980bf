import Soap.Schema.Registry

/-!
# Descriptions

A description mirrors the shape of an element: a leaf carries its type reference, a field map one
entry per child element. A repeatable child stands under its name followed by `[]`.

Types may refer to each other in circles. A reference to a complex type that is already being
described on the path from the root is cut to a leaf; the path is an argument, so what is beside it
does not matter.
-/

namespace Soap

/-- The shape of an element, a message or a type. -/
inductive Description where
  /-- A leaf, with its type reference: `xsd:int`, or `xsd:string|A,B` when values are listed. -/
  | leaf (type : String)
  | fields (entries : List (String × Description))
  /-- Nothing is known. -/
  | absent
deriving Repr, Inhabited

namespace Description

def empty : Description := .fields []

def fields? : Description → Option (OrderedMap String Description)
  | .fields entries => some entries
  | _ => none

def leafType? : Description → Option String
  | .leaf type => some type
  | _ => none

def isLeaf : Description → Bool
  | .leaf _ => true
  | _ => false

/-- The key of a repeatable child. -/
def repeatedKey (name : String) : String := name ++ "[]"

def isRepeated (d : Description) (name : String) : Bool :=
  d.fields?.any fun entries => entries.contains (repeatedKey name)

/-- The description of the child `name`, repeatable or not. -/
def child? (d : Description) (name : String) : Option Description :=
  d.fields?.bind fun entries => entries.get? (repeatedKey name) <|> entries.get? name

/-- What the text of a leaf is read as. Listed values are read as the type they restrict. -/
def scalarKind? (d : Description) : Option ScalarKind :=
  d.leafType?.map fun type =>
    .ofTypeName (localPart (String.ofList (Text.before (· == '|') type.toList)))

/-- The description of a simple type: the type it restricts and the values it lists. -/
def ofSimple (st : SimpleType) : Description :=
  match st.restriction with
  | some r =>
    let values := ",".intercalate r.values
    .leaf (match r.base with
      | some base => base ++ "|" ++ values
      | none => values)
  | none => empty

end Description

/-- The key of an element in the description of its parent. -/
def ElementDecl.key (decl : ElementDecl) : String :=
  if decl.occurs.isRepeated then Description.repeatedKey decl.name else decl.name

namespace SchemaRegistry

mutual

/-- Describe a declaration, inside the complex types of `active`. -/
def describeDecl (reg : SchemaRegistry) (active : List TypeId) : ElementDecl → Description
  | ⟨_, _, some ref, _, owner⟩ => describeRef reg active owner ref
  | ⟨_, _, none, some ⟨_, content⟩, _⟩ =>
    .fields (OrderedMap.ofList (describeContent reg active content))
  | ⟨_, _, none, none, _⟩ => .empty
termination_by decl => (unvisited reg.typeIds active, decl.weight, 0)
decreasing_by
  · exact Prod.Lex.right _ (Prod.Lex.left _ _ (by simp only [ElementDecl.weight]; omega))
  · exact Prod.Lex.right _ (Prod.Lex.left _ _ (by simp only [ElementDecl.weight, inlineWeight]; omega))

/-- Describe the declarations of a content model, each under its key. -/
def describeContent (reg : SchemaRegistry) (active : List TypeId) :
    List ElementDecl → List (String × Description)
  | [] => []
  | decl :: rest => (decl.key, describeDecl reg active decl) :: describeContent reg active rest
termination_by decls => (unvisited reg.typeIds active, totalWeight decls, 1)
decreasing_by
  · refine Prod.Lex.right _ ?_
    simp only [totalWeight]
    rcases Nat.eq_or_lt_of_le (Nat.le_add_right decl.weight (totalWeight rest)) with h | h
    · rw [← h]; exact Prod.Lex.right _ Nat.zero_lt_one
    · exact Prod.Lex.left _ _ h
  · exact Prod.Lex.right _ (Prod.Lex.left _ _ (totalWeight_lt_cons _ _))

def describeRef (reg : SchemaRegistry) (active : List TypeId) (owner : Option String)
    (ref : String) : Description :=
  if isPrimitive (localPart ref) then .leaf ref
  else match _h : reg.lookupType? owner ref with
    | some (.complex ct, ns) =>
      if _hv : (ns, localPart ref) ∈ active then .leaf ref
      else .fields (OrderedMap.ofList
        (describeContent reg ((ns, localPart ref) :: active) ct.content))
    | some (.simple st, _) => .ofSimple st
    | none => .leaf ref
termination_by (unvisited reg.typeIds active, 0, 0)
decreasing_by
  exact Prod.Lex.left _ _ (unvisited_cons_lt (mem_typeIds _h) _hv)

end

def describeElement (reg : SchemaRegistry) (decl : ElementDecl) : String × Description :=
  (decl.key, reg.describeDecl [] decl)

def describeComplex (reg : SchemaRegistry) (ct : ComplexType) : Description :=
  .fields (OrderedMap.ofList (reg.describeContent [] ct.content))

/-- Describe a type reference. What does not resolve is a leaf. -/
def describeType (reg : SchemaRegistry) (owner : Option String) (ref : String) : Description :=
  reg.describeRef [] owner ref

end SchemaRegistry

end Soap
