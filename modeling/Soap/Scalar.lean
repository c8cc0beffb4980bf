import Soap.Name

/-!
# Leaf types

XML Schema's built-in type names end every type reference: an element of such a type is a leaf. What
the text of a leaf becomes depends on the local name of its type alone.
-/

namespace Soap

/-- The built-in types that an element is never described beyond. -/
def primitives : List String :=
  ["string", "boolean", "decimal", "float", "double", "anyType", "byte", "int", "long", "short",
    "unsignedByte", "unsignedInt", "unsignedLong", "unsignedShort", "duration", "dateTime", "time",
    "date", "gYearMonth", "gYear", "gMonthDay", "gDay", "gMonth", "hexBinary", "base64Binary",
    "anyURI", "QName", "NOTATION"]

def isPrimitive (name : String) : Bool := primitives.contains name

/-- What the text of a leaf is read as. -/
inductive ScalarKind where
  | integer
  | boolean
  | dateTime
  | text
deriving DecidableEq, Repr

def ScalarKind.ofTypeName (name : String) : ScalarKind :=
  if name = "int" ∨ name = "integer" then .integer
  else if name = "bool" ∨ name = "boolean" then .boolean
  else if name = "dateTime" then .dateTime
  else .text

/-- How a binding or operation puts a message on the wire: under a wrapper named after the
operation, or as the one schema element of the message. -/
inductive Style where
  | rpc
  | document
deriving DecidableEq, Repr

/-- Documents are the default. -/
instance : Inhabited Style := ⟨.document⟩

def Style.parse? (s : String) : Option Style :=
  if s = "rpc" then some .rpc else if s = "document" then some .document else none

def Style.render : Style → String
  | .rpc => "rpc"
  | .document => "document"

theorem Style.parse?_render (s : Style) : Style.parse? s.render = some s := by cases s <;> decide

end Soap
