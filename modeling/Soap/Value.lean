import Soap.Binary64
import Soap.OrderedMap
import Soap.Timestamp

/-!
# Values

The tree exchanged with handlers and callers. Objects keep the order of their fields, because the
encoder emits them in that order. `Value.equal` is equality of meaning: floats compare as numbers,
timestamps as instants, objects without regard to order.
-/

namespace Soap

/-- A decoded value, or one to be encoded. -/
inductive Value where
  /-- Nothing; it is never rendered. -/
  | null
  | string (text : String)
  | int (n : Int64)
  | float (x : Binary64)
  | bool (b : Bool)
  | dateTime (t : Timestamp)
  /-- A repeated element. -/
  | list (items : List Value)
  /-- An element with children. -/
  | object (fields : List (String × Value))
deriving Inhabited

namespace Value

/-- The object with these fields; a repeated key keeps its first place and takes the last value. -/
def ofFields (fields : List (String × Value)) : Value := .object (OrderedMap.ofList fields)

def emptyObject : Value := .object []

def fields? : Value → Option (OrderedMap String Value)
  | .object fields => some fields
  | _ => none

def items? : Value → Option (List Value)
  | .list items => some items
  | _ => none

def string? : Value → Option String
  | .string s => some s
  | _ => none

def int? : Value → Option Int64
  | .int n => some n
  | _ => none

def bool? : Value → Option Bool
  | .bool b => some b
  | _ => none

def isNull : Value → Bool
  | .null => true
  | _ => false

def get? (v : Value) (key : String) : Option Value :=
  match v with
  | .object fields => OrderedMap.get? fields key
  | _ => none

/-! ### Text -/

/-- The text of a scalar; `null`, lists and objects have none. -/
def scalarText? : Value → Option String
  | .string s => some s
  | .int n => some (toString n.toInt)
  | .float x => some x.text
  | .bool b => some (if b then "true" else "false")
  | .dateTime t => some t.render
  | .null | .list _ | .object _ => none

mutual

/-- A value on one line: scalars by their text, lists in brackets, objects in braces. -/
def display : Value → String
  | .null => "null"
  | .string s => s
  | .int n => toString n.toInt
  | .float x => x.text
  | .bool b => if b then "true" else "false"
  | .dateTime t => t.render
  | .list items => "[" ++ ", ".intercalate (displayItems items) ++ "]"
  | .object fields => "\x7b" ++ ", ".intercalate (displayFields fields) ++ "\x7d"

def displayItems : List Value → List String
  | [] => []
  | v :: rest => display v :: displayItems rest

def displayFields : List (String × Value) → List String
  | [] => []
  | (k, v) :: rest => (k ++ ": " ++ display v) :: displayFields rest

end

/-! ### Equality of meaning -/

mutual

/-- Do two values mean the same? Objects do when they have as many fields and every field of the one
means the same as the other's field of that name. -/
def equal : Value → Value → Bool
  | .null, .null => true
  | .string a, .string b => a == b
  | .int a, .int b => a == b
  | .float a, .float b => a.equal b
  | .bool a, .bool b => a == b
  | .dateTime a, .dateTime b => a.instant == b.instant
  | .list as, .list bs => equalItems as bs
  | .object as, .object bs => as.length == bs.length && equalFields as bs
  | _, _ => false

def equalItems : List Value → List Value → Bool
  | [], [] => true
  | a :: as, b :: bs => equal a b && equalItems as bs
  | _, _ => false

def equalFields : List (String × Value) → List (String × Value) → Bool
  | [], _ => true
  | (k, a) :: rest, others =>
    (match OrderedMap.get? others k with
      | some b => equal a b
      | none => false) && equalFields rest others

end

end Value

end Soap
