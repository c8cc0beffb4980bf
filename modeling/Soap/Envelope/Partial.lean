import Soap.Unvisited
import Soap.Value.Coerce

/-!
# Values under construction

While an envelope is read, an element that only refers to another stands for it; elements with an
`id` are recorded as they close. When everything is read, each reference is replaced by what it
refers to, so it does not matter which of the two comes first.

`Partial.resolve` always ends: it enters a target only if it is not inside that target already. A
reference back into a target that is being unfolded, and one to an unknown `id`, become `null`.
-/

namespace Soap

/-- A value under construction. -/
inductive Partial where
  /-- No text and no children so far. -/
  | empty
  | scalar (v : Value)
  | object (fields : List (String × Partial))
  | list (items : List Partial)
  /-- A reference to the element with this `id`. -/
  | ref (id : String)
deriving Inhabited

namespace Partial

/-- Add a run of text. Inside an element with children it is dropped. -/
def addText (kind : ScalarKind) (text : String) : Partial → Partial
  | .empty => .scalar (.coerce kind text)
  | .scalar v => .scalar (.appendText kind v text)
  | node => node

/-- Close an element: without text and children, a leaf is the empty string and anything else the
object without fields. -/
def close (isLeaf : Bool) : Partial → Partial
  | .empty => if isLeaf then .scalar (.string "") else .object []
  | node => node

/-- The fields of an object under construction; anything else has none. -/
def fields : Partial → OrderedMap String Partial
  | .object fields => fields
  | _ => []

/-- Add a child to what is known under its name. A repeatable child is in a list from the start, any
other from its second occurrence. -/
def addTo (child : Partial) (repeatable : Bool) : Option Partial → Partial
  | some (.list items) => .list (items ++ [child])
  | some first => .list [first, child]
  | none => if repeatable then .list [child] else child

/-- Add a child element; text that stood before it is dropped. -/
def addChild (node : Partial) (name : String) (child : Partial) (repeatable : Bool) : Partial :=
  .object (node.fields.insert name (child.addTo repeatable (node.fields.get? name)))

/-! ### Unfolding references -/

mutual

def weight : Partial → Nat
  | .empty | .scalar _ | .ref _ => 0
  | .object fields => 1 + fieldsWeight fields
  | .list items => 1 + itemsWeight items

def fieldsWeight : List (String × Partial) → Nat
  | [] => 0
  | (_, node) :: rest => 1 + node.weight + fieldsWeight rest

def itemsWeight : List Partial → Nat
  | [] => 0
  | node :: rest => 1 + node.weight + itemsWeight rest

end

mutual

/-- The value, with references replaced by the targets they refer to; `active` are the targets that
it stands inside of. -/
def resolve (targets : OrderedMap String Partial) (active : List String) : Partial → Value
  | .empty => .null
  | .scalar v => v
  | .object fields => .object (resolveFields targets active fields)
  | .list items => .list (resolveItems targets active items)
  | .ref id =>
    match _h : targets.get? id with
    | none => .null
    | some target => if _hv : id ∈ active then .null else resolve targets (id :: active) target
termination_by node => (unvisited targets.keys active, node.weight)
decreasing_by
  · exact Prod.Lex.right _ (by simp only [weight]; omega)
  · exact Prod.Lex.right _ (by simp only [weight]; omega)
  · exact Prod.Lex.left _ _
      (unvisited_cons_lt (OrderedMap.get?_isSome_iff.1 (by simp [_h])) _hv)

def resolveFields (targets : OrderedMap String Partial) (active : List String) :
    List (String × Partial) → List (String × Value)
  | [] => []
  | (key, node) :: rest => (key, resolve targets active node) :: resolveFields targets active rest
termination_by fields => (unvisited targets.keys active, fieldsWeight fields)
decreasing_by
  · exact Prod.Lex.right _ (by simp only [fieldsWeight]; omega)
  · exact Prod.Lex.right _ (by simp only [fieldsWeight]; omega)

def resolveItems (targets : OrderedMap String Partial) (active : List String) :
    List Partial → List Value
  | [] => []
  | node :: rest => resolve targets active node :: resolveItems targets active rest
termination_by items => (unvisited targets.keys active, itemsWeight items)
decreasing_by
  · exact Prod.Lex.right _ (by simp only [itemsWeight]; omega)
  · exact Prod.Lex.right _ (by simp only [itemsWeight]; omega)

end

end Partial

end Soap
