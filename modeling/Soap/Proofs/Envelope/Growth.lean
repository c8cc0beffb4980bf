import Soap.Proofs.OrderedMap
import Soap.Proofs.Value.Complete

/-!
# How a node grows

A node grows by its children, in document order. A child under a new key is put at the end
(`Partial.put`); further ones of that key join it in a list. So the items of a list field come to be
one field (`Partial.addItems`), and fields that are put one after the other are those of the object
(`Partial.close_putAll`).
-/

namespace Soap.Partial

/-- Put a child under a key that is new. -/
def put (node : Partial) (key : String) (child : Partial) : Partial :=
  .object (node.fields ++ [(key, child)])

/-- Put fields under keys that are new, in order. -/
def putAll (node : Partial) (fields : List (String × Value)) : Partial :=
  fields.foldl (fun node field => node.put field.1 (.ofValue field.2)) node

/-- Add items under a key, in order. -/
def addItems (node : Partial) (key : String) (repeatable : Bool) (items : List Value) : Partial :=
  items.foldl (fun node item => node.addChild key (.ofValue item) repeatable) node

@[simp] theorem fields_put (node : Partial) (key : String) (child : Partial) :
    (node.put key child).fields = node.fields ++ [(key, child)] := rfl

/-- The first child of a key is put at the end. -/
theorem addChild_of_not_mem {node : Partial} {key : String} (h : key ∉ node.fields.keys)
    (child : Partial) (repeatable : Bool) :
    node.addChild key child repeatable = node.put key (child.addTo repeatable none) := by
  rw [addChild, OrderedMap.get?_eq_none_iff.mpr h, OrderedMap.insert_of_not_mem h, put]

/-- A further child joins what is under its key. -/
theorem addChild_put {node : Partial} {key : String} (h : key ∉ node.fields.keys)
    (first child : Partial) (repeatable : Bool) :
    (node.put key first).addChild key child repeatable =
      node.put key (child.addTo repeatable (some first)) := by
  rw [addChild, fields_put, OrderedMap.get?_append_self h, OrderedMap.insert_append_self h, put]

/-- Items join a list. -/
theorem addItems_put_list {node : Partial} {key : String} (h : key ∉ node.fields.keys)
    (repeatable : Bool) (items : List Value) (before : List Partial) :
    (node.put key (.list before)).addItems key repeatable items =
      node.put key (.list (before ++ ofItems items)) := by
  induction items generalizing before with
  | nil => rw [ofItems, List.append_nil]; rfl
  | cons item rest ih =>
    rw [addItems, List.foldl_cons, addChild_put h, addTo]
    show (node.put key (.list (before ++ [ofValue item]))).addItems key repeatable rest = _
    rw [ih, ofItems, List.append_assoc]
    rfl

/-- The items of a list come to be one field, if a list can be told from its items. -/
theorem addItems_eq_put {node : Partial} {key : String} (h : key ∉ node.fields.keys)
    {repeatable : Bool} {items : List Value}
    (hitems : if repeatable then items ≠ [] else 2 ≤ items.length)
    (hflat : ∀ item ∈ items, ∀ inner, ofValue item ≠ .list inner) :
    node.addItems key repeatable items = node.put key (.ofValue (.list items)) := by
  cases items with
  | nil => split at hitems <;> simp at hitems
  | cons first rest =>
    have hfirst : node.addItems key repeatable (first :: rest) =
        (node.put key ((ofValue first).addTo repeatable none)).addItems key repeatable rest := by
      rw [addItems, List.foldl_cons, addChild_of_not_mem h]
      rfl
    cases repeatable with
    | true => exact hfirst.trans (addItems_put_list h true rest [ofValue first])
    | false =>
      cases rest with
      | nil => simp at hitems
      | cons second rest =>
        -- The first item stands alone under its key, until the second makes a list of the two.
        have hpair : (ofValue second).addTo false (some (ofValue first)) =
            .list [ofValue first, ofValue second] := by
          have hne := hflat first (by simp)
          cases hv : ofValue first with
          | list inner => exact absurd hv (hne inner)
          | _ => rfl
        calc node.addItems key false (first :: second :: rest)
          _ = ((node.put key (ofValue first)).addChild key (ofValue second) false).addItems key false rest :=
              hfirst
          _ = (node.put key (.list [ofValue first, ofValue second])).addItems key false rest := by
              rw [addChild_put h, hpair]
          _ = node.put key (.ofValue (.list (first :: second :: rest))) :=
              addItems_put_list h false rest _

/-- Fields stand behind those that were there. -/
theorem putAll_cons (node : Partial) (field : String × Value) (rest : List (String × Value)) :
    node.putAll (field :: rest) = .object (node.fields ++ ofFields (field :: rest)) := by
  induction rest generalizing node field with
  | nil => rfl
  | cons next rest ih =>
    show (node.put field.1 (ofValue field.2)).putAll (next :: rest) = _
    rw [ih, fields_put, List.append_assoc]
    rfl

/-- An object whose fields were put one after the other is complete when it closes. -/
theorem close_putAll {fields : List (String × Value)} {isLeaf : Bool}
    (h : fields = [] → isLeaf = false) :
    (Partial.empty.putAll fields).close isLeaf = .ofValue (.object fields) := by
  cases fields with
  | nil =>
    rw [h rfl]
    rfl
  | cons field rest =>
    rw [putAll_cons]
    rfl

end Soap.Partial
