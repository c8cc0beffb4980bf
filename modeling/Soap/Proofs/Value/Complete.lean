import Soap.Envelope.Partial
import Soap.Proofs.OrderedMap

/-!
# Values without references

A value that no reference occurs in is a value under construction that is complete
(`Partial.ofValue`), and unfolding references gives it back (`Partial.resolve_ofValue`). It stays so with more
children, if these are complete, and when it is closed (`Partial.IsWhole`).
`Value.mapScalars` changes the scalars of a value and nothing else; `Value.text` so makes each
scalar its text.
-/

namespace Soap

namespace Value

/-! ## Changing scalars -/

mutual

/-- The value with every scalar changed by `f`. -/
def mapScalars (f : Value → Value) : Value → Value
  | .null => .null
  | .list items => .list (mapItems f items)
  | .object fields => .object (mapFields f fields)
  | v@(.string _) | v@(.int _) | v@(.float _) | v@(.bool _) | v@(.dateTime _) => f v

/-- The items with every scalar changed by `f`. -/
def mapItems (f : Value → Value) : List Value → List Value
  | [] => []
  | v :: rest => mapScalars f v :: mapItems f rest

/-- The fields with every scalar changed by `f`; keys and their order stay. -/
def mapFields (f : Value → Value) : List (String × Value) → List (String × Value)
  | [] => []
  | (key, v) :: rest => (key, mapScalars f v) :: mapFields f rest

end

/-- A scalar as the string of its text. -/
def asText (v : Value) : Value := .string (v.scalarText?.getD "")

/-- The value with every scalar replaced by its text. -/
def text (v : Value) : Value := v.mapScalars asText

mutual

/-- To change nothing is to keep the value. -/
@[simp] theorem mapScalars_id (v : Value) : v.mapScalars id = v := by
  match v with
  | .list items => rw [mapScalars, mapItems_id items]
  | .object fields => rw [mapScalars, mapFields_id fields]
  | .null | .string _ | .int _ | .float _ | .bool _ | .dateTime _ => rfl

@[simp] theorem mapItems_id (items : List Value) : mapItems id items = items := by
  match items with
  | [] => rfl
  | v :: rest => rw [mapItems, mapScalars_id v, mapItems_id rest]

@[simp] theorem mapFields_id (fields : List (String × Value)) : mapFields id fields = fields := by
  match fields with
  | [] => rfl
  | (key, v) :: rest => rw [mapFields, mapScalars_id v, mapFields_id rest]

end

theorem length_mapItems (f : Value → Value) (items : List Value) :
    (mapItems f items).length = items.length := by
  induction items with
  | nil => rfl
  | cons v rest ih => rw [mapItems, List.length_cons, List.length_cons, ih]

/-- As many items can be told from a single value as before. -/
theorem tellable_mapItems (f : Value → Value) {items : List Value} {repeatable : Bool}
    (h : if repeatable then items ≠ [] else 2 ≤ items.length) :
    if repeatable then mapItems f items ≠ [] else 2 ≤ (mapItems f items).length := by
  cases repeatable with
  | true =>
    have hne : items ≠ [] := h
    intro hnil
    rw [← List.length_eq_zero_iff, length_mapItems, List.length_eq_zero_iff] at hnil
    exact hne hnil
  | false =>
    rw [length_mapItems]
    exact h

theorem keys_mapFields (f : Value → Value) (fields : List (String × Value)) :
    (mapFields f fields).map Prod.fst = fields.map Prod.fst := by
  induction fields with
  | nil => rfl
  | cons field rest ih => rw [mapFields, List.map_cons, List.map_cons, ih]

end Value

namespace Partial

/-! ## Complete values -/

mutual

/-- A value as one under construction, with nothing left to do. -/
def ofValue : Value → Partial
  | .null => .empty
  | .list items => .list (ofItems items)
  | .object fields => .object (ofFields fields)
  | v@(.string _) | v@(.int _) | v@(.float _) | v@(.bool _) | v@(.dateTime _) => .scalar v

def ofItems : List Value → List Partial
  | [] => []
  | v :: rest => ofValue v :: ofItems rest

def ofFields : List (String × Value) → List (String × Partial)
  | [] => []
  | (key, v) :: rest => (key, ofValue v) :: ofFields rest

end

variable (targets : OrderedMap String Partial) (active : List String)

mutual

/-- Unfolding references does nothing where there are none. -/
theorem resolve_ofValue (v : Value) : (ofValue v).resolve targets active = v := by
  match v with
  | .list items => rw [ofValue, resolve, resolveItems_ofItems items]
  | .object fields => rw [ofValue, resolve, resolveFields_ofFields fields]
  | .null | .string _ | .int _ | .float _ | .bool _ | .dateTime _ => simp only [ofValue, resolve]

theorem resolveItems_ofItems (items : List Value) :
    resolveItems targets active (ofItems items) = items := by
  match items with
  | [] => rw [ofItems, resolveItems]
  | v :: rest => rw [ofItems, resolveItems, resolve_ofValue v, resolveItems_ofItems rest]

theorem resolveFields_ofFields (fields : List (String × Value)) :
    resolveFields targets active (ofFields fields) = fields := by
  match fields with
  | [] => rw [ofFields, resolveFields]
  | (key, v) :: rest => rw [ofFields, resolveFields, resolve_ofValue v, resolveFields_ofFields rest]

end

theorem keys_ofFields (fields : List (String × Value)) :
    (ofFields fields).map Prod.fst = fields.map Prod.fst := by
  induction fields with
  | nil => rfl
  | cons field rest ih => rw [ofFields, List.map_cons, List.map_cons, ih]

theorem ofItems_eq_map (items : List Value) : ofItems items = items.map ofValue := by
  induction items with
  | nil => rfl
  | cons item rest ih => rw [ofItems, ih, List.map_cons]

theorem ofFields_eq_mapValues (fields : List (String × Value)) :
    ofFields fields = OrderedMap.mapValues ofValue fields := by
  induction fields with
  | nil => rfl
  | cons field rest ih =>
    rw [ofFields, ih]
    rfl

/-! ## Growing -/

theorem fields_ofValue (a : Value) : (ofValue a).fields = OrderedMap.mapValues ofValue (a.fields?.getD []) := by
  cases a with
  | object fields => exact ofFields_eq_mapValues fields
  | null | string _ | int _ | float _ | bool _ | dateTime _ | list _ => rfl

/-- A complete child joins complete ones. -/
theorem exists_addTo (child : Value) (repeatable : Bool) (old : Option Value) :
    ∃ v, (ofValue child).addTo repeatable (old.map ofValue) = ofValue v := by
  cases old with
  | none =>
    cases repeatable with
    | true => exact ⟨.list [child], rfl⟩
    | false => exact ⟨child, rfl⟩
  | some first =>
    cases first with
    | list items =>
      refine ⟨.list (items ++ [child]), ?_⟩
      show Partial.list (ofItems items ++ [ofValue child]) = .list (ofItems (items ++ [child]))
      rw [ofItems_eq_map, ofItems_eq_map, List.map_append, List.map_singleton]
    | null => exact ⟨.list [.null, child], rfl⟩
    | object fields => exact ⟨.list [.object fields, child], rfl⟩
    | string _ | int _ | float _ | bool _ | dateTime _ => exact ⟨.list [_, child], rfl⟩

/-- No reference is left in the node. -/
def IsWhole (node : Partial) : Prop := ∃ v, node = .ofValue v

theorem isWhole_empty : IsWhole .empty := ⟨.null, rfl⟩

/-- A complete node with another complete child is complete. -/
theorem IsWhole.addChild {node child : Partial} (h : node.IsWhole) (hchild : child.IsWhole) (key : String)
    (repeatable : Bool) : (node.addChild key child repeatable).IsWhole := by
  obtain ⟨a, rfl⟩ := h
  obtain ⟨w, rfl⟩ := hchild
  obtain ⟨v, hv⟩ := exists_addTo w repeatable (OrderedMap.get? (a.fields?.getD []) key)
  refine ⟨.object (OrderedMap.insert (a.fields?.getD []) key v), ?_⟩
  rw [Partial.addChild, fields_ofValue, OrderedMap.get?_mapValues, hv, OrderedMap.insert_mapValues, ofValue,
    ofFields_eq_mapValues]

theorem IsWhole.close {node : Partial} (h : node.IsWhole) (isLeaf : Bool) : (node.close isLeaf).IsWhole := by
  obtain ⟨v, rfl⟩ := h
  cases v with
  | null =>
    cases isLeaf with
    | true => exact ⟨.string "", rfl⟩
    | false => exact ⟨.object [], rfl⟩
  | list items => exact ⟨.list items, rfl⟩
  | object fields => exact ⟨.object fields, rfl⟩
  | string _ | int _ | float _ | bool _ | dateTime _ => exact ⟨_, rfl⟩

end Partial

end Soap
