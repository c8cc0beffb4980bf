/-!
# Insertion-ordered maps

A map is the list of its entries, in the order in which the keys first arrived. Field order is
significant on the wire, so every table of the library that an answer can show is one of these.

`insert` on a known key replaces the value *in place*: the key keeps its first position and takes
the last value. `erase` closes the gap. The two laws to work with are

    get?_insert      : (m.insert k v).get? j = if k = j then some v else m.get? j
    keys_insert      : (m.insert k v).keys = if k ∈ m.keys then m.keys else m.keys ++ [k]

and `nodup_insert`, `nodup_ofList` say that the operations never list a key twice.
-/

namespace Soap

/-- A map from `κ` to `α`, as its entries in insertion order. -/
abbrev OrderedMap (κ : Type) (α : Type u) := List (κ × α)

namespace OrderedMap

variable {κ : Type} {α : Type u} {β : Type v} [DecidableEq κ]

/-- The value stored under `key`: that of the first entry with this key. -/
def get? : OrderedMap κ α → κ → Option α
  | [], _ => none
  | (k, v) :: rest, key => if k = key then some v else get? rest key

def contains (m : OrderedMap κ α) (key : κ) : Bool := (m.get? key).isSome

/-- Store `value` under `key`: in place if the key is known, at the end otherwise. -/
def insert : OrderedMap κ α → κ → α → OrderedMap κ α
  | [], key, value => [(key, value)]
  | (k, v) :: rest, key, value =>
    if k = key then (k, value) :: rest else (k, v) :: insert rest key value

/-- Store `value` under `key` unless the key is known. -/
def insertNew (m : OrderedMap κ α) (key : κ) (value : α) : OrderedMap κ α :=
  if m.contains key then m else m ++ [(key, value)]

/-- Remove the entry under `key`; the others keep their order. -/
def erase : OrderedMap κ α → κ → OrderedMap κ α
  | [], _ => []
  | (k, v) :: rest, key => if k = key then rest else (k, v) :: erase rest key

def modify (f : α → α) : OrderedMap κ α → κ → OrderedMap κ α
  | [], _ => []
  | (k, v) :: rest, key => if k = key then (k, f v) :: rest else (k, v) :: modify f rest key

def extend (m other : OrderedMap κ α) : OrderedMap κ α :=
  other.foldl (fun acc entry => acc.insert entry.1 entry.2) m

/-- The map of a list of entries; a repeated key keeps its first place and takes the last value. -/
def ofList (entries : List (κ × α)) : OrderedMap κ α := extend [] entries

def keys (m : OrderedMap κ α) : List κ := m.map Prod.fst

def values (m : OrderedMap κ α) : List α := m.map Prod.snd

def mapValues (f : α → β) (m : OrderedMap κ α) : OrderedMap κ β := m.map fun e => (e.1, f e.2)

/-! ### Looking up after a change -/

@[simp] theorem get?_nil (key : κ) : get? ([] : OrderedMap κ α) key = none := rfl

theorem get?_insert (m : OrderedMap κ α) (k j : κ) (v : α) :
    (m.insert k v).get? j = if k = j then some v else m.get? j := by
  induction m with
  | nil => simp [insert, get?]
  | cons e rest ih =>
    obtain ⟨k', v'⟩ := e
    by_cases hk : k' = k
    · subst hk
      by_cases hj : k' = j <;> simp [insert, get?, hj]
    · by_cases hj : k' = j
      · subst hj
        have : ¬ k = k' := fun h => hk h.symm
        simp [insert, get?, hk, this]
      · simp [insert, get?, hk, hj, ih]

@[simp] theorem get?_insert_self (m : OrderedMap κ α) (k : κ) (v : α) :
    (m.insert k v).get? k = some v := by simp [get?_insert]

theorem get?_insert_of_ne (m : OrderedMap κ α) {k j : κ} (v : α) (h : k ≠ j) :
    (m.insert k v).get? j = m.get? j := by simp [get?_insert, h]

theorem get?_eq_none_iff {m : OrderedMap κ α} {key : κ} : m.get? key = none ↔ key ∉ m.keys := by
  induction m with
  | nil => simp [keys]
  | cons e rest ih =>
    obtain ⟨k, v⟩ := e
    by_cases h : k = key
    · simp [get?, keys, h]
    · have h' : ¬ key = k := fun e => h e.symm
      simp [get?, keys, h, h', ih]

theorem get?_isSome_iff {m : OrderedMap κ α} {key : κ} :
    (m.get? key).isSome = true ↔ key ∈ m.keys := by
  rw [Option.isSome_iff_ne_none, ne_eq, get?_eq_none_iff, Classical.not_not]

theorem contains_iff {m : OrderedMap κ α} {key : κ} : m.contains key = true ↔ key ∈ m.keys :=
  get?_isSome_iff

theorem mem_of_get? {m : OrderedMap κ α} {key : κ} {v : α} (h : m.get? key = some v) :
    (key, v) ∈ m := by
  induction m with
  | nil => simp at h
  | cons e rest ih =>
    obtain ⟨k, w⟩ := e
    by_cases hk : k = key
    · subst hk
      simp only [get?, if_true, Option.some.injEq] at h
      simp [h]
    · simp only [get?, hk, if_false] at h
      exact List.mem_cons_of_mem _ (ih h)

/-! ### Keys after a change -/

omit [DecidableEq κ] in
@[simp] theorem keys_nil : keys ([] : OrderedMap κ α) = [] := rfl

omit [DecidableEq κ] in
@[simp] theorem keys_cons (k : κ) (v : α) (m : OrderedMap κ α) :
    keys ((k, v) :: m) = k :: keys m := rfl

theorem keys_insert (m : OrderedMap κ α) (k : κ) (v : α) :
    (m.insert k v).keys = if k ∈ m.keys then m.keys else m.keys ++ [k] := by
  induction m with
  | nil => simp [insert, keys]
  | cons e rest ih =>
    obtain ⟨k', v'⟩ := e
    by_cases h : k' = k
    · simp [insert, h]
    · have h' : ¬ k = k' := fun e => h e.symm
      simp only [insert, h, if_false, keys_cons, ih, List.mem_cons, h', false_or]
      split <;> simp

theorem nodup_insert {m : OrderedMap κ α} (h : m.keys.Nodup) (k : κ) (v : α) :
    (m.insert k v).keys.Nodup := by
  rw [keys_insert]
  split
  · exact h
  · next hk =>
    rw [List.nodup_append]
    refine ⟨h, by simp, ?_⟩
    intro a ha b hb
    simp only [List.mem_singleton] at hb
    subst hb
    exact fun e => hk (e ▸ ha)

theorem nodup_extend {m : OrderedMap κ α} (h : m.keys.Nodup) (other : OrderedMap κ α) :
    (m.extend other).keys.Nodup := by
  induction other generalizing m with
  | nil => exact h
  | cons e rest ih => exact ih (nodup_insert h _ _)

theorem nodup_ofList (entries : List (κ × α)) : (ofList entries).keys.Nodup :=
  nodup_extend (by simp) entries

omit [DecidableEq κ] in
@[simp] theorem keys_mapValues (f : α → β) (m : OrderedMap κ α) :
    (m.mapValues f).keys = m.keys := by
  simp [mapValues, keys, List.map_map, Function.comp_def]

end OrderedMap

end Soap
