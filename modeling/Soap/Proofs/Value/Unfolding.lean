import Soap.Envelope.Partial
import Soap.Proofs.OrderedMap

/-!
# Unfolding references

What a value under construction becomes when its references are unfolded, for any targets: they may
refer to each other in circles.

* The way in is finite. A way from the root that enters no target twice is no longer than the root
  and the targets are large (`Leads.length_le`), and unfolding follows no other.
* What stands at the end of such a way is unfolded inside the targets that were entered on it
  (`Leads.at?_resolve`). So a reference is cut exactly if it stands inside its own target, and what
  is beside it has no part in that.
* Where no circle is reached, the targets that a value stands inside of do not matter either
  (`IsAcyclic.resolve_eq`), and unfolding is a substitution: each reference is replaced by what it
  stands for by itself (`IsAcyclic.resolve_eq_substitute`).
-/

namespace Soap.Partial

variable {targets : OrderedMap String Partial}

/-! ## References one by one -/

theorem resolve_ref_of_unknown {id : String} (h : targets.get? id = none) (active : List String) :
    (ref id).resolve targets active = .null := by
  rw [resolve]
  split
  · rfl
  · next target htarget => rw [h] at htarget; cases htarget

/-- A reference back into a target is cut. -/
theorem resolve_ref_of_mem {id : String} {active : List String} (h : id ∈ active) :
    (ref id).resolve targets active = .null := by
  rw [resolve]
  split
  · rfl
  · exact dif_pos h

/-- Any other reference is replaced by its target. -/
theorem resolve_ref {id : String} {target : Partial} (h : targets.get? id = some target)
    {active : List String} (hnew : id ∉ active) :
    (ref id).resolve targets active = target.resolve targets (id :: active) := by
  rw [resolve]
  split
  · next hnone => rw [h] at hnone; cases hnone
  · next target' htarget' =>
    obtain rfl := Option.some.inj (h.symm.trans htarget')
    exact dif_neg hnew

theorem resolveFields_eq_map (active : List String) (fields : List (String × Partial)) :
    resolveFields targets active fields = fields.map fun e => (e.1, e.2.resolve targets active) := by
  induction fields with
  | nil => rw [resolveFields, List.map_nil]
  | cons field rest ih => rw [resolveFields, List.map_cons, ih]

theorem resolveItems_eq_map (active : List String) (items : List Partial) :
    resolveItems targets active items = items.map (resolve targets active) := by
  induction items with
  | nil => rw [resolveItems, List.map_nil]
  | cons item rest ih => rw [resolveItems, List.map_cons, ih]

/-- A field is unfolded in its place. -/
theorem get?_resolve_object (active : List String) (fields : OrderedMap String Partial) (key : String) :
    ((object fields).resolve targets active).get? key = (fields.get? key).map (resolve targets active) := by
  rw [resolve, resolveFields_eq_map]
  exact OrderedMap.get?_mapValues (resolve targets active) fields key

/-- A list has no fields. -/
theorem get?_resolve_list (active : List String) (items : List Partial) (key : String) :
    ((list items).resolve targets active).get? key = none := by
  rw [resolve]
  rfl

/-! ## Parts -/

/-- What stands right inside an object or a list. -/
def parts : Partial → List Partial
  | .object fields => fields.map Prod.snd
  | .list items => items
  | .empty | .scalar _ | .ref _ => []

theorem weight_lt_fieldsWeight {fields : List (String × Partial)} {e : String × Partial}
    (h : e ∈ fields) : e.2.weight < fieldsWeight fields := by
  induction fields with
  | nil => cases h
  | cons field rest ih =>
    rw [fieldsWeight]
    rcases List.mem_cons.mp h with rfl | h
    · omega
    · have := ih h
      omega

theorem weight_lt_itemsWeight {items : List Partial} {part : Partial} (h : part ∈ items) :
    part.weight < itemsWeight items := by
  induction items with
  | nil => cases h
  | cons item rest ih =>
    rw [itemsWeight]
    rcases List.mem_cons.mp h with rfl | h
    · omega
    · have := ih h
      omega

/-- A part is smaller than the whole. -/
theorem weight_lt_of_mem_parts {node part : Partial} (h : part ∈ node.parts) :
    part.weight < node.weight := by
  cases node with
  | object fields =>
    obtain ⟨e, he, rfl⟩ := List.mem_map.mp h
    have := weight_lt_fieldsWeight he
    rw [weight]
    omega
  | list items =>
    have : part.weight < itemsWeight items := weight_lt_itemsWeight h
    rw [weight]
    omega
  | empty | scalar _ | ref _ => cases h

/-! ## The way in -/

/-- A step from a value to something inside it. -/
inductive Step where
  /-- To the field at an index. -/
  | field (index : Nat)
  /-- To the item at an index. -/
  | item (index : Nat)
  /-- From a reference into its target. -/
  | target (id : String)
deriving DecidableEq, Repr

/-- A way leads from a value to another, through the parts of objects and lists and into targets, as
often as there are references. -/
inductive Leads (targets : OrderedMap String Partial) : Partial → List Step → Partial → Prop
  | here (node : Partial) : Leads targets node [] node
  | field {fields : List (String × Partial)} {index : Nat} {key : String} {child node : Partial}
      {way : List Step} (h : fields[index]? = some (key, child)) (hway : Leads targets child way node) :
      Leads targets (.object fields) (.field index :: way) node
  | item {items : List Partial} {index : Nat} {child node : Partial} {way : List Step}
      (h : items[index]? = some child) (hway : Leads targets child way node) :
      Leads targets (.list items) (.item index :: way) node
  | target {id : String} {target node : Partial} {way : List Step}
      (h : targets.get? id = some target) (hway : Leads targets target way node) :
      Leads targets (.ref id) (.target id :: way) node

/-- The targets that are entered on a way, in order. -/
def entered : List Step → List String
  | [] => []
  | .target id :: way => id :: entered way
  | .field _ :: way | .item _ :: way => entered way

/-- How much there is of the targets that a value does not stand inside of. -/
def reserve (active : List String) : OrderedMap String Partial → Nat
  | [] => 0
  | (id, target) :: rest => (if id ∈ active then 0 else 1 + target.weight) + reserve active rest

theorem reserve_cons_le (active : List String) (id : String) (targets : OrderedMap String Partial) :
    reserve (id :: active) targets ≤ reserve active targets := by
  induction targets with
  | nil => exact Nat.le_refl 0
  | cons e rest ih =>
    rw [reserve, reserve]
    by_cases hactive : e.1 ∈ active
    · rw [if_pos hactive, if_pos (List.mem_cons_of_mem _ hactive)]
      omega
    · rw [if_neg hactive]
      split <;> omega

/-- To enter a target takes it out of the reserve. -/
theorem reserve_enter {id : String} {target : Partial} (h : targets.get? id = some target)
    {active : List String} (hnew : id ∉ active) :
    1 + target.weight + reserve (id :: active) targets ≤ reserve active targets := by
  induction targets with
  | nil => cases h
  | cons e rest ih =>
    obtain ⟨key, node⟩ := e
    rw [OrderedMap.get?] at h
    rw [reserve, reserve]
    by_cases hkey : key = id
    · subst hkey
      rw [if_pos rfl] at h
      obtain rfl := Option.some.inj h
      have hle := reserve_cons_le active key rest
      rw [if_pos List.mem_cons_self, if_neg hnew]
      omega
    · rw [if_neg hkey] at h
      have hle := ih h
      have hactive : key ∈ id :: active ↔ key ∈ active := by simp [hkey]
      simp only [hactive]
      omega

/-- What is entered inside of a target is new there as well. -/
theorem new_inside {id : String} {more active : List String} (hid : id ∉ more)
    (hnew : ∀ other ∈ id :: more, other ∉ active) : ∀ other ∈ more, other ∉ id :: active := by
  intro other hother
  rw [List.mem_cons, not_or]
  exact ⟨fun e => hid (e ▸ hother), hnew other (List.mem_cons_of_mem _ hother)⟩

/-- A way that enters no target twice, and none of `active`, is no longer than what it can lead
through. -/
theorem Leads.length_le {root node : Partial} {way : List Step} (h : Leads targets root way node)
    {active : List String} (hnodup : (entered way).Nodup) (hnew : ∀ id ∈ entered way, id ∉ active) :
    way.length ≤ root.weight + reserve active targets := by
  induction h generalizing active with
  | here node => exact Nat.zero_le _
  | @field fields index key child node way h hway ih =>
    have hlt : child.weight < (object fields).weight :=
      weight_lt_of_mem_parts (List.mem_map.mpr ⟨_, List.mem_of_getElem? h, rfl⟩)
    have hle := ih hnodup hnew
    rw [List.length_cons]
    omega
  | @item items index child node way h hway ih =>
    have hlt : child.weight < (list items).weight := weight_lt_of_mem_parts (List.mem_of_getElem? h)
    have hle := ih hnodup hnew
    rw [List.length_cons]
    omega
  | @target id target node way h hway ih =>
    obtain ⟨hid, hnodup⟩ := List.nodup_cons.mp hnodup
    have hreserve := reserve_enter h (hnew id List.mem_cons_self)
    have hle := ih hnodup (new_inside hid hnew)
    rw [List.length_cons]
    omega

end Soap.Partial

namespace Soap

/-- What stands in a value at the end of a way. Targets have no place of their own in it: what was
inside them stands where they were referred to. -/
def Value.at? : List Partial.Step → Value → Option Value
  | [], v => some v
  | .field index :: way, .object fields => fields[index]?.bind fun e => Value.at? way e.2
  | .item index :: way, .list items => items[index]?.bind (Value.at? way)
  | .target _ :: way, v => Value.at? way v
  | .field _ :: _, _ | .item _ :: _, _ => none

end Soap

namespace Soap.Partial

variable {targets : OrderedMap String Partial}

/-- What a way leads to is unfolded inside the targets that are entered on the way, and nothing else
matters to it. -/
theorem Leads.at?_resolve {root node : Partial} {way : List Step} (h : Leads targets root way node)
    {active : List String} (hnodup : (entered way).Nodup) (hnew : ∀ id ∈ entered way, id ∉ active) :
    (root.resolve targets active).at? way =
      some (node.resolve targets ((entered way).reverse ++ active)) := by
  induction h generalizing active with
  | here node => rw [Value.at?, entered, List.reverse_nil, List.nil_append]
  | field h hway ih =>
    rw [resolve, Value.at?, resolveFields_eq_map, List.getElem?_map, h]
    exact ih hnodup hnew
  | item h hway ih =>
    rw [resolve, Value.at?, resolveItems_eq_map, List.getElem?_map, h]
    exact ih hnodup hnew
  | @target id target node way h hway ih =>
    obtain ⟨hid, hnodup⟩ := List.nodup_cons.mp hnodup
    rw [resolve_ref h (hnew id List.mem_cons_self), Value.at?, ih hnodup (new_inside hid hnew), entered,
      List.reverse_cons, List.append_assoc, List.singleton_append]

/-! ## What is reached -/

/-- A value refers to `id` somewhere. -/
inductive Mentions : Partial → String → Prop
  | ref (id : String) : Mentions (.ref id) id
  | part {node part : Partial} {id : String} (h : part ∈ node.parts) (hpart : Mentions part id) :
      Mentions node id

theorem mentions_ref_iff {id id' : String} : Mentions (.ref id) id' ↔ id' = id := by
  constructor
  · intro h
    cases h with
    | ref => rfl
    | part hpart => cases hpart
  · rintro rfl
    exact .ref _

theorem mentions_object_iff {fields : List (String × Partial)} {id : String} :
    Mentions (.object fields) id ↔ ∃ e ∈ fields, Mentions e.2 id := by
  constructor
  · intro h
    cases h with
    | part hpart h =>
      obtain ⟨e, he, rfl⟩ := List.mem_map.mp hpart
      exact ⟨e, he, h⟩
  · rintro ⟨e, he, h⟩
    exact .part (List.mem_map.mpr ⟨e, he, rfl⟩) h

theorem not_mentions_scalar {v : Value} {id : String} : ¬ Mentions (.scalar v) id := by
  intro h
  cases h with
  | part hpart => cases hpart

/-- References lead from a value to `id`, through any number of targets. -/
inductive Reaches (targets : OrderedMap String Partial) : Partial → String → Prop
  | mention {node : Partial} {id : String} (h : Mentions node id) : Reaches targets node id
  | through {node target : Partial} {id id' : String} (h : Mentions node id)
      (htarget : targets.get? id = some target) (hreach : Reaches targets target id') :
      Reaches targets node id'

/-- No target that references lead to leads back to itself. -/
def IsAcyclic (targets : OrderedMap String Partial) (node : Partial) : Prop :=
  ∀ id target, Reaches targets node id → targets.get? id = some target → ¬ Reaches targets target id

theorem Reaches.part {node part : Partial} (h : part ∈ node.parts) {id : String}
    (hreach : Reaches targets part id) : Reaches targets node id := by
  cases hreach with
  | mention hid => exact .mention (.part h hid)
  | through hid htarget hreach => exact .through (.part h hid) htarget hreach

theorem IsAcyclic.part {node part : Partial} (h : IsAcyclic targets node) (hpart : part ∈ node.parts) :
    IsAcyclic targets part :=
  fun id target hreach => h id target (hreach.part hpart)

theorem IsAcyclic.target {id : String} {target : Partial} (h : IsAcyclic targets (.ref id))
    (htarget : targets.get? id = some target) : IsAcyclic targets target :=
  fun id' target' hreach => h id' target' (.through (.ref id) htarget hreach)

/-! ## Without circles -/

/-- The targets that a value stands inside of do not matter if it does not lead back to them. -/
theorem IsAcyclic.resolve_eq {node : Partial} (h : IsAcyclic targets node)
    {active active' : List String} (ha : ∀ id ∈ active, ¬ Reaches targets node id)
    (ha' : ∀ id ∈ active', ¬ Reaches targets node id) :
    node.resolve targets active = node.resolve targets active' := by
  match node with
  | .empty => rw [resolve, resolve]
  | .scalar v => rw [resolve, resolve]
  | .object fields =>
    rw [resolve, resolve, resolveFields_eq_map, resolveFields_eq_map]
    congr 1
    refine List.map_congr_left fun e he => ?_
    have hpart : e.2 ∈ (object fields).parts := List.mem_map.mpr ⟨e, he, rfl⟩
    have hlt := weight_lt_of_mem_parts hpart
    rw [(h.part hpart).resolve_eq (fun id hid hreach => ha id hid (hreach.part hpart))
      fun id hid hreach => ha' id hid (hreach.part hpart)]
  | .list items =>
    rw [resolve, resolve, resolveItems_eq_map, resolveItems_eq_map]
    congr 1
    refine List.map_congr_left fun part hpart => ?_
    have hpart : part ∈ (list items).parts := hpart
    have hlt := weight_lt_of_mem_parts hpart
    exact (h.part hpart).resolve_eq (fun id hid hreach => ha id hid (hreach.part hpart))
      fun id hid hreach => ha' id hid (hreach.part hpart)
  | .ref id =>
    have hself : Reaches targets (.ref id) id := .mention (.ref id)
    cases htarget : targets.get? id with
    | none => rw [resolve_ref_of_unknown htarget, resolve_ref_of_unknown htarget]
    | some target =>
      have hnew : id ∉ active := fun hid => ha id hid hself
      have hnew' : id ∉ active' := fun hid => ha' id hid hself
      have hlt := unvisited_cons_lt (OrderedMap.get?_isSome_iff.mp (by rw [htarget]; rfl)) hnew
      -- Inside the target the reference itself is new, and on no circle.
      have hinside : ∀ {active}, (∀ other ∈ active, ¬ Reaches targets (.ref id) other) →
          ∀ other ∈ id :: active, ¬ Reaches targets target other := by
        intro active ha other hother hreach
        rcases List.mem_cons.mp hother with rfl | hother
        · exact h _ target hself htarget hreach
        · exact ha other hother (.through (.ref id) htarget hreach)
      rw [resolve_ref htarget hnew, resolve_ref htarget hnew']
      exact (h.target htarget).resolve_eq (hinside ha) (hinside ha')
termination_by (unvisited targets.keys active, node.weight)

/-! ## Other targets -/

/-- Targets that references do not lead to do not matter. -/
theorem resolve_congr {targets' : OrderedMap String Partial} (node : Partial) {active : List String}
    (h : ∀ id, Reaches targets node id → targets'.get? id = targets.get? id) :
    node.resolve targets' active = node.resolve targets active := by
  match node with
  | .empty => rw [resolve, resolve]
  | .scalar v => rw [resolve, resolve]
  | .object fields =>
    rw [resolve, resolve, resolveFields_eq_map, resolveFields_eq_map]
    congr 1
    refine List.map_congr_left fun e he => ?_
    have hpart : e.2 ∈ (object fields).parts := List.mem_map.mpr ⟨e, he, rfl⟩
    have hlt := weight_lt_of_mem_parts hpart
    rw [resolve_congr e.2 fun id hreach => h id (hreach.part hpart)]
  | .list items =>
    rw [resolve, resolve, resolveItems_eq_map, resolveItems_eq_map]
    congr 1
    refine List.map_congr_left fun part hpart => ?_
    have hpart : part ∈ (list items).parts := hpart
    have hlt := weight_lt_of_mem_parts hpart
    exact resolve_congr part fun id hreach => h id (hreach.part hpart)
  | .ref id =>
    have hget : targets'.get? id = targets.get? id := h id (.mention (.ref id))
    by_cases hactive : id ∈ active
    · rw [resolve_ref_of_mem hactive, resolve_ref_of_mem hactive]
    cases htarget : targets.get? id with
    | none => rw [resolve_ref_of_unknown htarget, resolve_ref_of_unknown (hget.trans htarget)]
    | some target =>
      have hlt := unvisited_cons_lt (OrderedMap.get?_isSome_iff.mp (by rw [htarget]; rfl)) hactive
      rw [resolve_ref htarget hactive, resolve_ref (hget.trans htarget) hactive]
      exact resolve_congr target fun id' hreach => h id' (.through (.ref id) htarget hreach)
termination_by (unvisited targets.keys active, node.weight)

/-! ## Replacing references -/

mutual

/-- A value with each reference replaced by what `f` has for it. -/
def substitute (f : String → Value) : Partial → Value
  | .empty => .null
  | .scalar v => v
  | .object fields => .object (substituteFields f fields)
  | .list items => .list (substituteItems f items)
  | .ref id => f id

/-- Each field stays under its key and in its place. -/
def substituteFields (f : String → Value) : List (String × Partial) → List (String × Value)
  | [] => []
  | (key, node) :: rest => (key, node.substitute f) :: substituteFields f rest

/-- Each item stays in its place. -/
def substituteItems (f : String → Value) : List Partial → List Value
  | [] => []
  | node :: rest => node.substitute f :: substituteItems f rest

end

/-- What a reference to `id` stands for by itself: its target, unfolded, if there is one. -/
def standsFor (targets : OrderedMap String Partial) (id : String) : Value :=
  ((targets.get? id).map (resolve targets [])).getD .null

mutual

/-- Without circles, unfolding replaces each reference by what it stands for by itself. -/
theorem IsAcyclic.resolve_eq_substitute {node : Partial} (h : IsAcyclic targets node) :
    node.resolve targets [] = node.substitute (standsFor targets) := by
  match node with
  | .empty => rw [resolve, substitute]
  | .scalar v => rw [resolve, substitute]
  | .object fields =>
    rw [resolve, substitute,
      resolveFields_eq_substitute fields fun e he => h.part (List.mem_map.mpr ⟨e, he, rfl⟩)]
  | .list items =>
    rw [resolve, substitute, resolveItems_eq_substitute items fun part hpart => h.part hpart]
  | .ref id =>
    rw [substitute, standsFor]
    cases htarget : targets.get? id with
    | none => exact resolve_ref_of_unknown htarget []
    | some target =>
      rw [resolve_ref htarget List.not_mem_nil, Option.map_some, Option.getD_some]
      refine (h.target htarget).resolve_eq (fun other hother => ?_) (by simp)
      obtain rfl := List.mem_singleton.mp hother
      exact h _ target (.mention (.ref _)) htarget

theorem resolveFields_eq_substitute (fields : List (String × Partial))
    (h : ∀ e ∈ fields, IsAcyclic targets e.2) :
    resolveFields targets [] fields = substituteFields (standsFor targets) fields := by
  match fields with
  | [] => rw [resolveFields, substituteFields]
  | (key, node) :: rest =>
    rw [resolveFields, substituteFields,
      (h (key, node) List.mem_cons_self).resolve_eq_substitute,
      resolveFields_eq_substitute rest fun e he => h e (List.mem_cons_of_mem _ he)]

theorem resolveItems_eq_substitute (items : List Partial) (h : ∀ part ∈ items, IsAcyclic targets part) :
    resolveItems targets [] items = substituteItems (standsFor targets) items := by
  match items with
  | [] => rw [resolveItems, substituteItems]
  | node :: rest =>
    rw [resolveItems, substituteItems, (h node List.mem_cons_self).resolve_eq_substitute,
      resolveItems_eq_substitute rest fun part hpart => h part (List.mem_cons_of_mem _ hpart)]

end

/-! ## Ways without circles -/

/-- What is reached from the end of a way is reached from its beginning. -/
theorem Leads.reaches {root node : Partial} {way : List Step} (h : Leads targets root way node)
    {id : String} (hreach : Reaches targets node id) : Reaches targets root id := by
  induction h with
  | here node => exact hreach
  | field h _ ih => exact (ih hreach).part (List.mem_map.mpr ⟨_, List.mem_of_getElem? h, rfl⟩)
  | item h _ ih => exact (ih hreach).part (List.mem_of_getElem? h)
  | target h _ ih => exact .through (.ref _) h (ih hreach)

/-- What is entered on a way is reached from its beginning. -/
theorem Leads.reaches_of_mem_entered {root node : Partial} {way : List Step}
    (h : Leads targets root way node) {id : String} (hid : id ∈ entered way) :
    Reaches targets root id := by
  induction h with
  | here node => cases hid
  | field h _ ih => exact (ih hid).part (List.mem_map.mpr ⟨_, List.mem_of_getElem? h, rfl⟩)
  | item h _ ih => exact (ih hid).part (List.mem_of_getElem? h)
  | target h _ ih =>
    rcases List.mem_cons.mp hid with rfl | hid
    · exact .mention (.ref _)
    · exact .through (.ref _) h (ih hid)

theorem IsAcyclic.leads {root node : Partial} {way : List Step} (h : IsAcyclic targets root)
    (hway : Leads targets root way node) : IsAcyclic targets node :=
  fun id target hreach => h id target (hway.reaches hreach)

/-- Without circles, no way enters a target twice. -/
theorem IsAcyclic.nodup_entered {root node : Partial} {way : List Step} (h : IsAcyclic targets root)
    (hway : Leads targets root way node) : (entered way).Nodup := by
  induction hway with
  | here node => exact List.nodup_nil
  | field hfield _ ih => exact ih (h.part (List.mem_map.mpr ⟨_, List.mem_of_getElem? hfield, rfl⟩))
  | item hitem _ ih => exact ih (h.part (List.mem_of_getElem? hitem))
  | target htarget hway ih =>
    refine List.nodup_cons.mpr ⟨fun hid => ?_, ih (h.target htarget)⟩
    exact h _ _ (.mention (.ref _)) htarget (hway.reaches_of_mem_entered hid)

/-- Without circles, nothing on a way is reached again from its end. -/
theorem IsAcyclic.not_reaches_entered {root node : Partial} {way : List Step} (h : IsAcyclic targets root)
    (hway : Leads targets root way node) {id : String} (hid : id ∈ entered way) :
    ¬ Reaches targets node id := by
  induction hway with
  | here node => cases hid
  | field hfield _ ih => exact ih (h.part (List.mem_map.mpr ⟨_, List.mem_of_getElem? hfield, rfl⟩)) hid
  | item hitem _ ih => exact ih (h.part (List.mem_of_getElem? hitem)) hid
  | target htarget hway ih =>
    rcases List.mem_cons.mp hid with rfl | hid
    · exact fun hreach => h _ _ (.mention (.ref _)) htarget (hway.reaches hreach)
    · exact ih (h.target htarget) hid

/-- Without circles, what a way leads to stands at its end as if it were unfolded by itself. -/
theorem IsAcyclic.at?_resolve {root node : Partial} {way : List Step} (h : IsAcyclic targets root)
    (hway : Leads targets root way node) :
    (root.resolve targets []).at? way = some (node.substitute (standsFor targets)) := by
  have hinside : ∀ id ∈ (entered way).reverse ++ [], ¬ Reaches targets node id := by
    intro id hid
    rw [List.append_nil, List.mem_reverse] at hid
    exact h.not_reaches_entered hway hid
  rw [hway.at?_resolve (h.nodup_entered hway) fun _ _ => List.not_mem_nil,
    ← (h.leads hway).resolve_eq_substitute, (h.leads hway).resolve_eq hinside fun _ hid => absurd hid List.not_mem_nil]

/-- Unfolding goes no deeper than the root and the targets together are large, whatever circles
these form. Where no circle is reached it replaces every reference by what it stands for by itself,
wherever that occurs. And a reference to a target is cut exactly if it stands inside of this target;
otherwise the target stands in its place. -/
theorem resolve_cuts_only_circles (targets : OrderedMap String Partial) (root : Partial) :
    (∀ way node, Leads targets root way node → (entered way).Nodup →
      way.length ≤ root.weight + reserve [] targets) ∧
    (IsAcyclic targets root →
      root.resolve targets [] = root.substitute (standsFor targets) ∧
      ∀ way node, Leads targets root way node →
        (root.resolve targets []).at? way = some (node.substitute (standsFor targets))) ∧
    ∀ way id, Leads targets root way (.ref id) → (entered way).Nodup →
      (root.resolve targets []).at? way = some (match targets.get? id with
        | none => .null
        | some target =>
          if id ∈ entered way then .null
          else target.resolve targets (id :: (entered way).reverse)) := by
  refine ⟨fun way node hway hnodup => hway.length_le hnodup fun _ _ => List.not_mem_nil,
    fun h => ⟨h.resolve_eq_substitute, fun way node hway => h.at?_resolve hway⟩, ?_⟩
  intro way id hway hnodup
  rw [hway.at?_resolve hnodup fun _ _ => List.not_mem_nil, List.append_nil]
  cases htarget : targets.get? id with
  | none => rw [resolve_ref_of_unknown htarget]
  | some target =>
    dsimp only
    split
    · next hid => rw [resolve_ref_of_mem (List.mem_reverse.mpr hid)]
    · next hid => rw [resolve_ref htarget (by rwa [List.mem_reverse])]

/-! ### A pair and a loop -/

/-- The first target refers to the second, the third to itself. -/
def linkedTargets : OrderedMap String Partial :=
  [("a", .object [("name", .scalar (.string "A")), ("next", .ref "b")]),
    ("b", .object [("name", .scalar (.string "B"))]),
    ("c", .object [("self", .ref "c")])]

/-- A value that refers to the first two targets and to no target. -/
def linkedPair : Partial :=
  .object [("first", .ref "a"), ("second", .ref "b"), ("missing", .ref "d")]

/-- No target that the pair leads to is on a circle. -/
theorem isAcyclic_linkedPair : IsAcyclic linkedTargets linkedPair := by
  -- The second target leads nowhere, so the first leads to the second only.
  have hsecond : ∀ id, ¬ Reaches linkedTargets (.object [("name", .scalar (.string "B"))]) id := by
    intro id h
    cases h with
    | mention h | through h => simp [mentions_object_iff, not_mentions_scalar] at h
  have hfirst : ∀ id,
      Reaches linkedTargets (.object [("name", .scalar (.string "A")), ("next", .ref "b")]) id →
      id = "b" := by
    intro id h
    cases h with
    | mention h => simpa [mentions_object_iff, not_mentions_scalar, mentions_ref_iff] using h
    | @through _ _ next _ h htarget hreach =>
      obtain rfl : next = "b" := by
        simpa [mentions_object_iff, not_mentions_scalar, mentions_ref_iff] using h
      obtain rfl := Option.some.inj htarget
      exact absurd hreach (hsecond id)
  have hroot : ∀ id, Mentions linkedPair id → id = "a" ∨ id = "b" ∨ id = "d" := by
    intro id h
    simpa [linkedPair, mentions_object_iff, mentions_ref_iff] using h
  have hcircle : ∀ id target, id = "a" ∨ id = "b" ∨ id = "d" → linkedTargets.get? id = some target →
      ¬ Reaches linkedTargets target id := by
    rintro id target (rfl | rfl | rfl) htarget hreach
    · obtain rfl := Option.some.inj htarget
      exact absurd (hfirst _ hreach) (by decide)
    · obtain rfl := Option.some.inj htarget
      exact hsecond _ hreach
    · cases htarget
  intro id target hreach htarget
  refine hcircle id target ?_ htarget
  cases hreach with
  | mention h => exact hroot id h
  | through h hnext hreach =>
    rcases hroot _ h with rfl | rfl | rfl
    · obtain rfl := Option.some.inj hnext
      exact .inr (.inl (hfirst id hreach))
    · obtain rfl := Option.some.inj hnext
      exact absurd hreach (hsecond id)
    · cases hnext

/-- Both places of the pair that lead to the second target hold the same, and only the reference to
no target is nothing. The third target is cut where it stands inside itself. -/
theorem resolve_cuts_only_circles_linked :
    linkedPair.resolve linkedTargets [] =
      .object [("first", .object [("name", .string "A"), ("next", .object [("name", .string "B")])]),
        ("second", .object [("name", .string "B")]), ("missing", .null)] ∧
    ((ref "c").resolve linkedTargets []).at? [.target "c", .field 0] = some .null := by
  have hpair := ((resolve_cuts_only_circles linkedTargets linkedPair).2.1 isAcyclic_linkedPair).1
  have hway : Leads linkedTargets (.ref "c") [.target "c", .field 0] (.ref "c") :=
    .target rfl (.field rfl (.here _))
  have hloop := (resolve_cuts_only_circles linkedTargets (.ref "c")).2.2 _ _ hway (by decide)
  refine ⟨hpair.trans ?_, hloop⟩
  simp [linkedPair, linkedTargets, substitute, substituteFields, standsFor, resolve, resolveFields,
    OrderedMap.get?]

end Soap.Partial
