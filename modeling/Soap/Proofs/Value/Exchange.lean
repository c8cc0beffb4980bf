import Mathlib.Data.List.Forall2
import Soap.Proofs.Value.Unfolding

/-!
# One node in place of another

Two values, and the targets around them, may be the same except that some nodes `a` of the one are
nodes `b` of the other (`Partial.Exchanged`). They unfold to the same just if `a` and `b` do, wherever a
way leads in the one to `a` and in the other to `b` (`Partial.Exchanged.resolve_eq_iff`).
-/

namespace Soap.Partial

/-! ## Entries side by side -/

section

variable {α β γ : Type}

theorem map_eq_map_of_index {items : List α} {items' : List β} (hlength : items.length = items'.length)
    {f : α → γ} {g : β → γ}
    (h : ∀ (i : Nat) item item', items[i]? = some item → items'[i]? = some item' → f item = g item') :
    items.map f = items'.map g := by
  refine List.ext_getElem (by rw [List.length_map, List.length_map, hlength]) fun i hi hi' => ?_
  rw [List.length_map] at hi hi'
  rw [List.getElem_map, List.getElem_map]
  exact h i _ _ (List.getElem?_eq_getElem hi) (List.getElem?_eq_getElem hi')

/-- Entries side by side have the same key. -/
theorem key_eq_of_index {fields : List (String × α)} {fields' : List (String × β)}
    (hkeys : fields.map Prod.fst = fields'.map Prod.fst) {i : Nat} {e : String × α} {e' : String × β}
    (he : fields[i]? = some e) (he' : fields'[i]? = some e') : e.1 = e'.1 := by
  have hget : (fields.map Prod.fst)[i]? = (fields'.map Prod.fst)[i]? := by rw [hkeys]
  rw [List.getElem?_map, List.getElem?_map, he, he'] at hget
  exact Option.some.inj hget

theorem map_fields_eq_of_index {fields : List (String × α)} {fields' : List (String × β)}
    (hkeys : fields.map Prod.fst = fields'.map Prod.fst) {f : α → γ} {g : β → γ}
    (h : ∀ (i : Nat) key child child', fields[i]? = some (key, child) → fields'[i]? = some (key, child') →
      f child = g child') :
    fields.map (fun e => (e.1, f e.2)) = fields'.map fun e => (e.1, g e.2) := by
  have hlength : fields.length = fields'.length := by
    rw [← List.length_map Prod.fst, hkeys, List.length_map]
  refine map_eq_map_of_index hlength fun i e e' he he' => ?_
  have hkey := key_eq_of_index hkeys he he'
  rw [← Prod.eta e', ← hkey] at he'
  rw [hkey, h i e.1 e.2 e'.2 he he']

/-- What is related is there on both sides or on neither. -/
theorem none_or_some_of_rel {R : α → β → Prop} {a? : Option α} {b? : Option β} (h : Option.Rel R a? b?) :
    (a? = none ∧ b? = none) ∨ ∃ a b, a? = some a ∧ b? = some b ∧ R a b := by
  cases h with
  | none => exact .inl ⟨rfl, rfl⟩
  | some h => exact .inr ⟨_, _, rfl, rfl, h⟩

end

/-! ## Values with other nodes -/

/-- The second value is the first one with `b` in the place of some `a`. -/
inductive Exchanged (a b : Partial) : Partial → Partial → Prop
  | here : Exchanged a b a b
  | empty : Exchanged a b .empty .empty
  | scalar (v : Value) : Exchanged a b (.scalar v) (.scalar v)
  | ref (id : String) : Exchanged a b (.ref id) (.ref id)
  | object {fields fields' : List (String × Partial)} (hkeys : fields.map Prod.fst = fields'.map Prod.fst)
      (h : ∀ (i : Nat) key child child', fields[i]? = some (key, child) → fields'[i]? = some (key, child') →
        Exchanged a b child child') : Exchanged a b (.object fields) (.object fields')
  | list {items items' : List Partial} (hlength : items.length = items'.length)
      (h : ∀ (i : Nat) child child', items[i]? = some child → items'[i]? = some child' →
        Exchanged a b child child') :
      Exchanged a b (.list items) (.list items')

/-- Targets of the same names are so. -/
def ExchangedTargets (a b : Partial) (targets targets' : OrderedMap String Partial) : Prop :=
  ∀ id, Option.Rel (Exchanged a b) (targets.get? id) (targets'.get? id)

variable {a b : Partial} {targets targets' : OrderedMap String Partial}

theorem ExchangedTargets.get?_eq (h : ExchangedTargets a b targets targets') (id : String) :
    (targets.get? id = none ∧ targets'.get? id = none) ∨
    ∃ target target', targets.get? id = some target ∧ targets'.get? id = some target' ∧
      Exchanged a b target target' :=
  none_or_some_of_rel (h id)

theorem Exchanged.refl (a b node : Partial) : Exchanged a b node node := by
  match node with
  | .empty => exact .empty
  | .scalar v => exact .scalar v
  | .ref id => exact .ref id
  | .object fields =>
    refine .object rfl fun i key child child' hchild hchild' => ?_
    obtain ⟨-, rfl⟩ := Prod.mk.inj (Option.some.inj (hchild.symm.trans hchild'))
    have hpart : child ∈ (Partial.object fields).parts := List.mem_map.mpr ⟨_, List.mem_of_getElem? hchild, rfl⟩
    have hlt := weight_lt_of_mem_parts hpart
    exact Exchanged.refl a b child
  | .list items =>
    refine .list rfl fun i child child' hchild hchild' => ?_
    obtain rfl := Option.some.inj (hchild.symm.trans hchild')
    have hpart : child ∈ (Partial.list items).parts := List.mem_of_getElem? hchild
    have hlt := weight_lt_of_mem_parts hpart
    exact Exchanged.refl a b child
termination_by node.weight

/-- With itself in its place, a node is no change. -/
theorem Exchanged.eq_of_same {node node' : Partial} (h : Exchanged a b node node') (hsame : a = b) :
    node = node' := by
  induction h with
  | here => exact hsame
  | empty | scalar v | ref id => rfl
  | object hkeys _ ih =>
    have hfields := map_fields_eq_of_index (f := id) (g := id) hkeys ih
    rw [Partial.object.injEq]
    simpa using hfields
  | list hlength _ ih =>
    have hitems := map_eq_map_of_index (f := id) (g := id) hlength ih
    rw [Partial.list.injEq]
    simpa using hitems

/-! ## Unfolding -/

/-- Values that differ in exchanged nodes unfold to the same just if these nodes do, wherever a way leads
to them. -/
theorem Exchanged.resolve_eq_iff (hT : ExchangedTargets a b targets targets') {node node' : Partial}
    (h : Exchanged a b node node') (active : List String) :
    node.resolve targets active = node'.resolve targets' active ↔
      ∀ way, Leads targets node way a → Leads targets' node' way b → (entered way).Nodup →
        (∀ id ∈ entered way, id ∉ active) →
        a.resolve targets ((entered way).reverse ++ active) = b.resolve targets' ((entered way).reverse ++ active) := by
  constructor
  · intro heq way ha hb hnodup hnew
    have hat := ha.at?_resolve hnodup hnew
    rw [heq, hb.at?_resolve hnodup hnew] at hat
    exact (Option.some.inj hat).symm
  · intro hways
    match h with
    | .here => exact hways [] (.here a) (.here b) List.nodup_nil fun _ hid => nomatch hid
    | .empty => rw [resolve, resolve]
    | .scalar v => rw [resolve, resolve]
    | @Exchanged.object _ _ fields fields' hkeys hchildren =>
      rw [resolve, resolve, resolveFields_eq_map, resolveFields_eq_map, Value.object.injEq]
      refine map_fields_eq_of_index hkeys fun i key child child' hchild hchild' => ?_
      have hpart : child ∈ (Partial.object fields).parts := List.mem_map.mpr ⟨_, List.mem_of_getElem? hchild, rfl⟩
      have hlt := weight_lt_of_mem_parts hpart
      refine ((hchildren i key child child' hchild hchild').resolve_eq_iff hT active).mpr fun way ha hb => ?_
      exact hways (.field i :: way) (.field hchild ha) (.field hchild' hb)
    | @Exchanged.list _ _ items items' hlength hchildren =>
      rw [resolve, resolve, resolveItems_eq_map, resolveItems_eq_map, Value.list.injEq]
      refine map_eq_map_of_index hlength fun i child child' hchild hchild' => ?_
      have hpart : child ∈ (Partial.list items).parts := List.mem_of_getElem? hchild
      have hlt := weight_lt_of_mem_parts hpart
      refine ((hchildren i child child' hchild hchild').resolve_eq_iff hT active).mpr fun way ha hb => ?_
      exact hways (.item i :: way) (.item hchild ha) (.item hchild' hb)
    | .ref id =>
      by_cases hactive : id ∈ active
      · rw [resolve_ref_of_mem hactive, resolve_ref_of_mem hactive]
      rcases hT.get?_eq id with ⟨hnone, hnone'⟩ | ⟨target, target', htarget, htarget', hexchanged⟩
      · rw [resolve_ref_of_unknown hnone, resolve_ref_of_unknown hnone']
      · -- Inside the target the reference itself is entered.
        have hlt := unvisited_cons_lt (OrderedMap.get?_isSome_iff.mp (by rw [htarget]; rfl)) hactive
        rw [resolve_ref htarget hactive, resolve_ref htarget' hactive]
        refine (hexchanged.resolve_eq_iff hT (id :: active)).mpr fun way ha hb hnodup hnew => ?_
        have hnot : id ∉ entered way := fun hmem => hnew id hmem List.mem_cons_self
        have hinside := hways (.target id :: way) (.target htarget ha) (.target htarget' hb)
          (List.nodup_cons.mpr ⟨hnot, hnodup⟩) fun other hother => by
            rcases List.mem_cons.mp hother with rfl | hother
            · exact hactive
            · exact fun hmem => hnew other hother (List.mem_cons_of_mem _ hmem)
        rwa [entered, List.reverse_cons, List.append_assoc, List.singleton_append] at hinside
termination_by (unvisited targets.keys active, node.weight)

/-- Where a reference is exchanged, no way goes on behind it in both values but into targets of one name. So
one way leads to nodes that are the same, except for exchanged nodes. -/
theorem Exchanged.of_leads {id : String} (hT : ExchangedTargets (.ref id) b targets targets')
    {node node' inner inner' : Partial} {way : List Step} (h : Exchanged (.ref id) b node node')
    (hway : Leads targets node way inner) (hway' : Leads targets' node' way inner') :
    Exchanged (.ref id) b inner inner' := by
  induction hway generalizing node' with
  | here node =>
    cases hway'
    exact h
  | field hchild _ ih =>
    cases hway' with
    | field hchild' hrest' =>
      cases h with
      | object hkeys hchildren =>
        obtain rfl := key_eq_of_index hkeys hchild hchild'
        exact ih (hchildren _ _ _ _ hchild hchild') hrest'
  | item hchild _ ih =>
    cases hway' with
    | item hchild' hrest' =>
      cases h with
      | list hlength hchildren => exact ih (hchildren _ _ _ hchild hchild') hrest'
  | @target other target _ _ htarget _ ih =>
    cases hway' with
    | @target _ target' _ _ htarget' hrest' =>
      have hexchanged : Exchanged (.ref id) b target target' := by
        have hrelated := hT other
        rw [htarget, htarget'] at hrelated
        cases hrelated with
        | some h => exact h
      exact ih hexchanged hrest'

end Soap.Partial
