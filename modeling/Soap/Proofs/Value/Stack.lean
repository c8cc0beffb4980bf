import Soap.Proofs.Value.Unfolding

/-!
# Unfolding with one stack

`Partial.resolve` is told which targets a value stands inside of. Here there is one stack for the whole
value instead: a target is put on it before it is unfolded and what is on top is taken off afterwards,
and fields and items are unfolded one after the other, each with the stack that the one before it has
left. Every part leaves the stack as it found it, which is a field of what comes of it (`Unfolded`), so
no part depends on what is beside it, and the values are the same (`result_unfold`).
-/

namespace Soap.Partial

/-! ## The stack -/

/-- What comes of unfolding with a stack: a result, and the stack that is left. -/
structure Unfolded (α : Type) (stack : List String) where
  result : α
  left : List String
  /-- Nothing is left on the stack, and nothing is missing. -/
  left_eq : left = stack

def Unfolded.map {α β : Type} {stack : List String} (f : α → β) (u : Unfolded α stack) :
    Unfolded β stack :=
  ⟨f u.result, u.left, u.left_eq⟩

mutual

/-- The value, with references replaced by the targets they refer to. `stack` has the targets that are
being unfolded, the innermost on top. -/
def unfold (targets : OrderedMap String Partial) (stack : List String) : Partial → Unfolded Value stack
  | .empty => ⟨.null, stack, rfl⟩
  | .scalar v => ⟨v, stack, rfl⟩
  | .object fields => (unfoldFields targets stack fields).map .object
  | .list items => (unfoldItems targets stack items).map .list
  | .ref id =>
    match _h : targets.get? id with
    | none => ⟨.null, stack, rfl⟩
    | some target =>
      if _hv : id ∈ stack then ⟨.null, stack, rfl⟩
      else
        let inside := unfold targets (id :: stack) target
        ⟨inside.result, inside.left.tail, congrArg List.tail inside.left_eq⟩
termination_by node => (unvisited targets.keys stack, node.weight)
decreasing_by
  · exact Prod.Lex.right _ (by simp only [weight]; omega)
  · exact Prod.Lex.right _ (by simp only [weight]; omega)
  · exact Prod.Lex.left _ _
      (unvisited_cons_lt (OrderedMap.get?_isSome_iff.1 (by simp [_h])) _hv)

def unfoldFields (targets : OrderedMap String Partial) (stack : List String) :
    List (String × Partial) → Unfolded (List (String × Value)) stack
  | [] => ⟨[], stack, rfl⟩
  | (key, node) :: rest =>
    let first := unfold targets stack node
    let others := unfoldFields targets first.left rest
    ⟨(key, first.result) :: others.result, others.left, others.left_eq.trans first.left_eq⟩
termination_by fields => (unvisited targets.keys stack, fieldsWeight fields)
decreasing_by
  · exact Prod.Lex.right _ (by simp only [fieldsWeight]; omega)
  · rw [first.left_eq]
    exact Prod.Lex.right _ (by simp only [fieldsWeight]; omega)

def unfoldItems (targets : OrderedMap String Partial) (stack : List String) :
    List Partial → Unfolded (List Value) stack
  | [] => ⟨[], stack, rfl⟩
  | node :: rest =>
    let first := unfold targets stack node
    let others := unfoldItems targets first.left rest
    ⟨first.result :: others.result, others.left, others.left_eq.trans first.left_eq⟩
termination_by items => (unvisited targets.keys stack, itemsWeight items)
decreasing_by
  · exact Prod.Lex.right _ (by simp only [itemsWeight]; omega)
  · rw [first.left_eq]
    exact Prod.Lex.right _ (by simp only [itemsWeight]; omega)

end

/-! ## What comes of it -/

mutual

/-- A value is unfolded inside the targets that are on the stack. -/
theorem result_unfold (targets : OrderedMap String Partial) (stack : List String) :
    (node : Partial) → (unfold targets stack node).result = node.resolve targets stack
  | .empty => by rw [unfold, resolve]
  | .scalar v => by rw [unfold, resolve]
  | .object fields => by
    rw [unfold, resolve, ← result_unfoldFields targets stack fields]
    rfl
  | .list items => by
    rw [unfold, resolve, ← result_unfoldItems targets stack items]
    rfl
  | .ref id => by
    rw [unfold]
    split
    · next hunknown => rw [resolve_ref_of_unknown hunknown]
    · next target htarget =>
      split
      · next hmem => rw [resolve_ref_of_mem hmem]
      · next hnew =>
        rw [resolve_ref htarget hnew]
        exact result_unfold targets (id :: stack) target
termination_by node => (unvisited targets.keys stack, node.weight)
decreasing_by
  · exact Prod.Lex.right _ (by simp only [weight]; omega)
  · exact Prod.Lex.right _ (by simp only [weight]; omega)
  · exact Prod.Lex.left _ _
      (unvisited_cons_lt (OrderedMap.get?_isSome_iff.1 (by simp [*])) ‹_›)

theorem result_unfoldFields (targets : OrderedMap String Partial) (stack : List String) :
    (fields : List (String × Partial)) →
      (unfoldFields targets stack fields).result = resolveFields targets stack fields
  | [] => by rw [unfoldFields, resolveFields]
  | (key, node) :: rest => by
    rw [unfoldFields, resolveFields, ← result_unfold targets stack node]
    dsimp only
    -- The stack that the first field has left is the one that it began with.
    generalize unfold targets stack node = first
    obtain ⟨v, left, rfl⟩ := first
    rw [← result_unfoldFields targets left rest]
termination_by fields => (unvisited targets.keys stack, fieldsWeight fields)
decreasing_by
  · exact Prod.Lex.right _ (by simp only [fieldsWeight]; omega)
  · subst ‹_ = stack›
    exact Prod.Lex.right _ (by simp only [fieldsWeight]; omega)

theorem result_unfoldItems (targets : OrderedMap String Partial) (stack : List String) :
    (items : List Partial) → (unfoldItems targets stack items).result = resolveItems targets stack items
  | [] => by rw [unfoldItems, resolveItems]
  | node :: rest => by
    rw [unfoldItems, resolveItems, ← result_unfold targets stack node]
    dsimp only
    generalize unfold targets stack node = first
    obtain ⟨v, left, rfl⟩ := first
    rw [← result_unfoldItems targets left rest]
termination_by items => (unvisited targets.keys stack, itemsWeight items)
decreasing_by
  · exact Prod.Lex.right _ (by simp only [itemsWeight]; omega)
  · subst ‹_ = stack›
    exact Prod.Lex.right _ (by simp only [itemsWeight]; omega)

end

/-- A whole value begins with an empty stack, and ends with one. -/
theorem unfold_nil (targets : OrderedMap String Partial) (node : Partial) :
    (unfold targets [] node).result = node.resolve targets [] ∧ (unfold targets [] node).left = [] :=
  ⟨result_unfold targets [] node, (unfold targets [] node).left_eq⟩

end Soap.Partial
