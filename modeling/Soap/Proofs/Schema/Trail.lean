import Soap.Proofs.Schema.Depth
import Soap.Proofs.Schema.Reachability

/-!
# Trails through a registry

A trail goes from a declaration into the type that it has, to one of the declarations there, and so on
(`SchemaRegistry.Trail`). It never enters a named type that it is inside of, so there are only finitely many
from each declaration, however the types refer to each other. Each step has a label: where the declaration
stands in the content of the type, or the key under which it is described there.

Trails lead wherever the declarations lead (`Trail.exists_of_reaches`). A trail that keeps out of more types than
it must is a trail (`Trail.mono`), and a trail either keeps out of one more type or goes through it once
(`Trail.avoids_or_enters`).
-/

namespace Soap

open Relation (ReflTransGen)

namespace SchemaRegistry

variable {reg : SchemaRegistry}

/-! ## Types that are entered -/

/-- A declaration has one type at most. -/
theorem Opens.unique {decl : ElementDecl} {ids ids' : List TypeId} {ct ct' : ComplexType}
    (h : reg.Opens decl ids ct) (h' : reg.Opens decl ids' ct') : ids = ids' ∧ ct = ct' := by
  cases h with
  | named htype hfound =>
    cases h' with
    | named htype' hfound' =>
      obtain rfl := Option.some.inj (htype.symm.trans htype')
      obtain ⟨hct, rfl⟩ := Prod.mk.inj (Option.some.inj (hfound.symm.trans hfound'))
      exact ⟨rfl, TypeDef.complex.inj hct⟩
    | inline htype' _ => cases htype.symm.trans htype'
  | inline htype hinline =>
    cases h' with
    | named htype' _ => cases htype.symm.trans htype'
    | inline _ hinline' => exact ⟨rfl, Option.some.inj (hinline.symm.trans hinline')⟩

theorem Opens.contentOf_eq {decl : ElementDecl} {ids : List TypeId} {ct : ComplexType} (h : reg.Opens decl ids ct) :
    reg.contentOf decl = ct.content := by
  cases h with
  | named htype hfound => exact contentOf_complex htype hfound
  | inline htype hinline =>
    simp only [contentOf, htype, hinline]
    rfl

theorem exists_opens_of_leadsTo {decl child : ElementDecl} (h : reg.LeadsTo decl child) :
    ∃ ids ct, reg.Opens decl ids ct ∧ child ∈ ct.content := by
  unfold LeadsTo contentOf at h
  split at h
  · next ref htype =>
    split at h
    · next ct ns hfound => exact ⟨_, ct, .named htype hfound, h⟩
    · cases h
  · next htype =>
    cases hinline : decl.inline with
    | none =>
      rw [hinline] at h
      cases h
    | some ct =>
      rw [hinline] at h
      exact ⟨[], ct, .inline htype hinline, h⟩

theorem Opens.resolves {decl : ElementDecl} {ids : List TypeId} {ct : ComplexType} (h : reg.Opens decl ids ct) :
    reg.Resolves decl := by
  intro ref htype
  cases h with
  | named htype' hfound =>
    obtain rfl := Option.some.inj (htype'.symm.trans htype)
    right
    rw [hfound]
    rfl
  | inline htype' _ => cases htype'.symm.trans htype

/-- A named type has one content, whichever declaration refers to it. -/
theorem Opens.named_unique {decl decl' : ElementDecl} {id : TypeId} {ct ct' : ComplexType}
    (h : reg.Opens decl [id] ct) (h' : reg.Opens decl' [id] ct') : ct = ct' := by
  generalize hids : [id] = ids at h
  cases h with
  | @named ref ns _ _ hfound =>
    obtain rfl : id = (ns, localPart ref) := List.head_eq_of_cons_eq hids
    generalize hids' : [(ns, localPart ref)] = ids' at h'
    cases h' with
    | named _ hfound' =>
      obtain ⟨rfl, hname⟩ := Prod.mk.inj (List.head_eq_of_cons_eq hids')
      exact complex_unique hfound hfound' hname
    | inline => cases hids'
  | inline => cases hids

/-- At most one named type is entered at once. -/
theorem Opens.eq_of_mem {decl : ElementDecl} {ids : List TypeId} {ct : ComplexType} {id : TypeId}
    (h : reg.Opens decl ids ct) (hid : id ∈ ids) : ids = [id] := by
  cases h with
  | named => rw [List.mem_singleton.mp hid]
  | inline => cases hid

/-! ## Trails -/

/-- A trail leads from a declaration to another, outside of the named types `entered` and of each type that it
is inside of. The labels say which declaration of the content is taken, and the last list holds all named
types that the trail ends in, the innermost first. -/
inductive Trail {L : Type} (reg : SchemaRegistry) (pick : List ElementDecl → L → ElementDecl → Prop) :
    List TypeId → ElementDecl → List L → List TypeId → ElementDecl → Prop where
  | here (entered : List TypeId) (decl : ElementDecl) : Trail reg pick entered decl [] entered decl
  | into {entered ids inside : List TypeId} {decl child target : ElementDecl} {ct : ComplexType} {label : L}
      {labels : List L} (hopens : reg.Opens decl ids ct) (hnew : ∀ id ∈ ids, id ∉ entered)
      (hpick : pick ct.content label child) (hrest : Trail reg pick (ids ++ entered) child labels inside target) :
      Trail reg pick entered decl (label :: labels) inside target

namespace Trail

variable {L : Type} {pick : List ElementDecl → L → ElementDecl → Prop} {entered entered' inside inside' : List TypeId}
  {decl target target' : ElementDecl} {labels : List L}

/-- The labels of a trail say where it ends. -/
theorem unique (hpick : ∀ content label child child', pick content label child → pick content label child' →
    child = child') (h : reg.Trail pick entered decl labels inside target)
    (h' : reg.Trail pick entered decl labels inside' target') : inside = inside' ∧ target = target' := by
  induction h with
  | here => cases h'; exact ⟨rfl, rfl⟩
  | into hopens _ hchild _ ih =>
    cases h' with
    | into hopens' _ hchild' hrest' =>
      obtain ⟨rfl, rfl⟩ := hopens.unique hopens'
      obtain rfl := hpick _ _ _ _ hchild hchild'
      exact ih hrest'

/-- A trail leads where the declarations lead. -/
theorem reaches (hmem : ∀ content label child, pick content label child → child ∈ content)
    (h : reg.Trail pick entered decl labels inside target) : ReflTransGen reg.LeadsTo decl target := by
  induction h with
  | here => exact .refl
  | into hopens _ hchild _ ih =>
    refine .head ?_ ih
    rw [LeadsTo, hopens.contentOf_eq]
    exact hmem _ _ _ hchild

/-- What keeps out of more types keeps out of fewer. -/
theorem mono (h : reg.Trail pick entered decl labels inside target) (hsub : entered' ⊆ entered) :
    ∃ inside', reg.Trail pick entered' decl labels inside' target := by
  induction h generalizing entered' with
  | here => exact ⟨_, .here _ _⟩
  | @into entered ids _ _ _ _ _ _ _ hopens hnew hchild _ ih =>
    have hsub' : ids ++ entered' ⊆ ids ++ entered :=
      List.append_subset.mpr ⟨List.subset_append_left .., fun _ hid => List.mem_append_right _ (hsub hid)⟩
    obtain ⟨inside', hrest⟩ := ih hsub'
    exact ⟨inside', .into hopens (fun id hid hmem => hnew id hid (hsub hmem)) hchild hrest⟩

/-- A trail keeps out of a type, or goes on outside of it from one of its declarations. -/
theorem avoids_or_enters (id : TypeId) (h : reg.Trail pick entered decl labels inside target) :
    (∃ inside', reg.Trail pick (id :: entered) decl labels inside' target) ∨
      ∃ decl' ct label child labels' inside', reg.Opens decl' [id] ct ∧ pick ct.content label child ∧
        reg.Trail pick (id :: entered) child labels' inside' target := by
  induction h with
  | here => exact .inl ⟨_, .here _ _⟩
  | @into entered ids inside decl child target ct label labels hopens hnew hchild hrest ih =>
    by_cases hid : id ∈ ids
    · obtain rfl := hopens.eq_of_mem hid
      exact .inr ⟨decl, ct, label, child, labels, inside, hopens, hchild, hrest⟩
    rcases ih with ⟨inside', havoids⟩ | ⟨decl', ct', label', child', labels', inside', hopens', hchild', hlater⟩
    · obtain ⟨inside', havoids'⟩ := havoids.mono List.perm_middle.subset
      refine .inl ⟨inside', .into hopens (fun a ha hmem => ?_) hchild havoids'⟩
      rcases List.mem_cons.mp hmem with rfl | hmem
      · exact hid ha
      · exact hnew a ha hmem
    · obtain ⟨inside', hlater'⟩ := hlater.mono
        (List.cons_subset_cons id (List.subset_append_right ids entered))
      exact .inr ⟨decl', ct', label', child', labels', inside', hopens', hchild', hlater'⟩

/-- A trail goes on with a declaration of the type at its end, if it is not inside of that type. -/
theorem snoc {ids : List TypeId} {ct : ComplexType} {child : ElementDecl} {label : L}
    (h : reg.Trail pick entered decl labels inside target) (hopens : reg.Opens target ids ct)
    (hnew : ∀ id ∈ ids, id ∉ inside) (hchild : pick ct.content label child) :
    reg.Trail pick entered decl (labels ++ [label]) (ids ++ inside) child := by
  induction h with
  | here => exact .into hopens hnew hchild (.here _ _)
  | into hopens' hnew' hchild' _ ih => exact .into hopens' hnew' hchild' (ih hopens hnew)

/-- A trail that is inside of a type came to a declaration that has it, for the first time. -/
theorem exists_entrance {id : TypeId} (h : reg.Trail pick entered decl labels inside target) (hid : id ∈ inside)
    (hnew : id ∉ entered) : ∃ labels' inside' target' ct,
      reg.Trail pick entered decl labels' inside' target' ∧ reg.Opens target' [id] ct ∧ id ∉ inside' := by
  induction h with
  | here => exact absurd hid hnew
  | @into entered ids inside decl child target ct label labels hopens hnew' hchild _ ih =>
    by_cases hmem : id ∈ ids
    · obtain rfl := hopens.eq_of_mem hmem
      exact ⟨[], entered, decl, ct, .here _ _, hopens, hnew⟩
    · have houtside : id ∉ ids ++ entered := fun h => (List.mem_append.mp h).elim hmem hnew
      obtain ⟨labels', inside', target', ct', htrail, hopens', hfresh⟩ := ih hid houtside
      exact ⟨label :: labels', inside', target', ct', .into hopens hnew' hchild htrail, hopens', hfresh⟩

/-- Whatever a declaration leads to, a trail leads there: a type that would be entered again is gone on from where
it was entered first. -/
theorem exists_of_reaches (hpick : ∀ content child, child ∈ content → ∃ label, pick content label child)
    (h : ReflTransGen reg.LeadsTo decl target) : ∃ labels inside, reg.Trail pick [] decl labels inside target := by
  induction h with
  | refl => exact ⟨[], [], .here _ _⟩
  | @tail last child _ hstep ih =>
    obtain ⟨labels, inside, htrail⟩ := ih
    obtain ⟨ids, ct, hopens, hmem⟩ := exists_opens_of_leadsTo hstep
    obtain ⟨label, hchild⟩ := hpick _ _ hmem
    by_cases hagain : ∃ id ∈ ids, id ∈ inside
    · obtain ⟨id, hid, hinside⟩ := hagain
      obtain rfl := hopens.eq_of_mem hid
      obtain ⟨labels', inside', target', ct', htrail', hopens', hfresh⟩ :=
        htrail.exists_entrance hinside List.not_mem_nil
      obtain rfl := hopens.named_unique hopens'
      have hnew : ∀ a ∈ [id], a ∉ inside' := fun a ha => by rwa [List.mem_singleton.mp ha]
      exact ⟨_, _, htrail'.snoc hopens' hnew hchild⟩
    · exact ⟨_, _, htrail.snoc hopens (fun id hid hinside => hagain ⟨id, hid, hinside⟩) hchild⟩

end Trail

end SchemaRegistry

end Soap
