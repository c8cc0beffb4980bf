import Mathlib.Data.List.Lex
import Soap.Proofs.Schema.Trail

/-!
# The first missing reference

The walk for a missing reference keeps one list of what is still to be walked through and one of the types that
it has entered anywhere. Read as a recursion it goes from a declaration into its type and comes back
(`SchemaRegistry.Search`); the list of types is shared by all branches, and the first reference that does not
resolve ends it.

A type that is skipped because it was entered before is either one that the search is still inside of, or one
that it has left without finding anything. Of the latter kind it is known that each trail from its declarations
that keeps out of the former kind ends with a declaration that resolves (`SchemaRegistry.Checked`). So nothing
is missed by skipping, and what is found stands before everything else that does not resolve
(`SchemaRegistry.missingReference_finds_first`), in the order in which a declaration stands before those of its
type and these before the next declaration.
-/

namespace Soap

namespace SchemaRegistry

variable {reg : SchemaRegistry} {decl target : ElementDecl} {rest decls : List ElementDecl} {ids : List TypeId}
  {ct : ComplexType} {active visited visited' : List TypeId} {found : Option String} {ref : String}

/-! ## The search as a recursion -/

/-- The search through declarations, inside of and beside the types `visited`: what it finds, and the types
visited when it ends. -/
inductive Search (reg : SchemaRegistry) :
    List TypeId → List ElementDecl → Option String → List TypeId → Prop where
  | nil {visited : List TypeId} : Search reg visited [] none visited
  /-- The declaration refers to what is not there. -/
  | dangling {visited : List TypeId} {decl : ElementDecl} {rest : List ElementDecl} {ref : String}
      (htype : decl.typeRef = some ref) (hdangling : ¬ reg.Resolves decl) :
      Search reg visited (decl :: rest) (some ref) visited
  /-- The declaration has no content. -/
  | leaf {visited visited' : List TypeId} {decl : ElementDecl} {rest : List ElementDecl} {found : Option String}
      (hresolves : reg.Resolves decl) (hleaf : ∀ ids ct, ¬ reg.Opens decl ids ct)
      (hrest : Search reg visited rest found visited') : Search reg visited (decl :: rest) found visited'
  /-- The type has been visited. -/
  | again {visited visited' : List TypeId} {decl : ElementDecl} {rest : List ElementDecl} {found : Option String}
      {id : TypeId} {ct : ComplexType} (hopens : reg.Opens decl [id] ct) (hvisited : id ∈ visited)
      (hrest : Search reg visited rest found visited') : Search reg visited (decl :: rest) found visited'
  /-- Something is found in the type, which ends the search. -/
  | inside {visited visited' ids : List TypeId} {decl : ElementDecl} {rest : List ElementDecl} {ref : String}
      {ct : ComplexType} (hopens : reg.Opens decl ids ct) (hnew : ∀ id ∈ ids, id ∉ visited)
      (hinside : Search reg (ids ++ visited) ct.content (some ref) visited') :
      Search reg visited (decl :: rest) (some ref) visited'
  /-- Nothing is found in the type, and the search goes on behind it with the types visited there. -/
  | past {visited between visited' ids : List TypeId} {decl : ElementDecl} {rest : List ElementDecl}
      {found : Option String} {ct : ComplexType} (hopens : reg.Opens decl ids ct) (hnew : ∀ id ∈ ids, id ∉ visited)
      (hinside : Search reg (ids ++ visited) ct.content none between)
      (hrest : Search reg between rest found visited') : Search reg visited (decl :: rest) found visited'

/-- Types that have been visited stay so. -/
theorem Search.visited_subset (h : reg.Search visited decls found visited') : visited ⊆ visited' := by
  induction h with
  | nil | dangling => exact List.Subset.refl _
  | leaf _ _ _ ih | again _ _ _ ih => exact ih
  | inside _ _ _ ih => exact List.Subset.trans (List.subset_append_right ..) ih
  | past _ _ _ _ ihinside ihrest =>
    exact List.Subset.trans (List.subset_append_right ..) (List.Subset.trans ihinside ihrest)

/-- A declaration dangles, has no content or has a type. -/
theorem dangling_or_leaf_or_opens (reg : SchemaRegistry) (decl : ElementDecl) :
    (∃ ref, decl.typeRef = some ref ∧ ¬ reg.Resolves decl) ∨
      (reg.Resolves decl ∧ ∀ ids ct, ¬ reg.Opens decl ids ct) ∨ ∃ ids ct, reg.Opens decl ids ct := by
  by_cases hresolves : reg.Resolves decl
  · by_cases hopens : ∃ ids ct, reg.Opens decl ids ct
    · exact .inr (.inr hopens)
    · exact .inr (.inl ⟨hresolves, fun ids ct h => hopens ⟨ids, ct, h⟩⟩)
  · left
    cases htype : decl.typeRef with
    | none => exact absurd (fun _ h => nomatch htype.symm.trans h) hresolves
    | some ref => exact ⟨ref, rfl, hresolves⟩

/-- Content that is entered is smaller, or there are fewer types left. -/
theorem Opens.search_lt (h : reg.Opens decl ids ct) (hnew : ∀ id ∈ ids, id ∉ visited) (rest : List ElementDecl) :
    Prod.Lex (· < ·) (· < ·) (unvisited reg.typeIds (ids ++ visited), totalWeight ct.content)
      (unvisited reg.typeIds visited, totalWeight (decl :: rest)) := by
  obtain ⟨_, _, typeRef, inline, owner⟩ := decl
  cases h with
  | named htype hfound =>
    exact .left _ _ (unvisited_cons_lt (mem_typeIds hfound) (hnew _ (List.mem_singleton_self _)))
  | inline htype hinline =>
    obtain rfl : inline = some ct := hinline
    refine .right _ ?_
    simp only [totalWeight, ElementDecl.weight, inlineWeight]
    omega

/-- The search comes to an end, whatever has been visited. -/
theorem exists_search (reg : SchemaRegistry) (visited : List TypeId) (decls : List ElementDecl) :
    ∃ found visited', reg.Search visited decls found visited' := by
  match decls with
  | [] => exact ⟨_, _, .nil⟩
  | decl :: rest =>
    rcases reg.dangling_or_leaf_or_opens decl with ⟨ref, htype, hdangling⟩ | ⟨hresolves, hleaf⟩ | ⟨ids, ct, hopens⟩
    · exact ⟨_, _, .dangling htype hdangling⟩
    · obtain ⟨found, visited', hrest⟩ := exists_search reg visited rest
      exact ⟨_, _, .leaf hresolves hleaf hrest⟩
    by_cases hagain : ∃ id ∈ ids, id ∈ visited
    · obtain ⟨id, hid, hvisited⟩ := hagain
      obtain rfl := hopens.eq_of_mem hid
      obtain ⟨found, visited', hrest⟩ := exists_search reg visited rest
      exact ⟨_, _, .again hopens hvisited hrest⟩
    · have hnew : ∀ id ∈ ids, id ∉ visited := fun id hid hvisited => hagain ⟨id, hid, hvisited⟩
      obtain ⟨inner, between, hinside⟩ := exists_search reg (ids ++ visited) ct.content
      cases inner with
      | some ref => exact ⟨_, _, .inside hopens hnew hinside⟩
      | none =>
        have hgrown : unvisited reg.typeIds between ≤ unvisited reg.typeIds visited :=
          unvisited_le_of_subset _ (List.Subset.trans (List.subset_append_right ..) hinside.visited_subset)
        obtain ⟨found, visited', hrest⟩ := exists_search reg between rest
        exact ⟨_, _, .past hopens hnew hinside hrest⟩
termination_by (unvisited reg.typeIds visited, totalWeight decls)
decreasing_by
  · exact .right _ (totalWeight_lt_cons _ _)
  · exact .right _ (totalWeight_lt_cons _ _)
  · exact hopens.search_lt hnew rest
  · rcases hgrown.lt_or_eq with hlt | heq
    · exact .left _ _ hlt
    · rw [heq]
      exact .right _ (totalWeight_lt_cons _ _)

/-! ## The walk through a list is the search -/

theorem firstMissing_dangling (htype : decl.typeRef = some ref) (hdangling : ¬ reg.Resolves decl) :
    reg.firstMissing visited (decl :: rest) = some ref := by
  obtain ⟨_, _, typeRef, inline, owner⟩ := decl
  obtain rfl : typeRef = some ref := htype
  have hprimitive : ¬ isPrimitive (localPart ref) = true := fun h =>
    hdangling fun r hr => .inl (by rwa [← Option.some.inj hr])
  have hnone : reg.lookupType? owner ref = none := by
    rw [← Option.not_isSome_iff_eq_none]
    exact fun h => hdangling fun r hr => .inr (by rwa [← Option.some.inj hr])
  rw [firstMissing, if_neg hprimitive]
  split
  · rfl
  · next h => cases hnone.symm.trans h
  · next h => cases hnone.symm.trans h

theorem firstMissing_leaf (hresolves : reg.Resolves decl) (hleaf : ∀ ids ct, ¬ reg.Opens decl ids ct) :
    reg.firstMissing visited (decl :: rest) = reg.firstMissing visited rest := by
  obtain ⟨_, _, typeRef, inline, owner⟩ := decl
  cases typeRef with
  | none =>
    cases inline with
    | none => rw [firstMissing]
    | some ct => exact absurd (.inline rfl rfl) (hleaf [] ct)
  | some ref =>
    rw [firstMissing]
    split
    · rfl
    · next hprimitive =>
      split
      · next hnone =>
        have hsome := (hresolves ref rfl).resolve_left hprimitive
        rw [hnone] at hsome
        cases hsome
      · next ct ns hfound => exact absurd (.named rfl hfound) (hleaf _ ct)
      · rfl

theorem firstMissing_again {id : TypeId} (hopens : reg.Opens decl [id] ct) (hvisited : id ∈ visited) :
    reg.firstMissing visited (decl :: rest) = reg.firstMissing visited rest := by
  obtain ⟨_, _, typeRef, inline, owner⟩ := decl
  generalize hids : [id] = ids at hopens
  cases hopens with
  | inline => cases hids
  | @named ref ns _ htype hfound =>
    obtain rfl : typeRef = some ref := htype
    obtain rfl : id = (ns, localPart ref) := List.head_eq_of_cons_eq hids
    rw [firstMissing, if_neg (not_isPrimitive_of_lookupType? hfound)]
    split
    · next h => cases hfound.symm.trans h
    · next h =>
      obtain ⟨-, rfl⟩ := Prod.mk.inj (Option.some.inj (hfound.symm.trans h))
      rw [dif_pos hvisited]
    · rfl

theorem firstMissing_opens (hopens : reg.Opens decl ids ct) (hnew : ∀ id ∈ ids, id ∉ visited) :
    reg.firstMissing visited (decl :: rest) = reg.firstMissing (ids ++ visited) (ct.content ++ rest) := by
  obtain ⟨_, _, typeRef, inline, owner⟩ := decl
  cases hopens with
  | inline htype hinline =>
    obtain rfl : typeRef = none := htype
    obtain rfl : inline = some ct := hinline
    rw [firstMissing]
    rfl
  | @named ref ns _ htype hfound =>
    obtain rfl : typeRef = some ref := htype
    rw [firstMissing, if_neg (not_isPrimitive_of_lookupType? hfound)]
    split
    · next h => cases hfound.symm.trans h
    · next h =>
      obtain ⟨hct, rfl⟩ := Prod.mk.inj (Option.some.inj (hfound.symm.trans h))
      obtain rfl := TypeDef.complex.inj hct
      rw [dif_neg (hnew _ (List.mem_singleton_self _))]
      rfl
    · next h => cases hfound.symm.trans h

/-- The walk finds what the search through the first declarations finds, or else goes on behind them with the
types visited there. -/
theorem Search.firstMissing_append (h : reg.Search visited decls found visited') (rest : List ElementDecl) :
    reg.firstMissing visited (decls ++ rest) = (found <|> reg.firstMissing visited' rest) := by
  induction h generalizing rest with
  | nil => rfl
  | dangling htype hdangling => exact firstMissing_dangling htype hdangling
  | leaf hresolves hleaf _ ih => exact (firstMissing_leaf hresolves hleaf).trans (ih rest)
  | again hopens hvisited _ ih => exact (firstMissing_again hopens hvisited).trans (ih rest)
  | inside hopens hnew _ ih => exact (firstMissing_opens hopens hnew).trans (ih _)
  | past hopens hnew _ _ ihinside ihrest =>
    exact (firstMissing_opens hopens hnew).trans ((ihinside _).trans (ihrest rest))

theorem Search.firstMissing_eq (h : reg.Search visited decls found visited') :
    reg.firstMissing visited decls = found := by
  have happend := h.firstMissing_append []
  rw [List.append_nil, firstMissing] at happend
  rw [happend]
  cases found <;> rfl

/-! ## Declarations that have been checked -/

/-- A trail that is told where to go by positions. -/
abbrev PositionTrail (reg : SchemaRegistry) :=
  reg.Trail fun (content : List ElementDecl) (position : Nat) child => content[position]? = some child

/-- Each trail from the declaration that keeps out of `active` ends with one that resolves. -/
def Sound (reg : SchemaRegistry) (active : List TypeId) (decl : ElementDecl) : Prop :=
  ∀ positions inside target, reg.PositionTrail active decl positions inside target → reg.Resolves target

theorem Sound.mono {active' : List TypeId} (h : reg.Sound active decl) (hsub : active ⊆ active') :
    reg.Sound active' decl := by
  intro positions inside target htrail
  obtain ⟨inside', htrail'⟩ := htrail.mono hsub
  exact h positions inside' target htrail'

theorem Sound.of_leaf (hresolves : reg.Resolves decl) (hleaf : ∀ ids ct, ¬ reg.Opens decl ids ct) :
    reg.Sound active decl := by
  intro positions inside target htrail
  cases htrail with
  | here => exact hresolves
  | into hopens => exact absurd hopens (hleaf _ _)

/-- A declaration is sound if those of its type are. -/
theorem Sound.of_opens (hopens : reg.Opens decl ids ct)
    (hcontent : ∀ child ∈ ct.content, reg.Sound (ids ++ active) child) :
    reg.Sound active decl := by
  intro positions inside target htrail
  cases htrail with
  | here => exact hopens.resolves
  | into hopens' _ hchild hrest =>
    obtain ⟨rfl, rfl⟩ := hopens.unique hopens'
    exact hcontent _ (List.mem_of_getElem? hchild) _ _ _ hrest

/-- A type that is left need not be kept out of any more, if its own declarations are sound. -/
theorem Sound.leave {id : TypeId} (h : reg.Sound (id :: active) decl)
    (hcontent : ∀ decl' ct, reg.Opens decl' [id] ct → ∀ child ∈ ct.content, reg.Sound (id :: active) child) :
    reg.Sound active decl := by
  intro positions inside target htrail
  rcases htrail.avoids_or_enters id with
    ⟨inside', havoids⟩ | ⟨decl', ct, position, child, positions', inside', hopens, hchild, hlater⟩
  · exact h positions inside' target havoids
  · exact hcontent decl' ct hopens child (List.mem_of_getElem? hchild) positions' inside' target hlater

/-- The search is inside of the types `active`, and the declarations of all other types that it has visited are
sound. -/
structure Checked (reg : SchemaRegistry) (active visited : List TypeId) : Prop where
  active_visited : active ⊆ visited
  sound : ∀ id ∈ visited, id ∉ active → ∀ decl ct, reg.Opens decl [id] ct →
    ∀ child ∈ ct.content, reg.Sound active child

theorem Checked.enter (h : reg.Checked active visited) (ids : List TypeId) :
    reg.Checked (ids ++ active) (ids ++ visited) where
  active_visited := List.append_subset.mpr
    ⟨List.subset_append_left .., fun _ hid => List.mem_append_right _ (h.active_visited hid)⟩
  sound id hid hinactive decl ct hopens child hchild := by
    rw [List.mem_append, not_or] at hinactive
    have hvisited := (List.mem_append.mp hid).resolve_left hinactive.1
    exact (h.sound id hvisited hinactive.2 decl ct hopens child hchild).mono (List.subset_append_right ..)

theorem Checked.leave (h : reg.Checked (ids ++ active) visited) (hopens : reg.Opens decl ids ct)
    (hcontent : ∀ child ∈ ct.content, reg.Sound (ids ++ active) child) : reg.Checked active visited := by
  cases hopens with
  | inline => exact h
  | @named ref ns _ htype hfound =>
    -- The content of the type that is left is the same wherever it is referred to.
    have hleft : ∀ decl' ct', reg.Opens decl' [(ns, localPart ref)] ct' →
        ∀ child ∈ ct'.content, reg.Sound ((ns, localPart ref) :: active) child := by
      intro decl' ct' hopens' child hchild
      obtain rfl := hopens'.named_unique (.named htype hfound)
      exact hcontent child hchild
    refine ⟨List.Subset.trans (List.subset_append_right ..) h.active_visited, ?_⟩
    intro id hid hinactive decl' ct' hopens' child hchild
    by_cases hid' : id = (ns, localPart ref)
    · subst hid'
      exact (hleft decl' ct' hopens' child hchild).leave hleft
    · have hinactive' : id ∉ [(ns, localPart ref)] ++ active := by
        intro hmem
        rcases List.mem_cons.mp hmem with heq | hmem
        · exact hid' heq
        · exact hinactive hmem
      exact (h.sound id hid hinactive' decl' ct' hopens' child hchild).leave hleft

/-- A declaration whose type has been visited is sound, inside of the type and beside it. -/
theorem Checked.sound_again {id : TypeId} (h : reg.Checked active visited) (hopens : reg.Opens decl [id] ct)
    (hvisited : id ∈ visited) : reg.Sound active decl := by
  by_cases hactive : id ∈ active
  · intro positions inside target htrail
    cases htrail with
    | here => exact hopens.resolves
    | into hopens' hnew =>
      obtain ⟨rfl, -⟩ := hopens.unique hopens'
      exact absurd hactive (hnew id (List.mem_singleton_self _))
  · refine .of_opens hopens fun child hchild => ?_
    exact (h.sound id hvisited hactive decl ct hopens child hchild).mono (List.subset_append_right ..)

/-- A search that finds nothing has checked its declarations. -/
theorem Search.sound_of_none (h : reg.Search visited decls none visited') (hchecked : reg.Checked active visited) :
    (∀ decl ∈ decls, reg.Sound active decl) ∧ reg.Checked active visited' := by
  generalize hfound : none = found at h
  induction h generalizing active with
  | nil => exact ⟨by simp, hchecked⟩
  | dangling | inside => cases hfound
  | leaf hresolves hleaf _ ih =>
    obtain ⟨hrest, hlast⟩ := ih hchecked hfound
    exact ⟨List.forall_mem_cons.mpr ⟨.of_leaf hresolves hleaf, hrest⟩, hlast⟩
  | again hopens hvisited _ ih =>
    obtain ⟨hrest, hlast⟩ := ih hchecked hfound
    exact ⟨List.forall_mem_cons.mpr ⟨hchecked.sound_again hopens hvisited, hrest⟩, hlast⟩
  | past hopens hnew _ _ ihinside ihrest =>
    obtain ⟨hcontent, hbetween⟩ := ihinside (hchecked.enter _) rfl
    obtain ⟨hrest, hlast⟩ := ihrest (hbetween.leave hopens hcontent) hfound
    exact ⟨List.forall_mem_cons.mpr ⟨.of_opens hopens hcontent, hrest⟩, hlast⟩

/-! ## The first declaration that dangles -/

/-- Of the places where declarations stand, one that refers to `ref` in vain comes before all others that do not
resolve. -/
def IsFirst (reg : SchemaRegistry) (place : List Nat → ElementDecl → Prop) (ref : String) : Prop :=
  ∃ positions target, place positions target ∧ target.typeRef = some ref ∧ ¬ reg.Resolves target ∧
    ∀ positions' target', place positions' target' → positions' < positions → reg.Resolves target'

/-- The places that trails from a declaration lead to. -/
def Reached (reg : SchemaRegistry) (active : List TypeId) (decl : ElementDecl) (positions : List Nat)
    (target : ElementDecl) : Prop :=
  ∃ inside, reg.PositionTrail active decl positions inside target

/-- The places that trails from several declarations lead to. -/
inductive ReachedFrom (reg : SchemaRegistry) (active : List TypeId) (decls : List ElementDecl) :
    List Nat → ElementDecl → Prop where
  | mk {decl target : ElementDecl} {position : Nat} {positions : List Nat} (hdecl : decls[position]? = some decl)
      (hreached : reg.Reached active decl positions target) :
      ReachedFrom reg active decls (position :: positions) target

/-- What a declaration leads to stands before everything behind it. -/
theorem IsFirst.head (h : reg.IsFirst (reg.Reached active decl) ref) :
    reg.IsFirst (reg.ReachedFrom active (decl :: rest)) ref := by
  obtain ⟨positions, target, hplace, htype, hdangling, hbefore⟩ := h
  refine ⟨0 :: positions, target, .mk rfl hplace, htype, hdangling, fun _ target' hplace' hlt => ?_⟩
  obtain ⟨hdecl, hreached⟩ := hplace'
  rcases List.cons_lt_cons_iff.mp hlt with hlt' | ⟨rfl, hlt'⟩
  · cases hlt'
  · obtain rfl := Option.some.inj hdecl
    exact hbefore _ target' hreached hlt'

/-- A declaration that is sound may stand before. -/
theorem IsFirst.tail (h : reg.IsFirst (reg.ReachedFrom active rest) ref) (hsound : reg.Sound active decl) :
    reg.IsFirst (reg.ReachedFrom active (decl :: rest)) ref := by
  obtain ⟨_, target, @⟨_, _, position, positions, hdecl, hreached⟩, htype, hdangling, hbefore⟩ := h
  refine ⟨(position + 1) :: positions, target, .mk hdecl hreached, htype, hdangling, fun _ target' hplace' hlt => ?_⟩
  obtain @⟨_, _, position', positions', hdecl', hreached'⟩ := hplace'
  cases position' with
  | zero =>
    obtain rfl := Option.some.inj hdecl'
    obtain ⟨inside, htrail⟩ := hreached'
    exact hsound _ inside target' htrail
  | succ position' =>
    refine hbefore _ target' (.mk hdecl' hreached') (List.cons_lt_cons_iff.mpr ?_)
    rcases List.cons_lt_cons_iff.mp hlt with hlt | ⟨heq, hlt⟩
    · exact .inl (Nat.lt_of_succ_lt_succ hlt)
    · exact .inr ⟨Nat.succ.inj heq, hlt⟩

/-- What is first in the type of a declaration is first from the declaration, which resolves itself. -/
theorem IsFirst.of_opens (h : reg.IsFirst (reg.ReachedFrom (ids ++ active) ct.content) ref)
    (hopens : reg.Opens decl ids ct) (hnew : ∀ id ∈ ids, id ∉ active) : reg.IsFirst (reg.Reached active decl) ref := by
  obtain ⟨_, target, ⟨hchild, inside, htrail⟩, htype, hdangling, hbefore⟩ := h
  refine ⟨_, target, ⟨inside, .into hopens hnew hchild htrail⟩, htype, hdangling, fun _ target' hplace' hlt => ?_⟩
  obtain ⟨inside', htrail'⟩ := hplace'
  cases htrail' with
  | here => exact hopens.resolves
  | into hopens' _ hchild' hrest' =>
    obtain ⟨rfl, rfl⟩ := hopens.unique hopens'
    exact hbefore _ target' (.mk hchild' ⟨inside', hrest'⟩) hlt

/-- A declaration that dangles is first among what it leads to. -/
theorem IsFirst.here (htype : decl.typeRef = some ref) (hdangling : ¬ reg.Resolves decl) :
    reg.IsFirst (reg.Reached active decl) ref :=
  ⟨[], decl, ⟨active, .here _ _⟩, htype, hdangling, fun _ _ _ hlt => absurd hlt (List.not_lt_nil _)⟩

/-- A search that finds something has found what is first. -/
theorem Search.isFirst (h : reg.Search visited decls (some ref) visited') (hchecked : reg.Checked active visited) :
    reg.IsFirst (reg.ReachedFrom active decls) ref := by
  generalize hfound : some ref = found at h
  induction h generalizing active with
  | nil => cases hfound
  | dangling htype hdangling =>
    cases hfound
    exact (IsFirst.here htype hdangling).head
  | leaf hresolves hleaf _ ih => exact (ih hchecked hfound).tail (.of_leaf hresolves hleaf)
  | again hopens hvisited _ ih => exact (ih hchecked hfound).tail (hchecked.sound_again hopens hvisited)
  | inside hopens hnew _ ih =>
    cases hfound
    have hinside := ih (hchecked.enter _) rfl
    exact (hinside.of_opens hopens fun id hid hactive => hnew id hid (hchecked.active_visited hactive)).head
  | past hopens _ hinside _ _ ihrest =>
    obtain ⟨hcontent, hbetween⟩ := hinside.sound_of_none (hchecked.enter _)
    exact (ihrest (hbetween.leave hopens hcontent) hfound).tail (.of_opens hopens hcontent)

/-- Nothing has been entered at the start. -/
theorem Checked.nil : reg.Checked [] [] := ⟨List.Subset.refl _, fun _ h => nomatch h⟩

/-- What is first of one declaration alone. -/
theorem IsFirst.singleton (h : reg.IsFirst (reg.ReachedFrom active [decl]) ref) :
    reg.IsFirst (reg.Reached active decl) ref := by
  obtain ⟨_, target, @⟨_, _, position, positions, hdecl, hreached⟩, htype, hdangling, hbefore⟩ := h
  obtain ⟨rfl, rfl⟩ : position = 0 ∧ decl = _ := by
    cases position with
    | zero => exact ⟨rfl, Option.some.inj hdecl⟩
    | succ => cases hdecl
  refine ⟨positions, target, hreached, htype, hdangling, fun _ target' hreached' hlt => ?_⟩
  exact hbefore _ target' (.mk rfl hreached') (List.cons_lt_cons_iff.mpr (.inr ⟨rfl, hlt⟩))

/-- There is one first reference at most. -/
theorem IsFirst.unique {ref' : String} (h : reg.IsFirst (reg.Reached active decl) ref)
    (h' : reg.IsFirst (reg.Reached active decl) ref') : ref = ref' := by
  obtain ⟨positions, target, ⟨inside, htrail⟩, htype, hdangling, hbefore⟩ := h
  obtain ⟨positions', target', ⟨inside', htrail'⟩, htype', hdangling', hbefore'⟩ := h'
  rcases lt_trichotomy positions positions' with hlt | rfl | hlt
  · exact absurd (hbefore' positions target ⟨inside, htrail⟩ hlt) hdangling
  · have hpick : ∀ (content : List ElementDecl) (position : Nat) child child', content[position]? = some child →
        content[position]? = some child' → child = child' := fun _ _ _ _ h h' => Option.some.inj (h.symm.trans h')
    obtain ⟨-, rfl⟩ := htrail.unique hpick htrail'
    exact Option.some.inj (htype.symm.trans htype')
  · exact absurd (hbefore positions' target' ⟨inside', htrail'⟩ hlt) hdangling'

/-- Trails from a declaration lead to everything that it leads to, and to nothing else. -/
theorem reached_iff : (∃ positions, reg.Reached [] decl positions target) ↔
    Relation.ReflTransGen reg.LeadsTo decl target := by
  constructor
  · rintro ⟨positions, inside, htrail⟩
    exact htrail.reaches fun _ _ _ => List.mem_of_getElem?
  · intro h
    obtain ⟨positions, inside, htrail⟩ := Trail.exists_of_reaches (fun _ _ => List.getElem?_of_mem) h
    exact ⟨positions, inside, htrail⟩

/-- The walk for a missing reference is the search that shares the visited types among its branches. It finds
nothing just when everything that the declaration leads to resolves, and otherwise the reference that is first
of all that the declaration leads to. -/
theorem missingReference_finds_first (reg : SchemaRegistry) (decl : ElementDecl) :
    (∀ found, (∃ visited, reg.Search [] [decl] found visited) ↔ found = reg.missingReference decl) ∧
      (reg.missingReference decl = none ↔ reg.AllResolve decl) ∧
      (∀ target, (∃ positions, reg.Reached [] decl positions target) ↔
        Relation.ReflTransGen reg.LeadsTo decl target) ∧
      ∀ ref, reg.missingReference decl = some ref ↔ reg.IsFirst (reg.Reached [] decl) ref := by
  have hsearch : ∀ found, (∃ visited, reg.Search [] [decl] found visited) ↔ found = reg.missingReference decl := by
    intro found
    constructor
    · rintro ⟨visited, h⟩
      exact h.firstMissing_eq.symm
    · rintro rfl
      obtain ⟨found, visited, h⟩ := reg.exists_search [] [decl]
      refine ⟨visited, ?_⟩
      rw [missingReference, h.firstMissing_eq]
      exact h
  have hfirst : ∀ ref, reg.missingReference decl = some ref → reg.IsFirst (reg.Reached [] decl) ref := by
    intro ref h
    obtain ⟨visited, h⟩ := (hsearch (some ref)).mpr h.symm
    exact (h.isFirst .nil).singleton
  refine ⟨hsearch, missingReference_eq_none_iff, fun _ => reached_iff, fun ref => ⟨hfirst ref, fun h => ?_⟩⟩
  cases hmissing : reg.missingReference decl with
  | some ref' => rw [(hfirst ref' hmissing).unique h]
  | none =>
    obtain ⟨positions, target, hreached, -, hdangling, -⟩ := h
    exact absurd (missingReference_eq_none_iff.mp hmissing target (reached_iff.mp ⟨positions, hreached⟩)) hdangling

end SchemaRegistry

end Soap
