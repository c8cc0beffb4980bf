import Soap.Proofs.Schema.Trail

/-!
# Describing with one list

A description can be made with one list of the types that are being described: a type is put on it before its
content is described and the last one is taken off afterwards (`Describer`). That such a describer comes to an
end, and that it does not mix up its list, is what makes the path of `SchemaRegistry.describeDecl` the same
thing: from any list, and for any declaration, the describer gives that description and the list that it started
with (`Describer.describes_by_the_path`).

In the description of a declaration, what stands at the end of a row of keys is the description of the
declaration that the trail of these keys leads to, inside of the types that the trail is inside of
(`SchemaRegistry.at?_describeDecl`). It is cut if its own type is one of them.
-/

namespace Soap

namespace SchemaRegistry

variable {reg : SchemaRegistry} {active : List TypeId} {owner : Option String} {ref ns : String}

/-! ## References that are leaves -/

theorem describeRef_isPrimitive (h : isPrimitive (localPart ref) = true) :
    reg.describeRef active owner ref = .leaf ref := by
  rw [describeRef, if_pos h]

theorem describeRef_none (h : reg.lookupType? owner ref = none) : reg.describeRef active owner ref = .leaf ref := by
  rw [describeRef]
  split
  · rfl
  split
  · next h' => cases h.symm.trans h'
  · next h' => cases h.symm.trans h'
  · rfl

/-- A reference to a complex type that is being described is cut. -/
theorem describeRef_cut {ct : ComplexType} (h : reg.lookupType? owner ref = some (.complex ct, ns))
    (hactive : (ns, localPart ref) ∈ active) : reg.describeRef active owner ref = .leaf ref := by
  rw [describeRef, if_neg (not_isPrimitive_of_lookupType? h)]
  split
  · next h' =>
    obtain ⟨-, rfl⟩ := Prod.mk.inj (Option.some.inj (h.symm.trans h'))
    rw [dif_pos hactive]
  · next h' => cases h.symm.trans h'
  · rfl

end SchemaRegistry

/-! ## The describer -/

/-- What describes keeps a list of the types being described, the innermost first. No result stands for a
description that goes deeper than it may. -/
abbrev Describer := StateT (List TypeId) Option

namespace Describer

/-- Describe the declarations of a content model one after the other. -/
def content (self : ElementDecl → Describer (String × Description)) (decls : List ElementDecl) :
    Describer Description := do
  let entries ← decls.mapM self
  pure (.fields (OrderedMap.ofList entries))

/-- Describe a type reference. -/
def reference (reg : SchemaRegistry) (self : ElementDecl → Describer (String × Description))
    (owner : Option String) (ref : String) : Describer Description :=
  if isPrimitive (localPart ref) then pure (.leaf ref)
  else match reg.lookupType? owner ref with
    | some (.complex ct, ns) => do
      let active ← get
      if active.contains (ns, localPart ref) then
        pure (.leaf ref)
      else
        modify (List.cons (ns, localPart ref))
        let description ← content self ct.content
        modify List.tail
        pure description
    | some (.simple st, _) => pure (.ofSimple st)
    | none => pure (.leaf ref)

/-- Describe a declaration under its key; `self` describes those of its type. -/
def step (reg : SchemaRegistry) (self : ElementDecl → Describer (String × Description)) (decl : ElementDecl) :
    Describer (String × Description) := do
  let description ← match decl.typeRef, decl.inline with
    | some ref, _ => reference reg self decl.owner ref
    | none, some ct => content self ct.content
    | none, none => pure .empty
  pure (decl.key, description)

/-- Describe a declaration, going no deeper than `depth`. -/
def element (reg : SchemaRegistry) (depth : Nat) (decl : ElementDecl) : Describer (String × Description) :=
  match depth with
  | 0 => failure
  | depth + 1 => step reg (element reg depth) decl

variable {reg : SchemaRegistry} {self : ElementDecl → Describer (String × Description)} {decl : ElementDecl}
  {decls : List ElementDecl} {ids active after : List TypeId} {ct : ComplexType}

/-! ## One step -/

/-- The describer gives the description of the declaration inside the types of its list, and the same list. -/
def Answers (reg : SchemaRegistry) (self : ElementDecl → Describer (String × Description)) (active : List TypeId)
    (decl : ElementDecl) : Prop :=
  self decl active = some ((decl.key, reg.describeDecl active decl), active)

theorem bind_run {α β : Type} (x : Describer α) (f : α → Describer β) (active : List TypeId) :
    (x >>= f) active = (x active).bind fun result => f result.1 result.2 := rfl

theorem pure_run {α : Type} (a : α) (active : List TypeId) : (pure a : Describer α) active = some (a, active) := rfl

theorem get_run (active : List TypeId) : (get : Describer (List TypeId)) active = some (active, active) := rfl

theorem modify_run (f : List TypeId → List TypeId) (active : List TypeId) :
    (modify f : Describer Unit) active = some ((), f active) := rfl

theorem content_run : content self decls active =
    (decls.mapM self active).map fun result => (.fields (OrderedMap.ofList result.1), result.2) := by
  rw [content, bind_run, Option.map_eq_bind]
  rfl

theorem mapM_cons_run : (decl :: decls).mapM self active = (self decl active).bind fun first =>
    (decls.mapM self first.2).map fun rest => (first.1 :: rest.1, rest.2) := by
  rw [List.mapM_cons, bind_run]
  congr 1
  funext first
  rw [bind_run, Option.map_eq_bind]
  rfl

/-- A declaration has a type that is not being described, or it is described without its content. -/
theorem opens_new_or_closed (reg : SchemaRegistry) (active : List TypeId) (decl : ElementDecl) :
    (∃ ids ct, reg.Opens decl ids ct ∧ ∀ id ∈ ids, id ∉ active) ∨
      ∀ ids ct, reg.Opens decl ids ct → ∃ id ∈ ids, id ∈ active := by
  by_cases hopens : ∃ ids ct, reg.Opens decl ids ct
  · obtain ⟨ids, ct, hopens⟩ := hopens
    by_cases hmem : ∃ id ∈ ids, id ∈ active
    · refine .inr fun ids' ct' hopens' => ?_
      obtain ⟨rfl, -⟩ := hopens.unique hopens'
      exact hmem
    · exact .inl ⟨ids, ct, hopens, fun id hid hactive => hmem ⟨id, hid, hactive⟩⟩
  · exact .inr fun ids ct h => absurd ⟨ids, ct, h⟩ hopens

/-- A type that is not being described is put on the list, its content described, and the last one taken off. -/
theorem step_opens (hopens : reg.Opens decl ids ct) (hnew : ∀ id ∈ ids, id ∉ active) : step reg self decl active =
    (content self ct.content (ids ++ active)).map fun result =>
      ((decl.key, result.1), result.2.drop ids.length) := by
  cases hopens with
  | inline htype hinline =>
    simp only [step, htype, hinline, bind_run, pure_run, Option.map_eq_bind]
    rfl
  | @named ref ns _ htype hfound =>
    have hout : ¬ active.contains (ns, localPart ref) = true := fun h =>
      hnew _ (List.mem_singleton_self _) (List.contains_iff_mem.mp h)
    simp only [step, htype, reference, hfound, if_neg (SchemaRegistry.not_isPrimitive_of_lookupType? hfound),
      bind_run, get_run, Option.bind_some, if_neg hout, modify_run, pure_run, Option.bind_assoc,
      Option.map_eq_bind, List.length_singleton, List.drop_one]
    rfl

/-- Everything else is described at once, and has no fields. -/
theorem step_closed (hclosed : ∀ ids ct, reg.Opens decl ids ct → ∃ id ∈ ids, id ∈ active) :
    Answers reg (step reg self) active decl ∧ (reg.describeDecl active decl).fields?.getD [] = [] := by
  obtain ⟨name, occurs, typeRef, inline, owner⟩ := decl
  unfold Answers step
  cases typeRef with
  | none =>
    cases inline with
    | some ct =>
      obtain ⟨_, hmem, -⟩ := hclosed [] ct (.inline rfl rfl)
      cases hmem
    | none =>
      rw [SchemaRegistry.describeDecl]
      exact ⟨rfl, rfl⟩
  | some ref =>
    rw [SchemaRegistry.describeDecl]
    by_cases hprimitive : isPrimitive (localPart ref) = true
    · rw [SchemaRegistry.describeRef_isPrimitive hprimitive]
      refine ⟨?_, rfl⟩
      simp only [reference, if_pos hprimitive, bind_run, pure_run, Option.bind_some]
    cases hfound : reg.lookupType? owner ref with
    | none =>
      rw [SchemaRegistry.describeRef_none hfound]
      refine ⟨?_, rfl⟩
      simp only [reference, if_neg hprimitive, hfound, bind_run, pure_run, Option.bind_some]
    | some found =>
      obtain ⟨type, ns⟩ := found
      cases type with
      | simple st =>
        rw [SchemaRegistry.describeRef_simple hfound]
        constructor
        · simp only [reference, if_neg hprimitive, hfound, bind_run, pure_run, Option.bind_some]
        · rw [Description.ofSimple]
          split <;> rfl
      | complex ct =>
        obtain ⟨id, hid, hactive⟩ := hclosed _ ct (.named rfl hfound)
        obtain rfl := List.mem_singleton.mp hid
        rw [SchemaRegistry.describeRef_cut hfound hactive]
        refine ⟨?_, rfl⟩
        simp only [reference, if_neg hprimitive, hfound, bind_run, get_run, pure_run, Option.bind_some,
          if_pos (List.contains_iff_mem.mpr hactive)]

/-! ## Any answer is the description -/

/-- Whatever is answered is the description inside the types of the list, and leaves the list as it was. -/
def Sound (reg : SchemaRegistry) (self : ElementDecl → Describer (String × Description)) : Prop :=
  ∀ decl active result, self decl active = some result →
    result = ((decl.key, reg.describeDecl active decl), active)

theorem Sound.mapM (h : Sound reg self) {result : List (String × Description) × List TypeId}
    (hrun : decls.mapM self active = some result) : result = (reg.describeContent active decls, active) := by
  induction decls generalizing result with
  | nil =>
    obtain rfl := Option.some.inj hrun
    rw [SchemaRegistry.describeContent]
    rfl
  | cons decl decls ih =>
    rw [mapM_cons_run] at hrun
    obtain ⟨first, hfirst, hmapped⟩ := Option.bind_eq_some_iff.mp hrun
    obtain rfl := h decl active first hfirst
    obtain ⟨rest, hrest, rfl⟩ := Option.map_eq_some_iff.mp hmapped
    obtain rfl := ih hrest
    rw [SchemaRegistry.describeContent]

theorem Sound.content (h : Sound reg self) {result : Description × List TypeId}
    (hrun : content self decls active = some result) :
    result = (.fields (OrderedMap.ofList (reg.describeContent active decls)), active) := by
  rw [content_run] at hrun
  obtain ⟨entries, hentries, rfl⟩ := Option.map_eq_some_iff.mp hrun
  rw [h.mapM hentries]

theorem Sound.step (h : Sound reg self) : Sound reg (step reg self) := by
  intro decl active result hrun
  rcases opens_new_or_closed reg active decl with ⟨ids, ct, hopens, hnew⟩ | hclosed
  · rw [step_opens hopens hnew] at hrun
    obtain ⟨inner, hinner, rfl⟩ := Option.map_eq_some_iff.mp hrun
    rw [h.content hinner, hopens.describeDecl_eq hnew, List.drop_left]
  · exact Option.some.inj (hrun.symm.trans (step_closed hclosed).1)

theorem sound_element (reg : SchemaRegistry) (depth : Nat) : Sound reg (element reg depth) := by
  induction depth with
  | zero => exact fun _ _ _ hrun => nomatch hrun
  | succ depth ih => exact ih.step

/-! ## There is an answer -/

theorem mapM_of_answers (h : ∀ decl ∈ decls, Answers reg self active decl) :
    decls.mapM self active = some (reg.describeContent active decls, active) := by
  induction decls with
  | nil =>
    rw [SchemaRegistry.describeContent]
    rfl
  | cons decl decls ih =>
    obtain ⟨hdecl, hrest⟩ := List.forall_mem_cons.mp h
    rw [mapM_cons_run, hdecl, Option.bind_some, ih hrest, SchemaRegistry.describeContent]
    rfl

theorem content_of_answers (h : ∀ decl ∈ decls, Answers reg self active decl) : content self decls active =
    some (.fields (OrderedMap.ofList (reg.describeContent active decls)), active) := by
  rw [content_run, mapM_of_answers h]
  rfl

theorem step_of_answers (hopens : reg.Opens decl ids ct) (hnew : ∀ id ∈ ids, id ∉ active)
    (h : ∀ child ∈ ct.content, Answers reg self (ids ++ active) child) : Answers reg (step reg self) active decl := by
  unfold Answers
  rw [step_opens hopens hnew, content_of_answers h, hopens.describeDecl_eq hnew, Option.map_some, List.drop_left]

/-- From this depth on, there is an answer. -/
def EndsBy (reg : SchemaRegistry) (active : List TypeId) (decl : ElementDecl) (bound : Nat) : Prop :=
  ∀ depth, bound ≤ depth → Answers reg (element reg depth) active decl

/-- Finitely many descriptions end by a common depth. -/
theorem exists_endsBy_all (h : ∀ decl ∈ decls, ∃ bound, EndsBy reg active decl bound) :
    ∃ bound, ∀ decl ∈ decls, EndsBy reg active decl bound := by
  induction decls with
  | nil => exact ⟨0, by simp⟩
  | cons decl decls ih =>
    obtain ⟨⟨first, hfirst⟩, hrest⟩ := List.forall_mem_cons.mp h
    obtain ⟨rest, hrest⟩ := ih hrest
    refine ⟨max first rest, List.forall_mem_cons.mpr ⟨fun depth hdepth => ?_, fun d hd depth hdepth => ?_⟩⟩
    · exact hfirst depth (Nat.le_trans (Nat.le_max_left ..) hdepth)
    · exact hrest d hd depth (Nat.le_trans (Nat.le_max_right ..) hdepth)

theorem weight_le_of_mem {child : ElementDecl} (h : child ∈ decls) : child.weight ≤ totalWeight decls := by
  induction decls with
  | nil => cases h
  | cons decl decls ih =>
    rw [totalWeight]
    rcases List.mem_cons.mp h with rfl | h
    · exact Nat.le_add_right ..
    · exact Nat.le_trans (ih h) (Nat.le_add_left ..)

/-- A declaration in the content of another is smaller, or there are fewer types left. -/
theorem child_lt {child : ElementDecl} (hopens : reg.Opens decl ids ct) (hnew : ∀ id ∈ ids, id ∉ active)
    (hchild : child ∈ ct.content) : Prod.Lex (· < ·) (· < ·) (unvisited reg.typeIds (ids ++ active), child.weight)
      (unvisited reg.typeIds active, decl.weight) := by
  obtain ⟨_, _, typeRef, inline, owner⟩ := decl
  cases hopens with
  | named htype hfound =>
    exact .left _ _ (unvisited_cons_lt (SchemaRegistry.mem_typeIds hfound) (hnew _ (List.mem_singleton_self _)))
  | inline htype hinline =>
    obtain rfl : inline = some ct := hinline
    have hle := weight_le_of_mem hchild
    refine .right _ ?_
    simp only [ElementDecl.weight, inlineWeight]
    omega

/-- The describer comes to an end, whatever is being described. -/
theorem exists_endsBy (reg : SchemaRegistry) (active : List TypeId) (decl : ElementDecl) :
    ∃ bound, EndsBy reg active decl bound := by
  rcases opens_new_or_closed reg active decl with ⟨ids, ct, hopens, hnew⟩ | hclosed
  · have hchildren : ∀ child ∈ ct.content, ∃ bound, EndsBy reg (ids ++ active) child bound :=
      fun child hchild => exists_endsBy reg (ids ++ active) child
    obtain ⟨bound, hbound⟩ := exists_endsBy_all hchildren
    refine ⟨bound + 1, fun depth hdepth => ?_⟩
    cases depth with
    | zero => cases hdepth
    | succ depth =>
      have hinside : ∀ child ∈ ct.content, Answers reg (element reg depth) (ids ++ active) child :=
        fun child hchild => hbound child hchild depth (Nat.le_of_succ_le_succ hdepth)
      exact step_of_answers hopens hnew hinside
  · refine ⟨1, fun depth hdepth => ?_⟩
    cases depth with
    | zero => cases hdepth
    | succ depth => exact (step_closed hclosed).1
termination_by (unvisited reg.typeIds active, decl.weight)
decreasing_by exact child_lt hopens hnew hchild

/-! ## Calls of the describer -/

/-- From the list `active`, a call ends at some depth and at all greater ones, with this answer and the same
list, and at no depth does it end with anything else. -/
structure Gives {α : Type} (call : Nat → Describer α) (active : List TypeId) (answer : α) : Prop where
  ends : ∃ bound, ∀ depth, bound ≤ depth → call depth active = some (answer, active)
  only : ∀ depth result, call depth active = some result → result = (answer, active)

theorem gives_element (reg : SchemaRegistry) (active : List TypeId) (decl : ElementDecl) :
    Gives (fun depth => element reg depth decl) active (decl.key, reg.describeDecl active decl) where
  ends := exists_endsBy reg active decl
  only depth := sound_element reg depth decl active

/-- Siblings do not know of each other. -/
theorem gives_mapM (reg : SchemaRegistry) (active : List TypeId) (decls : List ElementDecl) :
    Gives (fun depth => decls.mapM (element reg depth)) active
      (decls.map fun decl => (decl.key, reg.describeDecl active decl)) where
  ends := by
    obtain ⟨bound, hbound⟩ := exists_endsBy_all fun decl (_ : decl ∈ decls) => exists_endsBy reg active decl
    refine ⟨bound, fun depth hdepth => ?_⟩
    rw [mapM_of_answers fun decl hdecl => hbound decl hdecl depth hdepth, SchemaRegistry.describeContent_eq_map]
  only depth result hrun := by
    rw [(sound_element reg depth).mapM hrun, SchemaRegistry.describeContent_eq_map]

end Describer

/-! ## What can be described -/

/-- A description is asked for of a declaration, a complex type or a type reference. -/
inductive Describable where
  | element (decl : ElementDecl)
  | complex (ct : ComplexType)
  | type (owner : Option String) (ref : String)

namespace Describable

/-- The description, as the registry gives it. -/
def description (reg : SchemaRegistry) : Describable → Description
  | element decl => (reg.describeElement decl).2
  | complex ct => reg.describeComplex ct
  | type owner ref => reg.describeType owner ref

/-- The call of the describer that is made for it; what it calls goes no deeper than `depth`. -/
def call (reg : SchemaRegistry) (depth : Nat) : Describable → Describer Description
  | element decl => Prod.snd <$> Describer.step reg (Describer.element reg depth) decl
  | complex ct => Describer.content (Describer.element reg depth) ct.content
  | type owner ref => Describer.reference reg (Describer.element reg depth) owner ref

/-- A declaration that has the type to be described. -/
def decl : Describable → ElementDecl
  | element decl => decl
  | complex ct => { name := "", occurs := ⟨none, none⟩, typeRef := none, inline := some ct, owner := none }
  | type owner ref => { name := "", occurs := ⟨none, none⟩, typeRef := some ref, inline := none, owner }

theorem description_eq (reg : SchemaRegistry) (root : Describable) :
    root.description reg = reg.describeDecl [] root.decl := by
  cases root with
  | element decl => rfl
  | complex ct =>
    rw [decl, SchemaRegistry.describeDecl]
    rfl
  | type owner ref =>
    rw [decl, SchemaRegistry.describeDecl]
    rfl

theorem call_eq (reg : SchemaRegistry) (depth : Nat) (root : Describable) :
    root.call reg depth = Prod.snd <$> Describer.element reg (depth + 1) root.decl := by
  cases root with
  | element decl => rfl
  | complex ct =>
    simp only [call, decl, Describer.element, Describer.step, map_bind, map_pure, bind_pure]
  | type owner ref =>
    simp only [call, decl, Describer.element, Describer.step, map_bind, map_pure, bind_pure]

/-- A description comes to its end, from any list, which it leaves as it was. -/
theorem gives_call (reg : SchemaRegistry) (active : List TypeId) (root : Describable) :
    Describer.Gives (fun depth => root.call reg depth) active (reg.describeDecl active root.decl) where
  ends := by
    obtain ⟨bound, hbound⟩ := (Describer.gives_element reg active root.decl).ends
    refine ⟨bound, fun depth hdepth => ?_⟩
    rw [call_eq, map_eq_pure_bind, Describer.bind_run, hbound (depth + 1) (Nat.le_succ_of_le hdepth)]
    rfl
  only depth result hrun := by
    rw [call_eq, map_eq_pure_bind, Describer.bind_run] at hrun
    obtain ⟨inner, hinner, hresult⟩ := Option.bind_eq_some_iff.mp hrun
    rw [(Describer.gives_element reg active root.decl).only (depth + 1) inner hinner] at hresult
    exact (Option.some.inj hresult).symm

end Describable

/-! ## What stands where -/

/-- The description at the end of a row of keys. -/
def Description.at? : Description → List String → Option Description
  | d, [] => some d
  | d, key :: keys => (d.fields?.bind (OrderedMap.get? · key)).bind (at? · keys)

namespace SchemaRegistry

variable {reg : SchemaRegistry} {active : List TypeId} {decl target : ElementDecl} {ids : List TypeId}
  {ct : ComplexType}

/-- A trail that is told where to go by keys. Of several declarations with one key the last is described. -/
abbrev KeyTrail (reg : SchemaRegistry) :=
  reg.Trail fun (content : List ElementDecl) (key : String) child =>
    content.reverse.find? (fun d => decide (d.key = key)) = some child

theorem get?_describeContent (reg : SchemaRegistry) (active : List TypeId) (content : List ElementDecl) (key : String) :
    (OrderedMap.ofList (reg.describeContent active content)).get? key =
      (content.reverse.find? fun d => decide (d.key = key)).map (reg.describeDecl active) := by
  rw [OrderedMap.get?_ofList, describeContent_eq_map, ← List.map_reverse, OrderedMap.get?_map]

/-- The description of a declaration has, at the end of a row of keys, that of the declaration that the trail of
these keys leads to, inside of the types that the trail is inside of. -/
theorem at?_describeDecl {keys : List String} {d : Description} : (reg.describeDecl active decl).at? keys = some d ↔
    ∃ inside target, reg.KeyTrail active decl keys inside target ∧ reg.describeDecl inside target = d := by
  induction keys generalizing active decl with
  | nil =>
    constructor
    · intro h
      exact ⟨active, decl, .here _ _, Option.some.inj h⟩
    · rintro ⟨inside, target, htrail, rfl⟩
      cases htrail
      rfl
  | cons key keys ih =>
    rw [Description.at?]
    rcases Describer.opens_new_or_closed reg active decl with ⟨ids, ct, hopens, hnew⟩ | hclosed
    · rw [hopens.describeDecl_eq hnew, Description.fields?, Option.bind_some, get?_describeContent]
      constructor
      · intro h
        obtain ⟨_, hfound, hat⟩ := Option.bind_eq_some_iff.mp h
        obtain ⟨child, hchild, rfl⟩ := Option.map_eq_some_iff.mp hfound
        obtain ⟨inside, target, htrail, hd⟩ := ih.mp hat
        exact ⟨inside, target, .into hopens hnew hchild htrail, hd⟩
      · rintro ⟨inside, target, htrail, hd⟩
        cases htrail with
        | into hopens' _ hchild hrest =>
          obtain ⟨rfl, rfl⟩ := hopens.unique hopens'
          rw [hchild, Option.map_some, Option.bind_some]
          exact ih.mpr ⟨inside, target, hrest, hd⟩
    · have hnone : (reg.describeDecl active decl).fields?.bind (OrderedMap.get? · key) = none := by
        have hstep : Describer.Answers reg (Describer.step reg (Describer.element reg 0)) active decl ∧ _ :=
          Describer.step_closed hclosed
        have hempty := hstep.2
        cases hfields : (reg.describeDecl active decl).fields? with
        | none => rfl
        | some fields =>
          rw [hfields, Option.getD_some] at hempty
          rw [hempty]
          rfl
      rw [hnone]
      constructor
      · intro h
        cases h
      · rintro ⟨inside, target, htrail, -⟩
        cases htrail with
        | into hopens hnew =>
          obtain ⟨id, hid, hactive⟩ := hclosed _ _ hopens
          exact absurd hactive (hnew id hid)

/-- A reference to a complex type is cut just inside of that type. -/
theorem describeDecl_eq_leaf_iff {ref ns : String} (htype : decl.typeRef = some ref)
    (hfound : reg.lookupType? decl.owner ref = some (.complex ct, ns)) :
    reg.describeDecl active decl = .leaf ref ↔ (ns, localPart ref) ∈ active := by
  constructor
  · intro hleaf
    by_cases hactive : (ns, localPart ref) ∈ active
    · exact hactive
    have hnew : ∀ id ∈ [(ns, localPart ref)], id ∉ active := fun id hid => by rwa [List.mem_singleton.mp hid]
    rw [(Opens.named htype hfound).describeDecl_eq hnew] at hleaf
    cases hleaf
  · intro hactive
    obtain ⟨_, _, typeRef, _, owner⟩ := decl
    obtain rfl : typeRef = some ref := htype
    rw [describeDecl]
    exact describeRef_cut hfound hactive

/-- A description comes to its end, however the types refer to each other: from any list, the describer gives the
description inside of the types of the list and leaves the list as it was, so that of a row of declarations each
is described as if it stood alone. At the end of a row of keys stands the description of the declaration that
they lead to, inside of the types on the way there; and a reference to a complex type is cut just if its type is
one of those. -/
theorem describes_by_the_path (reg : SchemaRegistry) :
    (∀ root : Describable, Describer.Gives (fun depth => root.call reg depth) [] (root.description reg)) ∧
      (∀ active decl, Describer.Gives (fun depth => Describer.element reg depth decl) active
        (decl.key, reg.describeDecl active decl)) ∧
      (∀ active (decls : List ElementDecl), Describer.Gives (fun depth => decls.mapM (Describer.element reg depth))
        active (decls.map fun decl => (decl.key, reg.describeDecl active decl))) ∧
      (∀ (root : Describable) keys d, (root.description reg).at? keys = some d ↔
        ∃ inside target, reg.KeyTrail [] root.decl keys inside target ∧ reg.describeDecl inside target = d) ∧
      ∀ (inside : List TypeId) (target : ElementDecl) ref ct ns, target.typeRef = some ref →
        reg.lookupType? target.owner ref = some (.complex ct, ns) →
          (reg.describeDecl inside target = .leaf ref ↔ (ns, localPart ref) ∈ inside) := by
  refine ⟨fun root => ?_, Describer.gives_element reg, Describer.gives_mapM reg, fun root keys d => ?_,
    fun inside target ref ct ns => describeDecl_eq_leaf_iff⟩
  · rw [root.description_eq reg]
    exact root.gives_call reg []
  · rw [root.description_eq reg]
    exact at?_describeDecl

/-! ### A type that refers to itself, twice -/

/-- A field of this type. -/
def listField (name ref : String) : ElementDecl :=
  { name, occurs := ⟨none, none⟩, typeRef := some ref, inline := none, owner := some "urn:t" }

/-- A list has a value and a rest, which is a list; a pair has two lists. -/
def pairOfLists : SchemaRegistry :=
  { schemas := [("urn:t",
      { targetNamespace := some "urn:t"
        complexTypes := [
          ("List", { name := some "List", content := [listField "value" "xsd:int", listField "rest" "List"] }),
          ("Pair", { name := some "Pair", content := [listField "left" "List", listField "right" "List"] })] })] }

/-- The rest of the second list of the pair is cut, and that list itself is not, though the first one stands
before it. -/
theorem describes_by_the_path_lists :
    ((Describable.type (some "urn:t") "Pair").description pairOfLists).at? ["right", "rest"] = some (.leaf "List") ∧
      ((Describable.type (some "urn:t") "Pair").description pairOfLists).at? ["right"] ≠ some (.leaf "List") := by
  obtain ⟨-, -, -, hat, hcut⟩ := describes_by_the_path pairOfLists
  let root := Describable.type (some "urn:t") "Pair"
  let pair : TypeId := ("urn:t", localPart "Pair")
  let list : TypeId := ("urn:t", localPart "List")
  have hpair : ∀ id ∈ [pair], id ∉ [] := fun _ _ => List.not_mem_nil
  have hright : pairOfLists.KeyTrail [] root.decl ["right"] [pair] (listField "right" "List") :=
    .into (.named rfl rfl) hpair rfl (.here _ _)
  have hlist : ∀ id ∈ [list], id ∉ [pair] := by decide
  have hrest : pairOfLists.KeyTrail [] root.decl ["right", "rest"] [list, pair] (listField "rest" "List") :=
    .into (.named rfl rfl) hpair rfl (.into (.named rfl rfl) hlist rfl (.here _ _))
  constructor
  · refine (hat root _ _).mpr ⟨_, _, hrest, ?_⟩
    exact (hcut _ _ "List" _ "urn:t" rfl rfl).mpr List.mem_cons_self
  · intro hleaf
    obtain hdescribed := (hat root _ _).mpr ⟨_, _, hright, rfl⟩
    have heq := Option.some.inj (hdescribed.symm.trans hleaf)
    exact absurd ((hcut _ _ "List" _ "urn:t" rfl rfl).mp heq) (by decide)

end SchemaRegistry

end Soap
