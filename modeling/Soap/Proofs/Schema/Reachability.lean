import Mathlib.Logic.Relation
import Soap.Schema.Registry

/-!
# What a declaration leads to

A declaration leads to those of the type that it refers to, or of the type declared in place if it
refers to none (`SchemaRegistry.LeadsTo`). Types may refer to each other in circles, and the walk for
a missing reference enters each type once; it finds a reference that does not resolve whenever one
can be reached (`SchemaRegistry.missingReference_eq_none_iff`).

A walk that finds nothing leaves a set of declarations that resolve and lead to each other, except
for those of the types entered before (`Settled`). At the start there are none.
-/

namespace Soap

open Relation (ReflTransGen)

namespace SchemaRegistry

variable (reg : SchemaRegistry)

/-- The declarations of the type that a declaration has. One that refers to a type has that type and
no other. -/
def contentOf (decl : ElementDecl) : List ElementDecl :=
  match decl.typeRef with
  | some ref =>
    match reg.lookupType? decl.owner ref with
    | some (.complex ct, _) => ct.content
    | _ => []
  | none => (decl.inline.map ContentModel.content).getD []

/-- One declaration leads to another at once. -/
def LeadsTo (decl child : ElementDecl) : Prop := child ∈ reg.contentOf decl

/-- A declaration refers to a built-in type, to one that is found, or to none. -/
def Resolves (decl : ElementDecl) : Prop :=
  ∀ ref, decl.typeRef = some ref →
    isPrimitive (localPart ref) = true ∨ (reg.lookupType? decl.owner ref).isSome = true

/-- Everything that a declaration leads to resolves. -/
def AllResolve (decl : ElementDecl) : Prop := ∀ d, ReflTransGen reg.LeadsTo decl d → reg.Resolves d

variable {reg}

/-! ## The type of a declaration -/

theorem contentOf_complex {decl : ElementDecl} {ref ns : String} {ct : ComplexType}
    (htype : decl.typeRef = some ref) (hfound : reg.lookupType? decl.owner ref = some (.complex ct, ns)) :
    reg.contentOf decl = ct.content := by
  simp only [contentOf, htype, hfound]

theorem contentOf_simple {decl : ElementDecl} {ref ns : String} {st : SimpleType}
    (htype : decl.typeRef = some ref) (hfound : reg.lookupType? decl.owner ref = some (.simple st, ns)) :
    reg.contentOf decl = [] := by
  simp only [contentOf, htype, hfound]

/-- Built-in types are not looked up. -/
theorem contentOf_isPrimitive {decl : ElementDecl} {ref : String} (htype : decl.typeRef = some ref)
    (h : isPrimitive (localPart ref) = true) : reg.contentOf decl = [] := by
  have hnone : reg.lookupType? decl.owner ref = none := by
    rw [lookupType?]
    exact if_pos h
  simp only [contentOf, htype, hnone]

/-- A complex type is found under its own name in its namespace. -/
theorem get?_of_lookupType? {owner : Option String} {ref ns : String} {ct : ComplexType}
    (h : reg.lookupType? owner ref = some (.complex ct, ns)) :
    ∃ doc, reg.get? ns = some doc ∧ doc.complexTypes.get? (localPart ref) = some ct := by
  simp only [lookupType?] at h
  split at h
  · cases h
  split at h
  · cases h
  split at h
  · cases h
  next doc hdoc =>
  obtain ⟨found, hfound, heq⟩ := Option.map_eq_some_iff.1 h
  obtain ⟨rfl, rfl⟩ := Prod.mk.inj heq
  refine ⟨doc, hdoc, ?_⟩
  simp only [SchemaDocument.type?] at hfound
  split at hfound
  · next hct =>
    obtain rfl := TypeDef.complex.inj (Option.some.inj hfound)
    exact hct
  · obtain ⟨_, -, h⟩ := Option.map_eq_some_iff.1 hfound
    cases h

/-- Complex types of one name in one namespace are the same. -/
theorem complex_unique {owner owner' : Option String} {ref ref' ns : String} {ct ct' : ComplexType}
    (h : reg.lookupType? owner ref = some (.complex ct, ns))
    (h' : reg.lookupType? owner' ref' = some (.complex ct', ns)) (hname : localPart ref = localPart ref') :
    ct = ct' := by
  obtain ⟨doc, hdoc, hct⟩ := get?_of_lookupType? h
  obtain ⟨doc', hdoc', hct'⟩ := get?_of_lookupType? h'
  obtain rfl := Option.some.inj (hdoc.symm.trans hdoc')
  rw [hname] at hct
  exact Option.some.inj (hct.symm.trans hct')

/-! ## Walks that find nothing -/

/-- A declaration has the complex type `id`. -/
def Enters (reg : SchemaRegistry) (decl : ElementDecl) (id : TypeId) : Prop :=
  ∃ ref ct, decl.typeRef = some ref ∧ reg.lookupType? decl.owner ref = some (.complex ct, id.1) ∧
    localPart ref = id.2

/-- The declarations `P` resolve and lead to each other, but for those of the types `visited`; and
those that are pending are among them. -/
structure Settled (reg : SchemaRegistry) (visited : List TypeId) (pending : List ElementDecl)
    (P : ElementDecl → Prop) : Prop where
  pending : ∀ decl ∈ pending, P decl
  resolves : ∀ d, P d → reg.Resolves d
  leads : ∀ d, P d → (∀ child ∈ reg.contentOf d, P child) ∨ ∃ id ∈ visited, reg.Enters d id

variable {visited : List TypeId} {decl : ElementDecl} {rest : List ElementDecl} {P : ElementDecl → Prop}

theorem Settled.nil : Settled reg visited [] fun _ => False :=
  ⟨by simp, fun _ h => h.elim, fun _ h => h.elim⟩

/-- One more declaration is settled, if its content is. -/
theorem Settled.cons (h : Settled reg visited rest P) (hresolves : reg.Resolves decl)
    (hleads : (∀ child ∈ reg.contentOf decl, P child) ∨ ∃ id ∈ visited, reg.Enters decl id) :
    Settled reg visited (decl :: rest) fun d => d = decl ∨ P d where
  pending d hd := (List.mem_cons.mp hd).imp_right (h.pending d)
  resolves d := by
    rintro (rfl | hd)
    · exact hresolves
    · exact h.resolves d hd
  leads d := by
    rintro (rfl | hd)
    · exact hleads.imp_left fun hcontent child hchild => .inr (hcontent child hchild)
    · exact (h.leads d hd).imp_left fun hcontent child hchild => .inr (hcontent child hchild)

/-- With the content of a type settled, the type is no exception any more. -/
theorem Settled.leave {id : TypeId} (h : Settled reg (id :: visited) rest P)
    (hcontent : ∀ d, reg.Enters d id → ∀ child ∈ reg.contentOf d, P child) : Settled reg visited rest P where
  pending := h.pending
  resolves := h.resolves
  leads d hd := by
    rcases h.leads d hd with hleads | ⟨id', hid, hentered⟩
    · exact .inl hleads
    rcases List.mem_cons.mp hid with rfl | hid
    · exact .inl (hcontent d hentered)
    · exact .inr ⟨id', hid, hentered⟩

/-- Declarations that are put off need not be pending. -/
theorem Settled.of_append {content : List ElementDecl} (h : Settled reg visited (content ++ rest) P) :
    Settled reg visited rest P :=
  ⟨fun d hd => h.pending d (List.mem_append_right _ hd), h.resolves, h.leads⟩

/-- A walk that comes to its end without finding anything settles what is pending. -/
theorem exists_settled {decls : List ElementDecl} (h : reg.firstMissing visited decls = none) :
    ∃ P, Settled reg visited decls P := by
  fun_induction firstMissing reg visited decls with
  | case1 => exact ⟨_, Settled.nil⟩
  | case2 visited _ _ ref _ owner rest hprim ih =>
    obtain ⟨P, hP⟩ := ih h
    refine ⟨_, hP.cons (fun r hr => .inl ?_) (.inl fun child hchild => ?_)⟩
    · rwa [← Option.some.inj hr]
    · rw [contentOf_isPrimitive rfl hprim] at hchild
      cases hchild
  | case3 => cases h
  | case4 visited _ _ ref _ owner rest _ ct ns hfound hvisited ih =>
    obtain ⟨P, hP⟩ := ih h
    refine ⟨_, hP.cons (fun r hr => .inr ?_) (.inr ⟨_, hvisited, ref, ct, rfl, hfound, rfl⟩)⟩
    rw [← Option.some.inj hr, hfound]
    rfl
  | case5 visited _ _ ref _ owner rest _ ct ns hfound _ ih =>
    obtain ⟨P, hP⟩ := ih h
    have hcontent : ∀ child ∈ ct.content, P child := fun child hchild =>
      hP.pending child (List.mem_append_left _ hchild)
    have hleft : Settled reg visited rest P := hP.of_append.leave fun d hd child hchild => by
      obtain ⟨ref', ct', htype, hfound', hname⟩ := hd
      rw [contentOf_complex htype hfound', complex_unique hfound' hfound hname] at hchild
      exact hcontent child hchild
    refine ⟨_, hleft.cons (fun r hr => .inr ?_) (.inl fun child hchild => ?_)⟩
    · rw [← Option.some.inj hr, hfound]
      rfl
    · rw [contentOf_complex rfl hfound] at hchild
      exact hcontent child hchild
  | case6 visited _ _ ref _ owner rest _ st ns hfound ih =>
    obtain ⟨P, hP⟩ := ih h
    refine ⟨_, hP.cons (fun r hr => .inr ?_) (.inl fun child hchild => ?_)⟩
    · rw [← Option.some.inj hr, hfound]
      rfl
    · rw [contentOf_simple rfl hfound] at hchild
      cases hchild
  | case7 visited _ _ _ content owner rest ih =>
    obtain ⟨P, hP⟩ := ih h
    exact ⟨_, hP.of_append.cons (fun _ hr => nomatch hr) (.inl fun child hchild =>
      hP.pending child (List.mem_append_left _ hchild))⟩
  | case8 visited _ _ owner rest ih =>
    obtain ⟨P, hP⟩ := ih h
    exact ⟨_, hP.cons (fun _ hr => nomatch hr) (.inl fun _ hchild => nomatch hchild)⟩

/-- What is settled while nothing has been entered leads to nothing else. -/
theorem Settled.allResolve (h : Settled reg [] rest P) (hdecl : P decl) : reg.AllResolve decl := by
  intro d hd
  have hP : P d := by
    induction hd with
    | refl => exact hdecl
    | tail _ hstep ih =>
      rcases h.leads _ ih with hleads | ⟨_, hid, -⟩
      · exact hleads _ hstep
      · cases hid
  exact h.resolves d hP

/-! ## Walks that find something -/

/-- What a walk finds is the reference of a declaration that the pending ones lead to. -/
theorem exists_dangling {decls : List ElementDecl} {ref : String}
    (h : reg.firstMissing visited decls = some ref) :
    ∃ decl ∈ decls, ∃ d, ReflTransGen reg.LeadsTo decl d ∧ d.typeRef = some ref ∧ ¬ reg.Resolves d := by
  fun_induction firstMissing reg visited decls
  case case1 => cases h
  case case2 ih | case4 ih | case6 ih | case8 ih =>
    obtain ⟨decl, hdecl, hd⟩ := ih h
    exact ⟨decl, List.mem_cons_of_mem _ hdecl, hd⟩
  case case3 hprim hnone =>
    obtain rfl := Option.some.inj h
    refine ⟨_, List.mem_cons_self, _, .refl, rfl, fun hresolves => ?_⟩
    rcases hresolves _ rfl with hprim' | hsome
    · exact hprim hprim'
    · rw [hnone] at hsome
      cases hsome
  case case5 hfound _ ih =>
    obtain ⟨decl, hdecl, d, hreach, hd⟩ := ih h
    rcases List.mem_append.mp hdecl with hchild | hrest
    · refine ⟨_, List.mem_cons_self, d, .head ?_ hreach, hd⟩
      rwa [LeadsTo, contentOf_complex rfl hfound]
    · exact ⟨decl, List.mem_cons_of_mem _ hrest, d, hreach, hd⟩
  case case7 ih =>
    obtain ⟨decl, hdecl, d, hreach, hd⟩ := ih h
    rcases List.mem_append.mp hdecl with hchild | hrest
    · exact ⟨_, List.mem_cons_self, d, .head hchild hreach, hd⟩
    · exact ⟨decl, List.mem_cons_of_mem _ hrest, d, hreach, hd⟩

/-- The walk from a declaration finds nothing just when everything that it leads to resolves. -/
theorem missingReference_eq_none_iff : reg.missingReference decl = none ↔ reg.AllResolve decl := by
  constructor
  · intro h
    obtain ⟨P, hP⟩ := exists_settled h
    exact hP.allResolve (hP.pending decl List.mem_cons_self)
  · intro h
    cases hmissing : reg.missingReference decl with
    | none => rfl
    | some ref =>
      obtain ⟨_, hdecl, d, hreach, -, hdangling⟩ := exists_dangling hmissing
      rw [List.mem_singleton.mp hdecl] at hreach
      exact absurd (h d hreach) hdangling

end SchemaRegistry

end Soap
