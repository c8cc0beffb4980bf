import Soap.Schema.Declaration
import Soap.Unvisited

/-!
# Schema registries

All schema documents of a description, by namespace, with the prefix bindings of the description as
a whole. A type reference is resolved in the scope of the document that owns it first, in the
description's bindings second; an unbound empty prefix stands for the owner itself.

`SchemaRegistry.missingReference` walks everything that is reachable from a declaration. Types may
refer to each other in circles, so the walk enters each named type once.
-/

namespace Soap

/-- A named type's namespace and local name. -/
abbrev TypeId := String × String

/-- Schema documents by namespace. -/
structure SchemaRegistry where
  schemas : OrderedMap String SchemaDocument := []
  namespaces : OrderedMap String String := []
deriving Repr

namespace SchemaRegistry

def get? (reg : SchemaRegistry) (ns : String) : Option SchemaDocument := reg.schemas.get? ns

def contains (reg : SchemaRegistry) (ns : String) : Bool := reg.schemas.contains ns

/-- Register a document in place of any other for `ns`. -/
def insert (reg : SchemaRegistry) (ns : String) (doc : SchemaDocument) : SchemaRegistry :=
  { reg with schemas := reg.schemas.insert ns doc }

/-- Register a document as an extension of any other for `ns`. -/
def merge (reg : SchemaRegistry) (ns : String) (doc : SchemaDocument) : SchemaRegistry :=
  match reg.get? ns with
  | some existing => reg.insert ns (existing.extend doc)
  | none => reg.insert ns doc

/-- The URI a prefix stands for in a declaration owned by `owner`. -/
def resolvePrefix? (reg : SchemaRegistry) (owner : Option String) (name : String) : Option String :=
  ((owner.bind reg.get?).bind fun doc => doc.namespaces.get? name) <|>
    reg.namespaces.get? name <|>
    (if name = "" then owner else none)

/-- The named type that a type reference resolves to, and the namespace it was found in. Built-in
types never resolve. -/
def lookupType? (reg : SchemaRegistry) (owner : Option String) (typeRef : String) :
    Option (TypeDef × String) :=
  let q := QName.parse typeRef
  if isPrimitive q.localName then none
  else match reg.resolvePrefix? owner q.qualifierOrDefault with
    | none => none
    | some ns =>
      match reg.get? ns with
      | none => none
      | some doc => (doc.type? q.localName).map fun d => (d, ns)

def element? (reg : SchemaRegistry) (ns name : String) : Option ElementDecl :=
  (reg.get? ns).bind fun doc => doc.elements.get? name

/-! ### Named complex types -/

/-- The names of all complex types. -/
def typeIds (reg : SchemaRegistry) : List TypeId :=
  reg.schemas.flatMap fun (ns, doc) => doc.complexTypes.keys.map fun name => (ns, name)

/-- A reference that resolves to a complex type names one of the registry's. -/
theorem mem_typeIds {reg : SchemaRegistry} {owner : Option String} {typeRef ns : String}
    {ct : ComplexType} (h : reg.lookupType? owner typeRef = some (.complex ct, ns)) :
    (ns, localPart typeRef) ∈ reg.typeIds := by
  simp only [lookupType?] at h
  split at h
  · cases h
  split at h
  · cases h
  split at h
  · cases h
  next doc hdoc =>
  obtain ⟨d, hd, heq⟩ := Option.map_eq_some_iff.1 h
  simp only [Prod.mk.injEq] at heq
  obtain ⟨rfl, rfl⟩ := heq
  simp only [SchemaDocument.type?] at hd
  split at hd
  · next hct =>
    simp only [typeIds, List.mem_flatMap, List.mem_map]
    refine ⟨_, OrderedMap.mem_of_get? hdoc, localPart typeRef, ?_, rfl⟩
    exact OrderedMap.get?_isSome_iff.1 (by simp [localPart, hct])
  · obtain ⟨_, _, h⟩ := Option.map_eq_some_iff.1 hd
    cases h

/-! ### Missing references -/

/-- The first type reference of the pending declarations, or of what they lead to, that does not
resolve. `visited` holds the complex types entered so far. -/
def firstMissing (reg : SchemaRegistry) (visited : List TypeId) : List ElementDecl → Option String
  | [] => none
  | ⟨_, _, some ref, _, owner⟩ :: rest =>
    if isPrimitive (localPart ref) then firstMissing reg visited rest
    else match _h : reg.lookupType? owner ref with
      | none => some ref
      | some (.complex ct, ns) =>
        if _hv : (ns, localPart ref) ∈ visited then firstMissing reg visited rest
        else firstMissing reg ((ns, localPart ref) :: visited) (ct.content ++ rest)
      | some (.simple _, _) => firstMissing reg visited rest
  | ⟨_, _, none, some ⟨_, content⟩, _⟩ :: rest => firstMissing reg visited (content ++ rest)
  | ⟨_, _, none, none, _⟩ :: rest => firstMissing reg visited rest
termination_by decls => (unvisited reg.typeIds visited, totalWeight decls)
decreasing_by
  · exact Prod.Lex.right _ (totalWeight_lt_cons _ _)
  · exact Prod.Lex.right _ (totalWeight_lt_cons _ _)
  · exact Prod.Lex.left _ _ (unvisited_cons_lt (mem_typeIds _h) _hv)
  · exact Prod.Lex.right _ (totalWeight_lt_cons _ _)
  · refine Prod.Lex.right _ ?_
    simp only [totalWeight, ElementDecl.weight, inlineWeight, totalWeight_append]
    omega
  · exact Prod.Lex.right _ (totalWeight_lt_cons _ _)

/-- The first type reference reachable from a declaration that neither is built in nor resolves. -/
def missingReference (reg : SchemaRegistry) (decl : ElementDecl) : Option String :=
  reg.firstMissing [] [decl]

end SchemaRegistry

end Soap
