import Mathlib.Data.Option.Defs
import Soap.Proofs.Definitions.Strictness
import Soap.Proofs.Schema.Merging
import Soap.Proofs.Schema.Search

/-!
# Descriptions that say the same

When references are resolved, the namespaces of a description are only ever looked up. Two descriptions with the same
tables, whose prefixes stand for the same URIs in whatever order, therefore have the same messages, port types,
bindings and services, and the same references lead nowhere in both (`Declarations.Alike.definitions`).

What the walk for a missing reference does depends on what declarations open and on whether they resolve, so it is
the same search in both (`SchemaRegistry.Alike.search`).
-/

namespace Soap

/-! ## Registries -/

namespace SchemaRegistry

/-- Registries with the same schemas, where every prefix stands for the same URI. -/
structure Alike (reg reg' : SchemaRegistry) : Prop where
  schemas : reg.schemas = reg'.schemas
  namespaces : ∀ name, reg.namespaces.get? name = reg'.namespaces.get? name

namespace Alike

variable {reg reg' : SchemaRegistry} (h : reg.Alike reg')

include h

theorem get?_eq (ns : String) : reg.get? ns = reg'.get? ns := congrArg (OrderedMap.get? · ns) h.schemas

theorem contains_eq (ns : String) : reg.contains ns = reg'.contains ns :=
  congrArg (OrderedMap.contains · ns) h.schemas

theorem element?_eq (ns name : String) : reg.element? ns name = reg'.element? ns name := by
  rw [element?, element?, h.get?_eq]

theorem lookupType?_eq (owner : Option String) (ref : String) :
    reg.lookupType? owner ref = reg'.lookupType? owner ref := by
  have huri (name : String) : reg.resolvePrefix? owner name = reg'.resolvePrefix? owner name := by
    rw [resolvePrefix?, resolvePrefix?, funext h.get?_eq, h.namespaces]
  rw [SchemaRegistry.lookupType?_eq, SchemaRegistry.lookupType?_eq, huri, funext h.get?_eq]

theorem resolves_iff (decl : ElementDecl) : reg.Resolves decl ↔ reg'.Resolves decl := by
  simp only [Resolves, h.lookupType?_eq]

theorem opens_iff (decl : ElementDecl) (ids : List TypeId) (ct : ComplexType) :
    reg.Opens decl ids ct ↔ reg'.Opens decl ids ct := by
  constructor
  · intro hopens
    cases hopens with
    | named htype hfound => exact .named htype (h.lookupType?_eq .. ▸ hfound)
    | inline htype hinline => exact .inline htype hinline
  · intro hopens
    cases hopens with
    | named htype hfound => exact .named htype (h.lookupType?_eq .. ▸ hfound)
    | inline htype hinline => exact .inline htype hinline

theorem search {visited visited' : List TypeId} {decls : List ElementDecl} {found : Option String}
    (hsearch : reg.Search visited decls found visited') : reg'.Search visited decls found visited' := by
  induction hsearch with
  | nil => exact .nil
  | dangling htype hdangling => exact .dangling htype fun hresolves => hdangling ((h.resolves_iff _).mpr hresolves)
  | leaf hresolves hleaf _ ih =>
    exact .leaf ((h.resolves_iff _).mp hresolves) (fun ids ct hopens => hleaf ids ct ((h.opens_iff ..).mpr hopens)) ih
  | again hopens hvisited _ ih => exact .again ((h.opens_iff ..).mp hopens) hvisited ih
  | inside hopens hnew _ ih => exact .inside ((h.opens_iff ..).mp hopens) hnew ih
  | past hopens hnew _ _ ihinside ihrest => exact .past ((h.opens_iff ..).mp hopens) hnew ihinside ihrest

theorem missingReference_eq (decl : ElementDecl) : reg.missingReference decl = reg'.missingReference decl := by
  obtain ⟨found, visited, hsearch⟩ := reg.exists_search [] [decl]
  rw [missingReference, missingReference, hsearch.firstMissing_eq, (h.search hsearch).firstMissing_eq]

theorem register (node : Node) : (reg.register node).Alike (reg'.register node) := by
  unfold SchemaRegistry.register merge
  rw [h.get?_eq]
  split
  · exact ⟨congrArg (OrderedMap.insert · _ _) h.schemas, h.namespaces⟩
  · exact ⟨congrArg (OrderedMap.insert · _ _) h.schemas, h.namespaces⟩

theorem registerAll (nodes : List Node) :
    (nodes.foldl SchemaRegistry.register reg).Alike (nodes.foldl SchemaRegistry.register reg') := by
  induction nodes generalizing reg reg' with
  | nil => exact h
  | cons node rest ih => exact ih (h.register node)

end Alike

end SchemaRegistry

/-! ## Declarations -/

/-- Definitions that say the same. Only the order in which prefixes are listed may be another. -/
structure Definitions.Alike (r r' : Definitions) : Prop where
  name : r.name = r'.name
  targetNamespace : r.targetNamespace = r'.targetNamespace
  namespaces : ∀ name, r.namespaces.get? name = r'.namespaces.get? name
  schemas : r.schemas.Alike r'.schemas
  messages : r.messages = r'.messages
  aliases : r.aliases = r'.aliases
  portTypes : r.portTypes = r'.portTypes
  bindings : r.bindings = r'.bindings
  topElements : r.bindings.mapValues Binding.topElements? = r'.bindings.mapValues Binding.topElements?
  services : r.services = r'.services

namespace Declarations

/-- Declarations that say the same. -/
structure Alike (d d' : Declarations) : Prop where
  name : d.name = d'.name
  targetNamespace : d.targetNamespace = d'.targetNamespace
  namespaces : ∀ name, d.namespaces.get? name = d'.namespaces.get? name
  schemas : d.schemas.Alike d'.schemas
  messages : d.messages = d'.messages
  portTypes : d.portTypes = d'.portTypes
  bindings : d.bindings = d'.bindings
  services : d.services = d'.services

namespace Alike

variable {d d' : Declarations} (h : d.Alike d')

include h

theorem namespaceOf?_eq (q : QName) : d.namespaceOf? q = d'.namespaceOf? q := h.namespaces _

theorem resolveElement_eq (reference : String) : d.resolveElement reference = d'.resolveElement reference := by
  unfold resolveElement
  dsimp only
  rw [h.namespaceOf?_eq, funext fun ns => h.schemas.element?_eq ns _]
  simp only [h.schemas.missingReference_eq]

theorem resolvePart_eq (part : PartDecl) : d.resolvePart part = d'.resolvePart part := by
  have htype (space : Option String) (ref : String) : d.partTypeResolves space ref = d'.partTypeResolves space ref := by
    simp only [partTypeResolves, h.schemas.lookupType?_eq, h.schemas.missingReference_eq]
  simp only [resolvePart, h.namespaceOf?_eq, funext h.schemas.contains_eq, htype]

theorem resolveMessage_eq (m : MessageDecl) : d.resolveMessage m = d'.resolveMessage m := by
  have hbody : d.resolveBody m.parts = d'.resolveBody m.parts := by
    simp only [resolveBody, h.resolveElement_eq, h.resolvePart_eq]
  rw [resolveMessage, resolveMessage, hbody]

theorem messages_eq : d.resolve.1.messages = d'.resolve.1.messages := by
  rw [messages_resolve, messages_resolve, h.messages, funext h.resolveMessage_eq]

theorem portTypes_eq : d.resolve.1.portTypes = d'.resolve.1.portTypes := by
  rw [portTypes_resolve, portTypes_resolve, h.portTypes, h.messages_eq]

theorem bindings_eq : d.resolve.1.bindings = d'.resolve.1.bindings := by
  rw [bindings_resolve, bindings_resolve, h.bindings, h.portTypes_eq]

/-- What is resolved says the same. -/
theorem resolve : d.resolve.1.Alike d'.resolve.1 where
  name := h.name
  targetNamespace := h.targetNamespace
  namespaces := h.namespaces
  schemas := h.schemas
  messages := h.messages_eq
  aliases := by rw [Definitions.aliases, Definitions.aliases, h.messages_eq]
  portTypes := h.portTypes_eq
  bindings := h.bindings_eq
  topElements := by rw [h.bindings_eq]
  services := by
    show d.services.mapValues (resolveService d.resolve.1.bindings) =
      d'.services.mapValues (resolveService d'.resolve.1.bindings)
    rw [h.services, h.bindings_eq]

/-- The same references lead nowhere. -/
theorem dangling_eq : d.resolve.2 = d'.resolve.2 := by
  rw [resolve_snd, resolve_snd, h.messages, h.portTypes, h.bindings, h.messages_eq, h.portTypes_eq,
    funext h.resolveMessage_eq]

theorem definitions (strict : Bool) :
    Option.Rel Definitions.Alike (d.definitions strict).toOption (d'.definitions strict).toOption := by
  rw [definitions_eq, definitions_eq, h.dangling_eq]
  cases strict with
  | false => exact .some h.resolve
  | true =>
    cases d'.resolve.2 with
    | nil => exact .some h.resolve
    | cons first rest => exact .none

end Alike

end Declarations

end Soap
