import Soap.Definitions.Inclusion
import Soap.Proofs.Except
import Soap.Proofs.OrderedMap

/-!
# Declarations by name

Whatever document declarations are read from, each stands once, under its own name
(`Declarations.IsKeyed`). A section of the document keeps that (`IsKeyed.addSection`), so by
induction the whole document does (`isKeyed_of_parse`); schemas, those included later among them,
have no part in it.
-/

namespace Soap

/-- Messages, port types with their operations, bindings and services are filed under their
names. -/
structure Declarations.IsKeyed (d : Declarations) : Prop where
  messages : d.messages.IsKeyedBy MessageDecl.name
  portTypes : d.portTypes.IsKeyedBy PortTypeDecl.name
  operations : ∀ p ∈ d.portTypes, p.2.operations.IsKeyedBy OperationDecl.name
  bindings : d.bindings.IsKeyedBy BindingDecl.name
  services : d.services.IsKeyedBy ServiceDecl.name

namespace Declarations

/-- Schemas are no matter. -/
theorem IsKeyed.withSchemas {d : Declarations} (h : d.IsKeyed) (schemas : SchemaRegistry) :
    ({ d with schemas } : Declarations).IsKeyed :=
  ⟨h.messages, h.portTypes, h.operations, h.bindings, h.services⟩

theorem IsKeyed.addSchemas {d : Declarations} (h : d.IsKeyed) (nodes : List Node) :
    (nodes.foldl addSchema d).IsKeyed := by
  induction nodes generalizing d with
  | nil => exact h
  | cons node rest ih => exact ih (h.withSchemas _)

/-- The operations that a node declares are filed under their names. -/
theorem isKeyedBy_of_allOf {node : Node} {kind : Kind}
    {operations : OrderedMap String OperationDecl}
    (h : OperationDecl.allOf node kind = .ok operations) :
    operations.IsKeyedBy OperationDecl.name := by
  obtain ⟨ops, -, hops⟩ := bind_eq_ok h
  obtain rfl := Except.ok.inj hops
  exact .ofList _ ops

theorem operations_of_ofNode {node : Node} {p : PortTypeDecl}
    (h : PortTypeDecl.ofNode node = .ok p) : p.operations.IsKeyedBy OperationDecl.name := by
  obtain ⟨name, -, h⟩ := bind_eq_ok h
  obtain ⟨operations, hoperations, h⟩ := bind_eq_ok h
  obtain rfl := Except.ok.inj h
  exact isKeyedBy_of_allOf hoperations

/-- A section keeps declarations filed under their names. -/
theorem IsKeyed.addSection {d d' : Declarations} (h : d.IsKeyed) {node : Node}
    (hd : d.addSection node = .ok d') : d'.IsKeyed := by
  unfold Declarations.addSection at hd
  -- Types, messages, port types, bindings, services, and what else a document holds.
  split at hd
  · obtain rfl := Except.ok.inj hd
    exact h.addSchemas _
  · obtain ⟨m, -, hd⟩ := bind_eq_ok hd
    obtain rfl := Except.ok.inj hd
    exact ⟨h.messages.insert m, h.portTypes, h.operations, h.bindings, h.services⟩
  · obtain ⟨p, hp, hd⟩ := bind_eq_ok hd
    obtain rfl := Except.ok.inj hd
    refine ⟨h.messages, h.portTypes.insert p, fun e he => ?_, h.bindings, h.services⟩
    rcases OrderedMap.mem_insert he with rfl | he
    · exact operations_of_ofNode hp
    · exact h.operations e he
  · obtain ⟨b, -, hd⟩ := bind_eq_ok hd
    split at hd
    · obtain rfl := Except.ok.inj hd
      exact ⟨h.messages, h.portTypes, h.operations, h.bindings.insert b, h.services⟩
    · obtain rfl := Except.ok.inj hd
      exact h
  · obtain ⟨s, -, hd⟩ := bind_eq_ok hd
    obtain rfl := Except.ok.inj hd
    exact ⟨h.messages, h.portTypes, h.operations, h.bindings, h.services.insert s⟩
  · obtain rfl := Except.ok.inj hd
    exact h

theorem IsKeyed.addSections {d d' : Declarations} (h : d.IsKeyed) {nodes : List Node}
    (hd : nodes.foldlM Declarations.addSection d = .ok d') : d'.IsKeyed := by
  induction nodes generalizing d with
  | nil =>
    obtain rfl := Except.ok.inj hd
    exact h
  | cons node rest ih =>
    rw [List.foldlM_cons] at hd
    obtain ⟨next, hnext, hd⟩ := bind_eq_ok hd
    exact ih (h.addSection hnext) hd

/-- The declarations of a document are filed under their names. -/
theorem isKeyed_of_parse {text : String} {strict : Bool} {d : Declarations}
    (h : Declarations.parse text strict = .ok d) : d.IsKeyed := by
  obtain ⟨doc, -, h⟩ := bind_eq_ok h
  have hstart : ∀ (name target : Option String) (namespaces : OrderedMap String String)
      (schemas : SchemaRegistry) (isSchema : Bool),
      ({ name, targetNamespace := target, namespaces, schemas, isSchema } : Declarations).IsKeyed :=
    fun _ _ _ _ _ => ⟨.nil _, .nil _, by simp, .nil _, .nil _⟩
  simp only [ofDocument] at h
  split at h
  · obtain rfl := Except.ok.inj h
    exact (hstart ..).addSchemas [doc.root]
  · exact (hstart ..).addSections h

end Declarations

end Soap
