import Soap.Proofs.Definitions.Declaration

/-!
# No reference leads nowhere

Resolved definitions refer to each other by name and hold copies of each other;
`Definitions.IsIntegral` says that all of this agrees. It is what resolving declarations makes
(`IsKeyed.isIntegral_resolve`), whatever was left out on the way: a port goes with its binding, a
binding with its port type.
-/

namespace Soap

namespace Definitions

/-- Everything is filed under its name. -/
structure IsKeyed (d : Definitions) : Prop where
  messages : d.messages.IsKeyedBy Message.name
  portTypes : d.portTypes.IsKeyedBy PortType.name
  bindings : d.bindings.IsKeyedBy Binding.name
  methods : ∀ b ∈ d.bindings, b.2.methods.IsKeyedBy Operation.name
  services : d.services.IsKeyedBy Service.name
  ports : ∀ s ∈ d.services, s.2.ports.IsKeyedBy Port.name

/-- The messages of an operation are those of the definitions. -/
def Carries (d : Definitions) (op : Operation) : Prop :=
  ∀ m, op.input = some m ∨ op.output = some m → d.messages.get? m.name = some m

/-- The records agree with each other. -/
structure IsIntegral (d : Definitions) : Prop where
  /-- A port's binding is there. -/
  port_binding : ∀ s ∈ d.services, ∀ p ∈ s.2.ports, p.2.binding ∈ d.bindings.keys
  /-- A binding's port type is there, and its operations are the methods, in order. -/
  binding_portType : ∀ b ∈ d.bindings, ∃ p, d.portTypes.get? b.2.portType = some p ∧
    b.2.methods.keys = p.operations.keys
  operation_carries : ∀ p ∈ d.portTypes, ∀ op ∈ p.2.operations, d.Carries op.2
  method_carries : ∀ b ∈ d.bindings, ∀ op ∈ b.2.methods, d.Carries op.2
  /-- An alias is the element of its message. -/
  alias_message : ∀ a ∈ d.aliases, ∃ m ref, d.messages.get? a.2 = some m ∧ m.body = .element ref ∧
    ref.decl.name = a.1
  /-- Documents are routed by elements, and only documents are. -/
  topElements_isSome : ∀ b ∈ d.bindings, (b.2.topElements?.isSome ↔ b.2.style = .document)
  /-- An element is routed to a method that takes it, and answered with what the method returns. -/
  topElement_method : ∀ b ∈ d.bindings, ∀ tops, b.2.topElements? = some tops → ∀ top ∈ tops,
    ∃ op input, b.2.methods.get? top.2.method = some op ∧ op.input = some input ∧
      input.topName = top.1 ∧ top.2.output = op.output.map Message.topName
  /-- What a method takes is routed. -/
  method_topElement : ∀ b ∈ d.bindings, ∀ tops, b.2.topElements? = some tops → ∀ op ∈ b.2.methods,
    ∀ input, op.2.input = some input → input.topName ∈ tops.keys

end Definitions

/-! ## Tables that are computed -/

theorem Message.element?_eq_some {m : Message} {ref : ElementRef} :
    m.element? = some ref ↔ m.body = .element ref := by
  unfold Message.element?
  cases m.body <;> simp

/-- An alias stands for a message that carries its element. -/
theorem Definitions.IsKeyed.alias_message {d : Definitions} (h : d.IsKeyed) {a : String × String}
    (ha : a ∈ d.aliases) :
    ∃ m ref, d.messages.get? a.2 = some m ∧ m.body = .element ref ∧ ref.decl.name = a.1 := by
  obtain ⟨⟨name, m⟩, hm, he⟩ := List.mem_filterMap.mp (OrderedMap.mem_ofList ha)
  obtain ⟨ref, href, rfl⟩ := Option.map_eq_some_iff.mp he
  exact ⟨m, ref, OrderedMap.get?_of_mem h.messages.nodup hm, Message.element?_eq_some.mp href, rfl⟩

theorem Binding.topElements?_isSome (b : Binding) :
    b.topElements?.isSome ↔ b.style = .document := by
  unfold topElements?
  cases b.style <;> simp

/-- What a top element says is true of its method. -/
theorem Binding.topElement_method {b : Binding} (h : b.methods.IsKeyedBy Operation.name)
    {tops : OrderedMap String TopElement} (htops : b.topElements? = some tops)
    {top : String × TopElement} (ht : top ∈ tops) :
    ∃ op input, b.methods.get? top.2.method = some op ∧ op.input = some input ∧
    input.topName = top.1 ∧
      top.2.output = op.output.map Message.topName := by
  unfold topElements? at htops
  split at htops
  · cases htops
  · obtain rfl := Option.some.inj htops
    obtain ⟨⟨name, op⟩, hop, he⟩ := List.mem_filterMap.mp (OrderedMap.mem_ofList ht)
    obtain ⟨input, hinput, rfl⟩ := Option.map_eq_some_iff.mp he
    exact ⟨op, input, OrderedMap.get?_of_mem h.nodup hop, hinput, rfl, rfl⟩

theorem Binding.mem_topElements {b : Binding} {tops : OrderedMap String TopElement}
    (htops : b.topElements? = some tops) {op : String × Operation} (hop : op ∈ b.methods)
    {input : Message} (hinput : op.2.input = some input) : input.topName ∈ tops.keys := by
  unfold topElements? at htops
  split at htops
  · cases htops
  · obtain rfl := Option.some.inj htops
    let top : TopElement := { method := op.1, output := op.2.output.map Message.topName }
    have htop : (op.2.input.map fun input => (input.topName, top)) = some (input.topName, top) := by
      rw [hinput, Option.map_some]
    exact OrderedMap.mem_keys_ofList.mpr
      (List.mem_map.mpr ⟨_, List.mem_filterMap.mpr ⟨op, hop, htop⟩, rfl⟩)

namespace Declarations

/-! ## Resolved records -/

/-- A transfer refers to one of the messages. -/
theorem resolveTransfer_mem {messages : OrderedMap String Message} {transfer : Option TransferDecl}
    {m : Message} (h : (resolveTransfer messages transfer).1 = some m) :
    ∃ name, messages.get? name = some m := by
  unfold resolveTransfer at h
  split at h
  · cases h
  · split at h
    · next reference _ m' hm =>
      obtain rfl := Option.some.inj h
      exact ⟨_, hm⟩
    · cases h

theorem applySettings_name (style : Style) (settings : Option OperationDecl) (op : Operation) :
    (applySettings style settings op).name = op.name ∧
    (applySettings style settings op).input = op.input ∧
      (applySettings style settings op).output = op.output := by
  cases settings <;> exact ⟨rfl, rfl, rfl⟩

/-- A binding that is kept has the operations of its port type. -/
theorem resolveBinding_spec {portTypes : OrderedMap String PortType} {decl : BindingDecl}
    {b : Binding} (h : (resolveBinding portTypes decl).1 = some b) :
    b.name = decl.name ∧ ∃ p, portTypes.get? b.portType = some p ∧
      b.methods = p.operations.map fun (name, op) =>
        (name, applySettings b.style (decl.operations.get? name) op) := by
  unfold resolveBinding at h
  split at h
  · cases h
  · next p hp =>
    obtain rfl := Option.some.inj h
    exact ⟨rfl, p, hp, rfl⟩

/-- A port that is kept has a binding. -/
theorem mem_resolveService {bindings : OrderedMap String Binding} {s : ServiceDecl}
    {p : String × Port} (h : p ∈ (resolveService bindings s).ports) :
    p.2.binding ∈ bindings.keys := by
  obtain ⟨decl, hdecl, rfl⟩ := List.mem_map.mp (OrderedMap.mem_ofList h)
  exact OrderedMap.contains_iff.mp (List.mem_filter.mp hdecl).2

theorem ports_resolveService (bindings : OrderedMap String Binding) (s : ServiceDecl) :
    (resolveService bindings s).ports.IsKeyedBy Port.name := by
  have h := OrderedMap.IsKeyedBy.ofList Port.name
    ((s.ports.filter fun port => bindings.contains (localPart port.binding)).map fun port =>
      { name := port.name, location := port.location, binding := localPart port.binding })
  rwa [List.map_map] at h

/-! ## Resolved definitions -/

variable {d : Declarations}

/-- A resolved binding comes from a declared one. -/
theorem mem_bindings {b : String × Binding} (h : b ∈ d.resolve.1.bindings) :
    ∃ decl, (b.1, decl) ∈ d.bindings ∧ (resolveBinding d.resolve.1.portTypes decl).1 =
      some b.2 := by
  obtain ⟨⟨name, resolved⟩, hresolved, he⟩ := List.mem_filterMap.mp h
  obtain ⟨decl, hdecl, rfl⟩ := OrderedMap.mem_mapValues hresolved
  obtain ⟨b', hb', rfl⟩ := Option.map_eq_some_iff.mp he
  exact ⟨decl, hdecl, hb'⟩

/-- A resolved port type comes from a declared one. -/
theorem mem_portTypes {p : String × PortType} (h : p ∈ d.resolve.1.portTypes) :
    ∃ decl, (p.1, decl) ∈ d.portTypes ∧ (resolvePortType d.resolve.1.messages decl).1 = p.2 := by
  obtain ⟨resolved, hresolved, he⟩ := OrderedMap.mem_mapValues h
  obtain ⟨decl, hdecl, rfl⟩ := OrderedMap.mem_mapValues hresolved
  exact ⟨decl, hdecl, he⟩

theorem mem_services {s : String × Service} (h : s ∈ d.resolve.1.services) :
    ∃ decl, (s.1, decl) ∈ d.services ∧ resolveService d.resolve.1.bindings decl = s.2 :=
  OrderedMap.mem_mapValues h

/-- An operation of a resolved port type comes from a declared one. -/
theorem mem_operations {p : String × PortType} (h : p ∈ d.resolve.1.portTypes)
    {op : String × Operation} (hop : op ∈ p.2.operations) :
    ∃ decl, (resolveOperation d.resolve.1.messages decl).1 = op.2 := by
  obtain ⟨portType, -, hp⟩ := mem_portTypes h
  rw [← hp] at hop
  obtain ⟨resolved, hresolved, he⟩ := OrderedMap.mem_mapValues hop
  obtain ⟨decl, -, rfl⟩ := OrderedMap.mem_mapValues hresolved
  exact ⟨decl, he⟩

/-- Every binding has the operations of its port type for methods. -/
theorem binding_spec {b : String × Binding} (h : b ∈ d.resolve.1.bindings) :
    ∃ p, d.resolve.1.portTypes.get? b.2.portType = some p ∧
      b.2.methods.keys = p.operations.keys ∧
      ∀ op ∈ b.2.methods, ∃ op', (op.1, op') ∈ p.operations ∧ op.2.name = op'.name ∧
        op.2.input = op'.input ∧ op.2.output = op'.output := by
  obtain ⟨decl, -, hb⟩ := mem_bindings h
  obtain ⟨-, p, hp, hmethods⟩ := resolveBinding_spec hb
  refine ⟨p, hp, ?_, fun op hop => ?_⟩
  · rw [hmethods, OrderedMap.keys, OrderedMap.keys, List.map_map]
    rfl
  · -- Settings change neither the name of an operation nor what it takes and returns.
    rw [hmethods] at hop
    obtain ⟨⟨name, op'⟩, hop', rfl⟩ := List.mem_map.mp hop
    exact ⟨op', hop', applySettings_name ..⟩

theorem IsKeyed.operations_resolve (h : d.IsKeyed) {p : String × PortType}
    (hp : p ∈ d.resolve.1.portTypes) : p.2.operations.IsKeyedBy Operation.name := by
  obtain ⟨decl, hdecl, he⟩ := mem_portTypes hp
  rw [← he]
  exact ((h.operations _ hdecl).mapValues (fun r => r.1.name) fun _ => rfl).mapValues _ fun _ => rfl

/-- Resolving keeps everything filed under its name. -/
theorem IsKeyed.resolve (h : d.IsKeyed) : d.resolve.1.IsKeyed where
  messages := (h.messages.mapValues (fun r => r.1.name) fun _ => rfl).mapValues _ fun _ => rfl
  portTypes := (h.portTypes.mapValues (fun r => r.1.name) fun _ => rfl).mapValues _ fun _ => rfl
  bindings := by
    have hnodup : (d.bindings.mapValues (resolveBinding d.resolve.1.portTypes)).keys.Nodup := by
      rw [OrderedMap.keys_mapValues]
      exact h.bindings.nodup
    refine ⟨OrderedMap.nodup_filterMap hnodup fun e e' he => ?_, fun b hb => ?_⟩
    · obtain ⟨b, -, rfl⟩ := Option.map_eq_some_iff.mp he
      rfl
    · obtain ⟨decl, hdecl, hresolve⟩ := mem_bindings hb
      rw [(resolveBinding_spec hresolve).1, h.bindings.name_eq _ hdecl]
  methods b hb := by
    obtain ⟨p, hp, hkeys, hops⟩ := binding_spec hb
    have hoperations := h.operations_resolve (OrderedMap.mem_of_get? hp)
    refine ⟨hkeys ▸ hoperations.nodup, fun op hop => ?_⟩
    obtain ⟨op', hop', hname, -⟩ := hops op hop
    rw [hname, hoperations.name_eq _ hop']
  services := h.services.mapValues _ fun _ => rfl
  ports s hs := by
    obtain ⟨decl, -, he⟩ := mem_services hs
    rw [← he]
    exact ports_resolveService _ decl

/-- Operations of port types refer to messages of the definitions. -/
theorem IsKeyed.operation_carries (h : d.IsKeyed) {p : String × PortType}
    (hp : p ∈ d.resolve.1.portTypes) {op : String × Operation} (hop : op ∈ p.2.operations) :
    d.resolve.1.Carries op.2 := by
  obtain ⟨decl, he⟩ := mem_operations hp hop
  intro m hm
  have hmem : ∃ name, d.resolve.1.messages.get? name = some m := by
    rw [← he] at hm
    rcases hm with hm | hm <;> exact resolveTransfer_mem hm
  obtain ⟨name, hname⟩ := hmem
  exact h.resolve.messages.get?_name hname

/-- Resolved definitions agree with themselves. -/
theorem IsKeyed.isIntegral_resolve (h : d.IsKeyed) : d.resolve.1.IsIntegral where
  port_binding s hs p hp := by
    obtain ⟨decl, -, he⟩ := mem_services hs
    rw [← he] at hp
    exact mem_resolveService hp
  binding_portType b hb := by
    obtain ⟨p, hp, hkeys, -⟩ := binding_spec hb
    exact ⟨p, hp, hkeys⟩
  operation_carries p hp op hop := h.operation_carries hp hop
  method_carries b hb op hop m hm := by
    obtain ⟨p, hp, -, hops⟩ := binding_spec hb
    obtain ⟨op', hop', -, hinput, houtput⟩ := hops op hop
    rw [hinput, houtput] at hm
    exact h.operation_carries (OrderedMap.mem_of_get? hp) hop' m hm
  alias_message a ha := h.resolve.alias_message ha
  topElements_isSome b _ := b.2.topElements?_isSome
  topElement_method b hb tops htops top ht :=
    Binding.topElement_method (h.resolve.methods b hb) htops ht
  method_topElement b _ tops htops op hop input hinput := Binding.mem_topElements htops hop hinput

/-- However strictly references are taken, what comes out is what resolving makes. -/
theorem eq_resolve_of_definitions {strictReferences : Bool} {defs : Definitions}
    (h : d.definitions strictReferences = .ok defs) : defs = d.resolve.1 := by
  simp only [definitions] at h
  split at h
  · cases h
  · exact (Except.ok.inj h).symm

end Declarations

end Soap
