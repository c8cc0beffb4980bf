import Soap.Client
import Soap.Proofs.Definitions.Equality
import Soap.Proofs.Definitions.Integrity
import Soap.Server.Dispatcher

/-!
# Look-ups that do not fail

Where definitions agree with themselves, what is reached through a name is there: the shapes of all
operations are described (`Definitions.IsIntegral.describes`), a server knows the binding of every
port (`Dispatcher.dispatch_ne_unknownBinding`), and a client that was built knows its port and its
binding (`Client.request_error`).
-/

namespace Soap

/-! ## Descriptions of services -/

namespace Definitions

/-- Every service, port and method is described, once and in order. -/
structure DescribesAll (d : Definitions) : Prop where
  services : d.describe.keys = d.services.keys ∧ d.describe.keys.Nodup
  ports : ∀ s ∈ d.services, ∃ ports, d.describe.get? s.1 = some ports ∧
    ports.keys = s.2.ports.keys ∧
    ports.keys.Nodup
  methods : ∀ s ∈ d.services, ∀ ports, d.describe.get? s.1 = some ports → ∀ p ∈ s.2.ports,
    ∃ binding methods, d.bindings.get? p.2.binding = some binding ∧ ports.get? p.1 = some methods ∧
      methods.keys = binding.methods.keys ∧ methods.keys.Nodup ∧
      ∀ op ∈ binding.methods, methods.get? op.1 = some (d.describeOperation op.2)

/-- The shapes of the operations of a service, by port. -/
def describePorts (d : Definitions) (service : Service) :
    OrderedMap String (OrderedMap String OperationDescription) :=
  service.ports.filterMap fun (name, port) =>
    (d.bindings.get? port.binding).map fun binding =>
      (name, binding.methods.mapValues d.describeOperation)

theorem describe_eq (d : Definitions) : d.describe = d.services.mapValues d.describePorts := rfl

theorem IsKeyed.get?_describe {d : Definitions} (hk : d.IsKeyed) {s : String × Service}
    (hs : s ∈ d.services) : d.describe.get? s.1 = some (d.describePorts s.2) := by
  rw [describe_eq, OrderedMap.get?_mapValues, OrderedMap.get?_of_mem hk.services.nodup hs]
  rfl

/-- The binding of a port, by the name that the port has for it. -/
theorem IsIntegral.get?_binding {d : Definitions} (h : d.IsIntegral) {s : String × Service}
    (hs : s ∈ d.services) {p : String × Port} (hp : p ∈ s.2.ports) :
    ∃ binding, d.bindings.get? p.2.binding = some binding :=
  Option.isSome_iff_exists.mp (OrderedMap.get?_isSome_iff.mpr (h.port_binding s hs p hp))

/-- All operations of integral definitions are described. -/
theorem IsIntegral.describes {d : Definitions} (hk : d.IsKeyed) (h : d.IsIntegral) :
    d.DescribesAll := by
  have hkeys : ∀ s ∈ d.services, (d.describePorts s.2).keys = s.2.ports.keys := by
    intro s hs
    refine OrderedMap.keys_filterMap fun p hp => ?_
    obtain ⟨binding, hbinding⟩ := h.get?_binding hs hp
    exact ⟨_, congrArg (Option.map fun b => (p.1, b.methods.mapValues d.describeOperation)) hbinding⟩
  have hnodup : ∀ s ∈ d.services, (d.describePorts s.2).keys.Nodup := by
    intro s hs
    rw [hkeys s hs]
    exact (hk.ports s hs).nodup
  refine ⟨⟨?_, ?_⟩, fun s hs => ⟨_, hk.get?_describe hs, hkeys s hs, hnodup s hs⟩, ?_⟩
  · rw [describe_eq, OrderedMap.keys_mapValues]
  · rw [describe_eq, OrderedMap.keys_mapValues]
    exact hk.services.nodup
  · intro s hs ports hports p hp
    obtain rfl := Option.some.inj ((hk.get?_describe hs).symm.trans hports)
    obtain ⟨binding, hbinding⟩ := h.get?_binding hs hp
    have hmethods := hk.methods _ (OrderedMap.mem_of_get? hbinding)
    have hport : (p.1, binding.methods.mapValues d.describeOperation) ∈ d.describePorts s.2 :=
      List.mem_filterMap.mpr
        ⟨p, hp, congrArg (Option.map fun b => (p.1, b.methods.mapValues d.describeOperation)) hbinding⟩
    refine ⟨binding, _, hbinding, OrderedMap.get?_of_mem (hnodup s hs) hport, ?_, ?_, ?_⟩
    · rw [OrderedMap.keys_mapValues]
    · rw [OrderedMap.keys_mapValues]
      exact hmethods.nodup
    · intro op hop
      rw [OrderedMap.get?_mapValues, OrderedMap.get?_of_mem hmethods.nodup hop]
      rfl

end Definitions

/-! ## Servers -/

namespace Dispatcher

/-- A port that is reachable is one of the definitions', with a location. -/
theorem mem_locatedPorts {defs : Definitions} {path : String} {bound : BoundPort} :
    (path, bound) ∈ locatedPorts defs ↔
      ∃ s ∈ defs.services, ∃ p ∈ s.2.ports, ∃ location, p.2.location = some location ∧
        path = normalizePath (locationPath location) ∧
        bound = { service := s.1, port := p.1, binding := p.2.binding } := by
  simp only [locatedPorts, List.mem_flatMap, List.mem_filterMap, Option.map_eq_some_iff,
    Prod.mk.injEq, eq_comm (a := path), eq_comm (a := bound)]

/-- The binding of a port that is reachable is there. -/
theorem get?_binding_of_portFor? {d : Dispatcher} (h : d.definitions.IsIntegral) {path : String}
    {bound : BoundPort} (hb : d.portFor? path = some bound) :
    ∃ binding, d.definitions.bindings.get? bound.binding = some binding := by
  obtain ⟨s, hs, p, hp, _, -, -, rfl⟩ :=
    mem_locatedPorts.mp (OrderedMap.mem_ofList (OrderedMap.mem_of_get? hb))
  exact h.get?_binding hs hp

/-- Routing does not miss a binding. -/
theorem route_ne_unknownBinding {d : Dispatcher} (h : d.definitions.IsIntegral) (path : String)
    (request : Envelope) (name : String) :
    d.route path request ≠ .error (.unknownBinding name) := by
  intro he
  -- The steps in order: port, binding, body, method. Only the second can miss a binding.
  rcases bind_eq_error he with he | ⟨bound, hbound, he⟩
  · cases (getDM_eq_error he).2
  rcases bind_eq_error he with he | ⟨binding, -, he⟩
  · obtain ⟨binding, hbinding⟩ := get?_binding_of_portFor? h (getDM_eq_ok hbound)
    rw [(getDM_eq_error he).1] at hbinding
    cases hbinding
  rcases bind_eq_error he with he | ⟨body, -, he⟩
  · cases (getDM_eq_error he).2
  rcases bind_eq_error he with he | ⟨method, -, he⟩
  · unfold methodFor at he
    split at he
    · cases he
    · split at he <;> cases he
  · cases he

theorem invoke_ne_unknownBinding (d : Dispatcher) (route : Route) (name : String) :
    (d.invoke route).result ≠ .error (.unknownBinding name) := by
  unfold invoke
  split
  · exact fun he => by cases he
  · dsimp only
    split <;> exact fun he => by cases he

/-- A server never misses a binding. -/
theorem dispatch_ne_unknownBinding {d : Dispatcher} (h : d.definitions.IsIntegral)
    (path text name : String) : (d.dispatch path text).result ≠ .error (.unknownBinding name) := by
  unfold dispatch
  split
  · exact fun he => by cases he
  · next request _ =>
    simp only
    split
    · exact fun he => by cases he
    · show (d.answer path request).result ≠ _
      unfold answer
      split
      · next e hroute =>
        intro he
        exact route_ne_unknownBinding h path request name
          (hroute.trans (congrArg _ (Except.error.inj he)))
      · exact invoke_ne_unknownBinding d _ name

end Dispatcher

/-! ## Clients -/

namespace Client

/-- What is picked is an entry of the map. -/
theorem pick_eq_ok {α : Type} {entries : OrderedMap String α} {missing : String → ClientError}
    {name : Option String} {v : α} (h : pick entries missing name = .ok v) :
    ∃ k, entries.get? k = some v := by
  unfold pick at h
  cases name with
  | some name => exact ⟨name, getDM_eq_ok h⟩
  | none => exact OrderedMap.get?_of_head? (getDM_eq_ok h)

/-- What a client is bound to is found by its names. -/
theorem bound_eq {c : Client} {service : Service} {port : Port} {binding : Binding}
    (hservice : c.definitions.services.get? c.service = some service)
    (hport : service.ports.get? c.port = some port)
    (hbinding : c.definitions.bindings.get? port.binding = some binding) :
    c.bound = .ok (port, binding) := by
  rw [bound, hservice, Option.bind_some, hport, Option.getDM_some, pure_bind, hbinding,
    Option.getDM_some, pure_bind]
  rfl

/-- A client that was built is bound to a port of its definitions, and to the port's binding. -/
theorem bound_of_build {wsdl : Wsdl} (hk : wsdl.definitions.IsKeyed) {settings : ClientSettings}
    {c : Client} (h : build wsdl settings = .ok c) :
    c.wsdl = wsdl ∧ c.endpoint = settings.endpoint ∧
    ∃ service port binding, wsdl.definitions.services.get? c.service = some service ∧
      service.ports.get? c.port = some port ∧ wsdl.definitions.bindings.get? port.binding =
        some binding ∧
      c.bound = .ok (port, binding) := by
  obtain ⟨service, hservice, h⟩ := bind_eq_ok h
  obtain ⟨port, hport, h⟩ := bind_eq_ok h
  obtain ⟨binding, hbinding, h⟩ := bind_eq_ok h
  obtain rfl := Except.ok.inj h
  obtain ⟨serviceKey, hs⟩ := pick_eq_ok hservice
  obtain ⟨portKey, hp⟩ := pick_eq_ok hport
  have hservices := hk.services.get?_name hs
  have hports := (hk.ports _ (OrderedMap.mem_of_get? hs)).get?_name hp
  have hbindings : wsdl.definitions.bindings.get? port.binding = some binding :=
    getDM_eq_ok hbinding
  exact ⟨rfl, rfl, service, port, binding, hservices, hports, hbindings,
    bound_eq hservices hports hbindings⟩

/-- All that can be wrong with a request is its operation, or that there is nowhere to send it. -/
theorem request_error {c : Client} {port : Port} {binding : Binding}
    (h : c.bound = .ok (port, binding)) {method : String} {args : Value} {e : ClientError}
    (he : c.request method args = .error e) :
    e = .unknownOperation method ∨ e = .noEndpoint port.name := by
  rcases bind_eq_error he with he | ⟨found, hfound, he⟩
  · rw [h] at he
    cases he
  obtain rfl : (port, binding) = found := Except.ok.inj (h.symm.trans hfound)
  rcases bind_eq_error he with he | ⟨operation, -, he⟩
  · exact .inl (getDM_eq_error he).2.symm
  rcases bind_eq_error he with he | ⟨endpoint, -, he⟩
  · exact .inr (getDM_eq_error he).2.symm
  · cases he

end Client

/-! ## Loaded descriptions -/

/-- The description was loaded: read from a text, alone or with what it includes, or fetched. -/
inductive Wsdl.IsLoaded (wsdl : Wsdl) : Prop where
  | parse (text : String) (options : LoadOptions) (h : Wsdl.parse text options = .ok wsdl)
  | ofText (text : String) (location : Option String) (source : Source) (options : LoadOptions)
      (h : (Wsdl.ofText text location source options).outcome = .ok wsdl)
  | fetch (location : String) (source : Source) (options : LoadOptions)
      (h : (Wsdl.fetch location source options).outcome = .ok wsdl)

namespace Wsdl

theorem declared_of_ofDeclarations {d : Declarations} {source : String} {location : Option String}
    {options : LoadOptions} {wsdl : Wsdl} (h : ofDeclarations d source location options = .ok wsdl) :
    wsdl.source = source ∧ wsdl.definitions = d.resolve.1 := by
  obtain ⟨defs, hdefs, h⟩ := bind_eq_ok h
  obtain rfl := Except.ok.inj h
  exact ⟨rfl, Declarations.eq_resolve_of_definitions (mapError_eq_ok hdefs)⟩

/-- What a text is loaded as is what it declares, with whatever schemas were included, resolved. -/
theorem declared_of_ofText {text : String} {location : Option String} {source : Source}
    {options : LoadOptions} {wsdl : Wsdl}
    (h : (ofText text location source options).outcome = .ok wsdl) :
    ∃ d schemas, Declarations.parse wsdl.source options.strict = .ok d ∧
      wsdl.definitions = ({ d with schemas } : Declarations).resolve.1 := by
  unfold ofText at h
  split at h
  · cases h
  · next d hd =>
    obtain ⟨schemas, -, h⟩ := bind_eq_ok h
    obtain ⟨hsource, hdefs⟩ := declared_of_ofDeclarations h
    exact ⟨d, schemas, hsource ▸ hd, hdefs⟩

/-- What is loaded is what the document declares, with whatever schemas were included, resolved. -/
theorem IsLoaded.declared {wsdl : Wsdl} (h : wsdl.IsLoaded) :
    ∃ strict d schemas, Declarations.parse wsdl.source strict = .ok d ∧
      wsdl.definitions = ({ d with schemas } : Declarations).resolve.1 := by
  cases h with
  | parse text options h =>
    obtain ⟨d, hd, h⟩ := bind_eq_ok h
    split at h
    · obtain ⟨hsource, hdefs⟩ := declared_of_ofDeclarations h
      exact ⟨_, d, d.schemas, hsource ▸ mapError_eq_ok hd, hdefs⟩
    · cases h
  | ofText text location source options h => exact ⟨_, declared_of_ofText h⟩
  | fetch location source options h =>
    unfold Wsdl.fetch at h
    split at h
    · cases h
    · exact ⟨_, declared_of_ofText h⟩

theorem IsLoaded.isIntegral {wsdl : Wsdl} (h : wsdl.IsLoaded) :
    wsdl.definitions.IsKeyed ∧ wsdl.definitions.IsIntegral := by
  obtain ⟨strict, d, schemas, hparse, hdefs⟩ := h.declared
  have hkeyed := (Declarations.isKeyed_of_parse hparse).withSchemas schemas
  rw [hdefs]
  exact ⟨hkeyed.resolve, hkeyed.isIntegral_resolve⟩

/-- A description that was loaded agrees with itself, whatever its document says and whatever was
included: so all of it is described, no server over it misses a binding, and no client of it its
port or binding. -/
theorem IsLoaded.agrees {wsdl : Wsdl} (h : wsdl.IsLoaded) :
    wsdl.definitions.IsKeyed ∧ wsdl.definitions.IsIntegral ∧ wsdl.definitions.DescribesAll ∧
      (∀ server : Dispatcher, server.wsdl = wsdl → ∀ path request name,
        (server.dispatch path request).result ≠ .error (.unknownBinding name)) ∧
      ∀ settings c, Client.build wsdl settings = .ok c → ∀ method args name,
        c.request method args ≠ .error (.unknownPort name) ∧
          c.request method args ≠ .error (.unknownBinding name) := by
  obtain ⟨hkeyed, hintegral⟩ := h.isIntegral
  refine ⟨hkeyed, hintegral, hintegral.describes hkeyed, ?_, ?_⟩
  · rintro server rfl path request name
    exact Dispatcher.dispatch_ne_unknownBinding hintegral path request name
  · intro settings c hbuild method args name
    obtain ⟨-, -, service, port, binding, -, -, -, hbound⟩ := Client.bound_of_build hkeyed hbuild
    constructor <;> intro he <;> rcases Client.request_error hbound he with h | h <;> cases h

theorem agrees_orders :
    ordersWsdl.IsLoaded ∧ orders.IsKeyed ∧ orders.IsIntegral ∧ orders.DescribesAll ∧
    (∀ server : Dispatcher, server.wsdl = ordersWsdl → ∀ path request name,
      (server.dispatch path request).result ≠ .error (.unknownBinding name)) ∧
    ∀ settings c, Client.build ordersWsdl settings = .ok c → ∀ method args name,
      c.request method args ≠ .error (.unknownPort name) ∧
        c.request method args ≠ .error (.unknownBinding name) :=
  have hloaded : ordersWsdl.IsLoaded := .parse _ _ parse_orders
  ⟨hloaded, IsLoaded.agrees hloaded⟩

end Wsdl

end Soap
