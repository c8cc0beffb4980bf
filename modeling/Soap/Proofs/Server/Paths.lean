import Mathlib.Data.List.MinMax
import Soap.Proofs.Server.Failure

/-!
# Which port a path leads to

A path is looked up without the one slash at its end, and of the ports whose locations have this path the one that
is declared last is found (`Dispatcher.portFor?_eq_some_iff`). So the last port of a path answers under every
spelling of it, and what is declared for the same path before it is out of reach
(`Dispatcher.reaches_last_port`).

A server without a path of its own strips a slash before it asks the dispatcher, which strips another one. Both agree
on the paths that end in one slash at most, and on a path with two they agree only by chance
(`Server.serves_iff_routed`).
-/

namespace Soap

open Xml (Markup isLocalName)

/-! ## One slash at the end -/

theorem normalizePath_slash (path : String) : normalizePath (path ++ "/") = path := by
  have hcut : Text.beforeTail? ['/'] (path ++ "/").toList = some path.toList := by
    rw [String.toList_append]
    exact Text.beforeTail?_eq_some.mpr rfl
  rw [normalizePath, hcut]
  exact String.ofList_toList

theorem normalizePath_of_not_slash {path : String} (h : ¬ ['/'] <:+ path.toList) : normalizePath path = path := by
  have hcut : Text.beforeTail? ['/'] path.toList = none := by
    rw [Option.eq_none_iff_forall_ne_some]
    intro front hfront
    exact h ⟨front, (Text.beforeTail?_eq_some.mp hfront).symm⟩
  rw [normalizePath, hcut]
  rfl

/-- One of two slashes is left. -/
theorem normalizePath_slashes (path : String) : normalizePath (path ++ "//") = path ++ "/" := by
  have happend : path ++ "//" = path ++ "/" ++ "/" := by
    rw [String.append_assoc]
    rfl
  rw [happend, normalizePath_slash]

/-- The path is one of a key: it is the key with a slash, or the key itself if that has none to lose. -/
def IsPathOf (key path : String) : Prop := path = key ++ "/" ∨ path = key ∧ ¬ ['/'] <:+ key.toList

theorem IsPathOf.normalizePath_eq {key path : String} (h : IsPathOf key path) : normalizePath path = key := by
  rcases h with rfl | ⟨rfl, hslash⟩
  · exact normalizePath_slash key
  · exact normalizePath_of_not_slash hslash

/-- Every path is one of the key that it is looked up by. -/
theorem isPathOf_normalizePath (path : String) : IsPathOf (normalizePath path) path := by
  by_cases hslash : ['/'] <:+ path.toList
  · obtain ⟨front, hfront⟩ := hslash
    have hpath : path = String.ofList front ++ "/" := by
      rw [← String.toList_inj, String.toList_append, String.toList_ofList, ← hfront]
      rfl
    rw [hpath, normalizePath_slash]
    exact .inl rfl
  · rw [normalizePath_of_not_slash hslash]
    exact .inr ⟨rfl, hslash⟩

/-- The paths of a key are those that are looked up by it. -/
theorem isPathOf_iff {key path : String} : IsPathOf key path ↔ normalizePath path = key := by
  constructor
  · exact IsPathOf.normalizePath_eq
  · rintro rfl
    exact isPathOf_normalizePath path

namespace Dispatcher

variable {d : Dispatcher} {path : String} {bound : BoundPort}

/-! ## The last port of a path -/

/-- Of the ports under a key this one is declared last. -/
def IsLastAt (definitions : Definitions) (key : String) (bound : BoundPort) : Prop :=
  ∃ earlier later, locatedPorts definitions = earlier ++ (key, bound) :: later ∧ ∀ entry ∈ later, entry.1 ≠ key

theorem exists_isLastAt {definitions : Definitions} {key : String} (h : (key, bound) ∈ locatedPorts definitions) :
    ∃ last, IsLastAt definitions key last := by
  have hkey : key ∈ OrderedMap.keys (locatedPorts definitions) := List.mem_map.mpr ⟨_, h, rfl⟩
  obtain ⟨earlier, last, later, hsplit, hlater⟩ := OrderedMap.exists_last hkey
  refine ⟨last, earlier, later, hsplit, ?_⟩
  intro entry hentry heq
  exact hlater (List.mem_map.mpr ⟨entry, hentry, heq⟩)

/-- A path leads to the last port under its key. -/
theorem portFor?_eq_some_iff : d.portFor? path = some bound ↔ IsLastAt d.definitions (normalizePath path) bound := by
  have hlast : ∀ last, IsLastAt d.definitions (normalizePath path) last → d.portFor? path = some last := by
    rintro last ⟨earlier, later, hsplit, hlater⟩
    rw [portFor?, ports, OrderedMap.get?_ofList, hsplit]
    apply OrderedMap.get?_reverse_of_last
    intro hkey
    obtain ⟨entry, hentry, heq⟩ := List.mem_map.mp hkey
    exact hlater entry hentry heq
  constructor
  · intro h
    obtain ⟨last, hislast⟩ := exists_isLastAt (OrderedMap.mem_ofList (OrderedMap.mem_of_get? h))
    obtain rfl := Option.some.inj (h.symm.trans (hlast last hislast))
    exact hislast
  · exact hlast bound

/-- A path leads to a port exactly if its key is that of one. -/
theorem portFor?_isSome_iff : (d.portFor? path).isSome = true ↔ normalizePath path ∈ d.ports.keys :=
  OrderedMap.get?_isSome_iff

/-- A port has one location. -/
theorem eq_of_mem_locatedPorts {definitions : Definitions} (h : definitions.IsKeyed) {key key' : String}
    {bound bound' : BoundPort} (hmem : (key, bound) ∈ locatedPorts definitions)
    (hmem' : (key', bound') ∈ locatedPorts definitions) (hservice : bound'.service = bound.service)
    (hport : bound'.port = bound.port) : key' = key ∧ bound' = bound := by
  obtain ⟨s, hs, p, hp, location, hlocation, hkey, hbound⟩ := mem_locatedPorts.mp hmem
  obtain ⟨s', hs', p', hp', location', hlocation', hkey', hbound'⟩ := mem_locatedPorts.mp hmem'
  rw [hbound, hbound'] at hservice hport
  dsimp only at hservice hport
  have hgets' := OrderedMap.get?_of_mem h.services.nodup hs'
  rw [hservice, OrderedMap.get?_of_mem h.services.nodup hs] at hgets'
  obtain rfl : s = s' := Prod.ext hservice.symm (Option.some.inj hgets')
  have hgetp' := OrderedMap.get?_of_mem (h.ports s hs).nodup hp'
  rw [hport, OrderedMap.get?_of_mem (h.ports s hs).nodup hp] at hgetp'
  obtain rfl : p = p' := Prod.ext hport.symm (Option.some.inj hgetp')
  obtain rfl := Option.some.inj (hlocation.symm.trans hlocation')
  exact ⟨hkey'.trans hkey.symm, hbound'.trans hbound.symm⟩

/-- A path that leads to a port is one of its location, and no later port has it. -/
theorem isLastAt_of_portFor? (h : d.definitions.IsKeyed) {key : String} {own : BoundPort}
    (hmem : (key, own) ∈ locatedPorts d.definitions) (hbound : d.portFor? path = some bound)
    (hservice : bound.service = own.service) (hport : bound.port = own.port) :
    IsPathOf key path ∧ IsLastAt d.definitions key own := by
  have hlast := portFor?_eq_some_iff.mp hbound
  have hfound := OrderedMap.mem_ofList (OrderedMap.mem_of_get? hbound)
  -- The port that is found has this service and this name, and there is no second one with them.
  obtain ⟨hkey, rfl⟩ := eq_of_mem_locatedPorts h hmem hfound hservice hport
  rw [hkey] at hlast
  exact ⟨isPathOf_iff.mpr hkey, hlast⟩

/-- A handler is called under the paths of its port, and only if no later port has them. -/
theorem isLastAt_of_invoked (h : d.definitions.IsKeyed) {key : String} {own : BoundPort}
    (hmem : (key, own) ∈ locatedPorts d.definitions) {text method : String} {args : Value}
    (hinvoked : .invoked ⟨own.service, own.port, method⟩ args ∈ (d.dispatch path text).activities) :
    IsPathOf key path ∧ IsLastAt d.definitions key own := by
  obtain ⟨request, route, -, hroute, hoperation, -⟩ := of_invoked hinvoked
  obtain ⟨bound, element, hbound, -, -, -, hservice, hport⟩ := of_route_eq_ok hroute
  rw [hoperation] at hservice hport
  exact isLastAt_of_portFor? h hmem hbound hservice.symm hport.symm

/-- A decoded request whose credentials are accepted is answered. -/
theorem dispatch_of_authenticated {text : String} {request : Envelope}
    (hdecode : Envelope.decode (some d.definitions) text = .ok request)
    (hauth : (d.authenticate request).result = .ok ()) :
    d.dispatch path text = (d.answer path request).after (d.authenticate request).activities := by
  rw [dispatch, hdecode]
  dsimp only
  rw [hauth]

/-! ## Paths without a port -/

/-- Routing fails for the path exactly if no port has it. -/
theorem route_eq_unknownPath {request : Envelope} {other : String} :
    d.route path request = .error (.unknownPath other) ↔ other = path ∧ d.portFor? path = none := by
  constructor
  · intro h
    -- The steps in order: port, binding, body, method. Only the first is about the path.
    rcases bind_eq_error h with h | ⟨bound, -, h⟩
    · obtain ⟨hnone, herror⟩ := getDM_eq_error h
      exact ⟨(ServerError.unknownPath.inj herror).symm, hnone⟩
    rcases bind_eq_error h with h | ⟨binding, -, h⟩
    · cases (getDM_eq_error h).2
    rcases bind_eq_error h with h | ⟨body, -, h⟩
    · cases (getDM_eq_error h).2
    rcases bind_eq_error h with h | ⟨method, -, h⟩
    · unfold methodFor at h
      split at h
      · cases h
      · split at h <;> cases h
    · cases h
  · rintro ⟨rfl, hnone⟩
    rw [route, hnone]
    rfl

/-- The error that no port has the path is for requests that are decoded and accepted. -/
theorem result_dispatch_eq_unknownPath {text other : String} :
    (d.dispatch path text).result = .error (.unknownPath other) ↔
      other = path ∧ d.portFor? path = none ∧
        ∃ request, Envelope.decode (some d.definitions) text = .ok request ∧
          (d.authenticate request).result = .ok () := by
  constructor
  · intro h
    unfold dispatch at h
    split at h
    · cases h
    · next request hdecode =>
      dsimp only at h
      split at h
      · cases h
      · next hauth =>
        have hanswer : (d.answer path request).result = .error (.unknownPath other) := h
        unfold answer at hanswer
        split at hanswer
        · next e hroute =>
          obtain rfl := Except.error.inj hanswer
          obtain ⟨rfl, hport⟩ := route_eq_unknownPath.mp hroute
          exact ⟨rfl, hport, request, hdecode, hauth⟩
        · unfold invoke at hanswer
          split at hanswer
          · cases hanswer
          · dsimp only at hanswer
            split at hanswer <;> cases hanswer
  · rintro ⟨rfl, hport, request, hdecode, hauth⟩
    have hroute : d.route other request = .error (.unknownPath other) := route_eq_unknownPath.mpr ⟨rfl, hport⟩
    have hanswer : (d.answer other request).result = .error (.unknownPath other) := by
      rw [answer, hroute]
      rfl
    rw [dispatch_of_authenticated hdecode hauth]
    exact hanswer

/-! ## Requests for an operation -/

/-- The text is a request whose credentials are accepted and whose element a binding takes for `method`. -/
def Asks (d : Dispatcher) (binding : Binding) (text method : String) (args : Value) : Prop :=
  ∃ request element output, Envelope.decode (some d.definitions) text = .ok request ∧
    (d.authenticate request).result = .ok () ∧ request.bodyElement? = some (element, args) ∧
    methodFor binding element = .ok (method, output)

/-- Who asks at the path of a port calls the port's handler. -/
theorem Asks.invoked {binding : Binding} {text method : String} {args : Value} (h : d.Asks binding text method args)
    (hport : d.portFor? path = some bound) (hbinding : d.definitions.bindings.get? bound.binding = some binding)
    {handler : Handler} (hhandler : d.handlers.get? ⟨bound.service, bound.port, method⟩ = some handler) :
    .invoked ⟨bound.service, bound.port, method⟩ args ∈ (d.dispatch path text).activities := by
  obtain ⟨request, element, output, hdecode, hauth, hbody, hmethod⟩ := h
  have hroute := route_eq_ok request hport hbinding hbody hmethod
  have hanswer : .invoked ⟨bound.service, bound.port, method⟩ args ∈ (d.answer path request).activities := by
    rw [answer, hroute]
    dsimp only
    rw [invoke, hhandler]
    exact List.mem_singleton_self _
  rw [dispatch_of_authenticated hdecode hauth]
  exact List.mem_append_right _ hanswer

/-- An envelope around an element without content. -/
def bareText (element : String) (credentials : Option (String × String)) : String :=
  Envelope.render (Markup.renderAll [.element element [] []]) .empty
    ((credentials.map fun (username, password) => encodeSecurity username password).map Markup.render)

/-- What is read of credentials in a header. -/
def headerOf (credentials : Option (String × String)) : Option Value :=
  credentials.map fun (username, password) => .object [("Security", securityOf username password)]

theorem decode_bareText (defs : Option Definitions) {element : String} (hname : isLocalName element = true)
    (hfault : element ≠ "Fault") (credentials : Option (String × String)) :
    ∃ args, Envelope.decode defs (bareText element credentials) =
      .ok { header := headerOf credentials, body := .object [(element, args)] } := by
  let schema := messageSchema defs element
  -- An element that is closed as it was opened is the empty text or the empty object.
  have hempty : ∃ args, Partial.empty.close (schema.description.isLeaf) = .ofValue args := by
    cases schema.description.isLeaf
    · exact ⟨.object [], rfl⟩
    · exact ⟨.string "", rfl⟩
  obtain ⟨args, hargs⟩ := hempty
  have hinside : ∀ outer, ClosesAs defs schema.typed element (some schema.description) outer true [] []
      (.ofValue args) := fun outer => ⟨.empty, rfl, hargs⟩
  have hwritable : Markup.AreWritable [] := trivial
  exact ⟨args, decode_render .empty (readsHeader_credentials defs credentials) hname hfault (.inl rfl) .nil hwritable
    hinside⟩

/-- Every operation whose element can be written is asked for by some text. -/
theorem exists_asks {binding : Binding} {element method : String} {output : Option String}
    (hmethod : methodFor binding element = .ok (method, output)) (hname : isLocalName element = true)
    (hfault : element ≠ "Fault") {credentials : Option (String × String)}
    (hauth : ∀ body, (d.authenticate { header := headerOf credentials, body }).result = .ok ()) :
    ∃ text args, d.Asks binding text method args := by
  obtain ⟨args, hdecode⟩ := decode_bareText (some d.definitions) hname hfault credentials
  exact ⟨_, args, _, element, output, hdecode, hauth _, rfl, hmethod⟩

/-- Of the ports whose locations have one path up to a slash at its end, the one that is declared last answers under
this path, with the slash and, unless another one is left at the end, without it. The port of a service answers at
all only if it is the one, and then its handlers are called by everybody who asks for an operation at these paths,
as can be done for each whose element can be written. A handler of it is called under no other path. -/
theorem reaches_last_port (hloaded : d.wsdl.IsLoaded) {s : String × Service} (hs : s ∈ d.definitions.services)
    {p : String × Port} (hp : p ∈ s.2.ports) {location : String} (hlocation : p.2.location = some location) :
    let key := normalizePath (locationPath location)
    let own : BoundPort := { service := s.1, port := p.1, binding := p.2.binding }
    IsPathOf key (locationPath location) ∧
    (∃ last, IsLastAt d.definitions key last) ∧
    (∀ last path, IsLastAt d.definitions key last → IsPathOf key path → d.portFor? path = some last) ∧
    ((∃ path, d.portFor? path = some own) ↔ IsLastAt d.definitions key own) ∧
    (IsLastAt d.definitions key own → ∃ binding, d.definitions.bindings.get? p.2.binding = some binding ∧
      ∀ method handler, d.handlers.get? ⟨s.1, p.1, method⟩ = some handler →
        (∀ path, IsPathOf key path → ∀ text args, d.Asks binding text method args →
          .invoked ⟨s.1, p.1, method⟩ args ∈ (d.dispatch path text).activities) ∧
        ∀ element output credentials, methodFor binding element = .ok (method, output) →
          isLocalName element = true → element ≠ "Fault" →
          (∀ body, (d.authenticate { header := headerOf credentials, body }).result = .ok ()) →
          ∃ text args, d.Asks binding text method args) ∧
    ∀ path text method args, .invoked ⟨s.1, p.1, method⟩ args ∈ (d.dispatch path text).activities →
      IsPathOf key path ∧ IsLastAt d.definitions key own := by
  intro key own
  obtain ⟨hkeyed, hintegral⟩ := hloaded.isIntegral
  have hmem : (key, own) ∈ locatedPorts d.definitions :=
    mem_locatedPorts.mpr ⟨s, hs, p, hp, location, hlocation, rfl, rfl⟩
  have hleads : ∀ last path, IsLastAt d.definitions key last → IsPathOf key path → d.portFor? path = some last := by
    intro last path hlast hpath
    rw [portFor?_eq_some_iff, hpath.normalizePath_eq]
    exact hlast
  refine ⟨isPathOf_normalizePath _, exists_isLastAt hmem, hleads, ?_, ?_, ?_⟩
  · constructor
    · rintro ⟨path, hpath⟩
      exact (isLastAt_of_portFor? hkeyed hmem hpath rfl rfl).2
    · intro hlast
      exact ⟨_, hleads own _ hlast (isPathOf_normalizePath _)⟩
  · intro hlast
    obtain ⟨binding, hbinding⟩ := hintegral.get?_binding hs hp
    refine ⟨binding, hbinding, ?_⟩
    intro method handler hhandler
    refine ⟨?_, ?_⟩
    · intro path hpath text args hasks
      exact hasks.invoked (hleads own path hlast hpath) hbinding hhandler
    · intro element output credentials hmethod hname hfault hauth
      exact exists_asks hmethod hname hfault hauth
  · intro path text method args hinvoked
    exact isLastAt_of_invoked hkeyed hmem hinvoked

end Dispatcher

/-! ### Depots that share a path -/

/-- What can be asked of a depot. -/
def fetchStock (style : Style) : Operation :=
  { name := "fetch", style, soapAction := "", input := none, output := none, inputBody := none
    outputBody := none, documentation := none }

/-- The binding of all depots. -/
def depotBinding : Binding :=
  { name := "DepotSoap", transport := "http://schemas.xmlsoap.org/soap/http", style := .rpc, portType := "Depot"
    methods := [("fetch", fetchStock .rpc)] }

/-- A depot at a location. -/
def depot (name location : String) : Port := { name, location := some location, binding := "DepotSoap" }

/-- A description with two ports whose locations differ in the host and in a slash at the end, and one whose
location ends in two slashes. -/
def depots : Definitions :=
  { name := none, targetNamespace := some "urn:depots", namespaces := [], schemas := {}, messages := []
    portTypes := [("Depot", { name := "Depot", operations := [("fetch", fetchStock .document)] })]
    bindings := [("DepotSoap", depotBinding)]
    services := [("Depots",
      { name := "Depots", documentation := none
        ports := [("First", depot "First" "http://first/x"), ("Second", depot "Second" "http://second/x/"),
          ("Third", depot "Third" "http://third/y//")] })] }

/-- The element of a depot. -/
def depotMarkup (name location : String) : Markup :=
  .element "port" [("name", name), ("binding", "DepotSoap")] [leafMarkup "address" [("location", location)]]

/-- The document that describes the depots. -/
def depotsMarkup : Markup :=
  .element "definitions" [("targetNamespace", "urn:depots")]
    [.element "portType" [("name", "Depot")] [leafMarkup "operation" [("name", "fetch")]],
      .element "binding" [("name", "DepotSoap"), ("type", "Depot")]
        [leafMarkup "binding" [("style", "rpc"), ("transport", "http://schemas.xmlsoap.org/soap/http")]],
      .element "service" [("name", "Depots")]
        [depotMarkup "First" "http://first/x", depotMarkup "Second" "http://second/x/",
          depotMarkup "Third" "http://third/y//"]]

/-- The loaded description of the depots. -/
def depotsWsdl : Wsdl := { definitions := depots, source := depotsMarkup.render, location := none }

theorem parse_depots : Wsdl.parse depotsMarkup.render {} = .ok depotsWsdl := by
  have hw : depotsMarkup.IsWritable := by decide +kernel
  rw [Wsdl.parse, Declarations.parse, depotsMarkup, Document.parse_render hw]
  decide +kernel

theorem isLoaded_depots : depotsWsdl.IsLoaded := .parse _ _ parse_depots

/-- A dispatcher with a handler for each of the two ports at one path. -/
def depotsDispatcher : Dispatcher :=
  { wsdl := depotsWsdl
    handlers := [(⟨"Depots", "First", "fetch"⟩, .ofFunction id), (⟨"Depots", "Second", "fetch"⟩, .ofFunction id)] }

namespace Dispatcher

/-- The port that answers at the path of two. -/
def secondDepot : BoundPort := ⟨"Depots", "Second", "DepotSoap"⟩

def thirdDepot : BoundPort := ⟨"Depots", "Third", "DepotSoap"⟩

theorem locationPath_depots :
    locationPath "http://first/x" = "/x" ∧ locationPath "http://second/x/" = "/x/" ∧
      locationPath "http://third/y//" = "/y//" := by
  decide +kernel

theorem locatedPorts_depots :
    locatedPorts depots = [("/x", ⟨"Depots", "First", "DepotSoap"⟩), ("/x", secondDepot), ("/y/", thirdDepot)] := by
  obtain ⟨hfirst, hsecond, hthird⟩ := locationPath_depots
  show [(normalizePath (locationPath "http://first/x"), _), (normalizePath (locationPath "http://second/x/"), _),
    (normalizePath (locationPath "http://third/y//"), _)] = _
  rw [hfirst, hsecond, hthird]
  decide

theorem isLastAt_secondDepot : IsLastAt depots "/x" secondDepot :=
  ⟨[_], [_], locatedPorts_depots, by decide⟩

theorem ports_depots : depotsDispatcher.ports = [("/x", secondDepot), ("/y/", thirdDepot)] := by
  show OrderedMap.ofList (locatedPorts depots) = _
  rw [locatedPorts_depots]
  decide

theorem portFor?_depots (path : String) :
    depotsDispatcher.portFor? path =
      OrderedMap.get? [("/x", secondDepot), ("/y/", thirdDepot)] (normalizePath path) := by
  rw [portFor?, ports_depots]

/-- The second depot is found with and without a slash, and whoever asks it to fetch something is heard. -/
theorem reaches_last_port_second :
    depotsDispatcher.portFor? "/x" = some secondDepot ∧ depotsDispatcher.portFor? "/x/" = some secondDepot ∧
    ∃ text args, .invoked ⟨"Depots", "Second", "fetch"⟩ args ∈ (depotsDispatcher.dispatch "/x" text).activities := by
  have hkey : normalizePath (locationPath "http://second/x/") = "/x" := by
    rw [locationPath_depots.2.1]
    decide
  obtain ⟨-, -, hfound, -, hcalls, -⟩ :=
    reaches_last_port (d := depotsDispatcher) isLoaded_depots (List.mem_singleton_self _)
      (p := ("Second", depot "Second" "http://second/x/")) (.tail _ (.head _)) rfl
  rw [hkey] at hfound hcalls
  obtain ⟨binding, hbinding, hcalled⟩ := hcalls isLastAt_secondDepot
  obtain rfl : depotBinding = binding := Option.some.inj hbinding
  obtain ⟨hinvoked, hexists⟩ := hcalled "fetch" (.ofFunction id) rfl
  obtain ⟨text, args, hasks⟩ := hexists "fetch" _ none rfl (by decide) (by decide) (fun _ => rfl)
  have hslash : IsPathOf "/x" "/x/" := .inl (by decide)
  have hplain : IsPathOf "/x" "/x" := .inr ⟨rfl, by decide⟩
  exact ⟨hfound _ _ isLastAt_secondDepot hplain, hfound _ _ isLastAt_secondDepot hslash, text, args,
    hinvoked "/x" hplain text args hasks⟩

/-- The first depot cannot be reached by its own path or by any other, and the third one only with both slashes. -/
theorem not_reaches_first_depot :
    depotsWsdl.IsLoaded ∧
    ¬ (∀ s ∈ depots.services, ∀ p ∈ s.2.ports, ∀ location, p.2.location = some location →
      depotsDispatcher.portFor? (locationPath location) = some ⟨s.1, p.1, p.2.binding⟩) ∧
    (∀ path text args,
      .invoked ⟨"Depots", "First", "fetch"⟩ args ∉ (depotsDispatcher.dispatch path text).activities) ∧
    depotsDispatcher.portFor? "/y//" = some thirdDepot ∧
    depotsDispatcher.portFor? "/y/" = none := by
  have hpath : normalizePath "/x" = "/x" := by decide
  have hsecond : depotsDispatcher.portFor? "/x" = some secondDepot := by
    rw [portFor?_depots, hpath]
    decide
  refine ⟨isLoaded_depots, ?_, ?_, ?_, ?_⟩
  · intro h
    have hfirst := h _ (List.mem_singleton_self _) ("First", _) List.mem_cons_self _ rfl
    rw [locationPath_depots.1, hsecond] at hfirst
    exact absurd (congrArg BoundPort.port (Option.some.inj hfirst)) (by decide)
  · intro path text args hinvoked
    have hfirst : ("/x", ⟨"Depots", "First", "DepotSoap"⟩) ∈ locatedPorts depots := by
      rw [locatedPorts_depots]
      exact List.mem_cons_self
    obtain ⟨-, hlast⟩ := isLastAt_of_invoked (d := depotsDispatcher) isLoaded_depots.isIntegral.1 hfirst hinvoked
    have hfound : depotsDispatcher.portFor? "/x" = some ⟨"Depots", "First", "DepotSoap"⟩ := by
      rw [portFor?_eq_some_iff, hpath]
      exact hlast
    rw [hsecond] at hfound
    exact absurd (congrArg BoundPort.port (Option.some.inj hfound)) (by decide)
  · rw [portFor?_depots]
    decide
  · rw [portFor?_depots]
    decide

end Dispatcher

/-! ## Paths that are served -/

namespace Server

variable {s : Server}

/-- A server without a path of its own serves what leads to a port when a slash is stripped first. -/
theorem serves_iff (hpath : s.path = none) (path : String) :
    s.serves path = true ↔ normalizePath (normalizePath path) ∈ s.dispatcher.ports.keys := by
  unfold serves
  dsimp only
  rw [hpath]
  exact Dispatcher.portFor?_isSome_iff

theorem result_handle_eq_none_iff (s : Server) (request : HttpRequest) :
    (s.handle request).result = none ↔ s.serves request.path = false := by
  unfold handle
  split
  · next hserves =>
    rw [hserves]
    split <;> simp [Traced.quiet]
  · next hserves => simpa [Traced.quiet] using hserves

/-- Up to one slash at the end, what is stripped by the server is not missed by the dispatcher. -/
theorem serves_iff_of_single (hpath : s.path = none) {path : String} (h : ¬ ['/', '/'] <:+ path.toList) :
    s.serves path = true ↔ (s.dispatcher.portFor? path).isSome = true := by
  rw [serves_iff hpath, normalizePath_normalizePath h, Dispatcher.portFor?_isSome_iff]

/-- Of two slashes the server strips both and the dispatcher one. -/
theorem serves_slashes (hpath : s.path = none) (key : String) :
    (s.serves (key ++ "//") = true ↔ key ∈ s.dispatcher.ports.keys) ∧
    ((s.dispatcher.portFor? (key ++ "//")).isSome = true ↔ key ++ "/" ∈ s.dispatcher.ports.keys) := by
  rw [serves_iff hpath, Dispatcher.portFor?_isSome_iff, normalizePath_slashes, normalizePath_slash]
  exact ⟨Iff.rfl, Iff.rfl⟩

theorem exists_slashes {path : String} (h : ['/', '/'] <:+ path.toList) : ∃ key, path = key ++ "//" := by
  obtain ⟨front, hfront⟩ := h
  refine ⟨String.ofList front, ?_⟩
  rw [← String.toList_inj, String.toList_append, String.toList_ofList, ← hfront]
  rfl

/-- A served path that leads to no port ends in two slashes. -/
theorem serves_and_not_routed_iff (hpath : s.path = none) (path : String) :
    s.serves path = true ∧ s.dispatcher.portFor? path = none ↔
      ∃ key, path = key ++ "//" ∧ key ∈ s.dispatcher.ports.keys ∧ key ++ "/" ∉ s.dispatcher.ports.keys := by
  rw [← Option.not_isSome_iff_eq_none]
  constructor
  · rintro ⟨hserves, hport⟩
    have hslashes : ['/', '/'] <:+ path.toList :=
      Decidable.byContradiction fun h => hport ((serves_iff_of_single hpath h).mp hserves)
    obtain ⟨key, rfl⟩ := exists_slashes hslashes
    obtain ⟨hserved, hrouted⟩ := serves_slashes hpath key
    exact ⟨key, rfl, hserved.mp hserves, mt hrouted.mpr hport⟩
  · rintro ⟨key, rfl, hkey, hslash⟩
    obtain ⟨hserved, hrouted⟩ := serves_slashes hpath key
    exact ⟨hserved.mpr hkey, mt hrouted.mp hslash⟩

theorem bodyText_ne_unknownPath (s : Server) (request : HttpRequest) (other : String) :
    s.bodyText request ≠ .error (.unknownPath other) := by
  intro h
  rcases bind_eq_error h with h | ⟨bytes, -, h⟩
  · unfold bodyBytes at h
    split at h
    · cases h
    · obtain ⟨e, -, he⟩ := mapError_eq_error h
      cases he
    · cases h
  · obtain ⟨e, -, he⟩ := mapError_eq_error h
    cases he

/-- A request comes to the error that no port has its path if it is decoded and accepted. -/
theorem outcome_eq_unknownPath {request : HttpRequest} {other : String} :
    s.outcome request = .error (.unknownPath other) ↔
      other = request.path ∧ s.dispatcher.portFor? request.path = none ∧
        ∃ text envelope, s.bodyText request = .ok text ∧
          Envelope.decode (some s.dispatcher.definitions) text = .ok envelope ∧
          (s.dispatcher.authenticate envelope).result = .ok () := by
  constructor
  · intro h
    rcases bind_eq_error h with h | ⟨text, htext, h⟩
    · exact absurd h (s.bodyText_ne_unknownPath request other)
    · obtain ⟨hother, hport, envelope, hdecode, hauth⟩ := Dispatcher.result_dispatch_eq_unknownPath.mp h
      exact ⟨hother, hport, text, envelope, htext, hdecode, hauth⟩
  · rintro ⟨hother, hport, text, envelope, htext, hdecode, hauth⟩
    rw [outcome, htext]
    exact Dispatcher.result_dispatch_eq_unknownPath.mpr ⟨hother, hport, envelope, hdecode, hauth⟩

/-- Where there is a port, some path is served that leads to none. -/
theorem exists_stray (hpath : s.path = none) (hports : s.dispatcher.ports ≠ []) :
    ∃ path, s.serves path = true ∧ s.dispatcher.portFor? path = none := by
  have hkeys : s.dispatcher.ports.keys ≠ [] := fun h => hports (List.map_eq_nil_iff.mp h)
  -- No key is longer than this one, so none is this one with a slash.
  obtain ⟨key, hkey⟩ := Option.ne_none_iff_exists'.mp (mt (List.argmax_eq_none (f := String.length)).mp hkeys)
  obtain ⟨hserves, hroutes⟩ := serves_slashes hpath key
  refine ⟨key ++ "//", hserves.mpr (List.argmax_mem hkey), ?_⟩
  rw [← Option.not_isSome_iff_eq_none, hroutes]
  intro hlonger
  have hle := List.le_of_mem_argmax hlonger hkey
  rw [String.length_append] at hle
  exact absurd hle (Nat.not_le.mpr (Nat.lt_add_of_pos_right (by decide)))

/-- A server without a path of its own answers nothing but what it serves. On a path with less than two slashes at the
end, that is what leads to a port, and what it answers there is never that no port has the path. With two slashes, the
server looks for a port without both of them and the dispatcher for one without the last: what the first finds and
the second does not is answered with this error, once it is decoded and accepted. Wherever there is a port, there is
such a path. -/
theorem serves_iff_routed (hpath : s.path = none) :
    (∀ request, (s.handle request).result = none ↔ s.serves request.path = false) ∧
    (∀ path, ¬ ['/', '/'] <:+ path.toList →
      (s.serves path = true ↔ (s.dispatcher.portFor? path).isSome = true)) ∧
    (∀ key, (s.serves (key ++ "//") = true ↔ key ∈ s.dispatcher.ports.keys) ∧
      ((s.dispatcher.portFor? (key ++ "//")).isSome = true ↔ key ++ "/" ∈ s.dispatcher.ports.keys)) ∧
    (∀ request response other, (s.handle request).result = some response →
      (s.outcome request = .error (.unknownPath other) ↔
        other = request.path ∧
        (∃ key, request.path = key ++ "//" ∧ key ∈ s.dispatcher.ports.keys ∧
          key ++ "/" ∉ s.dispatcher.ports.keys) ∧
        ∃ text envelope, s.bodyText request = .ok text ∧
          Envelope.decode (some s.dispatcher.definitions) text = .ok envelope ∧
          (s.dispatcher.authenticate envelope).result = .ok ())) ∧
    ((∀ path, s.serves path = true ↔ (s.dispatcher.portFor? path).isSome = true) ↔ s.dispatcher.ports = []) := by
  refine ⟨s.result_handle_eq_none_iff, fun path => serves_iff_of_single hpath, serves_slashes hpath, ?_, ?_⟩
  · intro request response other hresponse
    have hserves : s.serves request.path = true := by
      rw [← Bool.not_eq_false, ← result_handle_eq_none_iff, hresponse]
      exact Option.some_ne_none response
    rw [outcome_eq_unknownPath, ← serves_and_not_routed_iff hpath, and_iff_right hserves]
  · constructor
    · intro hagree
      refine Decidable.byContradiction fun hports => ?_
      obtain ⟨path, hserves, hport⟩ := exists_stray hpath hports
      have hrouted := (hagree path).mp hserves
      rw [hport] at hrouted
      cases hrouted
    · intro hports path
      rw [serves_iff hpath, Dispatcher.portFor?_isSome_iff, hports]
      exact ⟨fun h => absurd h List.not_mem_nil, fun h => absurd h List.not_mem_nil⟩

/-- A server of depots, at the paths of all of them. -/
def ofDepots : Server := { dispatcher := depotsDispatcher }

/-- A text that is posted to a path. -/
def postedTo (target text : String) : HttpRequest :=
  { method := "POST", target, headers := [], body := Utf8.encode text }

theorem path_postedTo (target text : String) : (postedTo target text).path = HttpRequest.pathOf target := rfl

theorem bodyText_postedTo (target text : String) : ofDepots.bodyText (postedTo target text) = .ok text :=
  ofDepots.bodyText_eq_ok rfl rfl

/-- What is asked of a depot. -/
def stockText : String := Dispatcher.bareText "fetch" none

/-- The depots at `/x` are served with one slash and with none, and as there are ports at all, there is a path on
which server and dispatcher do not agree. -/
theorem serves_iff_routed_depots :
    ofDepots.serves "/x" = true ∧ ofDepots.serves "/x/" = true ∧
    ∃ path, ¬ (ofDepots.serves path = true ↔ (ofDepots.dispatcher.portFor? path).isSome = true) := by
  obtain ⟨-, hsingle, -, -, hagree⟩ := serves_iff_routed (s := ofDepots) rfl
  refine ⟨?_, ?_, ?_⟩
  · rw [hsingle "/x" (by decide), ofDepots, Dispatcher.portFor?_depots]
    decide
  · rw [hsingle "/x/" (by decide), ofDepots, Dispatcher.portFor?_depots]
    decide
  · rw [← not_forall, hagree, ofDepots, Dispatcher.ports_depots]
    exact List.cons_ne_nil _ _

/-- With two slashes behind it, the path of the first two depots is served and leads nowhere, so that what is posted
there is answered with the error that no port has the path; and the path of the third one leads to it but is left to
others. -/
theorem not_serves_iff_routed_depots :
    depotsWsdl.IsLoaded ∧ ofDepots.path = none ∧
    (∃ response, (ofDepots.handle (postedTo "/x//" stockText)).result = some response ∧ response.status = 500 ∧
      ofDepots.outcome (postedTo "/x//" stockText) = .error (.unknownPath "/x//")) ∧
    ofDepots.dispatcher.portFor? "/x//" = none ∧
    (ofDepots.handle (postedTo "/y//" stockText)).result = none ∧
    ofDepots.dispatcher.portFor? "/y//" = some Dispatcher.thirdDepot := by
  have hpath : (postedTo "/x//" stockText).path = "/x//" := by
    rw [path_postedTo]
    decide
  have hother : (postedTo "/y//" stockText).path = "/y//" := by
    rw [path_postedTo]
    decide
  have hserves : ofDepots.serves (postedTo "/x//" stockText).path = true := by
    rw [hpath, serves_iff rfl, ofDepots, Dispatcher.ports_depots]
    decide
  have hport : ofDepots.dispatcher.portFor? "/x//" = none := by
    rw [ofDepots, Dispatcher.portFor?_depots]
    decide
  have houtcome : ofDepots.outcome (postedTo "/x//" stockText) = .error (.unknownPath "/x//") := by
    have hname : isLocalName "fetch" = true := by decide
    obtain ⟨args, hdecode⟩ := Dispatcher.decode_bareText (some depots) hname (by decide) none
    exact outcome_eq_unknownPath.mpr ⟨hpath.symm, hpath ▸ hport, _, _, bodyText_postedTo _ _, hdecode, rfl⟩
  obtain ⟨response, hresponse, hstatus⟩ := handle_of_error hserves rfl rfl houtcome nofun
  refine ⟨isLoaded_depots, rfl, ⟨response, hresponse, hstatus, houtcome⟩, hport, ?_, ?_⟩
  · rw [result_handle_eq_none_iff, hother, ← Bool.not_eq_true, serves_iff rfl, ofDepots, Dispatcher.ports_depots]
    decide
  · rw [ofDepots, Dispatcher.portFor?_depots]
    decide

end Server

end Soap
