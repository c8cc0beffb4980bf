import Mathlib.Data.List.Basic
import Soap.Proofs.Definitions.Equality
import Soap.Proofs.Definitions.Integrity
import Soap.Proofs.Definitions.Origin

/-!
# Strict and lenient resolution

`Declarations.definitions` resolves a whole document and asks afterwards whether a reference led
nowhere. Here references are resolved one after the other, into tables that grow, and strictly the
first one that leads nowhere ends it all (`Declarations.resolveInOrder`).

* Both ways are the same wherever everything stands under its own name, as in a document that was
  read (`IsFiled.resolveInOrder_eq`).
* Being strict only restricts: what is resolved strictly is resolved leniently as the same, and
  leniently everything is resolved (`Declarations.strict_restricts`).

Each step makes something and meets references that lead nowhere, and neither depends on strictness,
which only decides how the step ends (`settle`). Steps that are put together do the same
(`settle_bind`, `foldlM_settle`); so both runs are in step until the first reference that leads
nowhere.
-/

namespace Soap

variable {α β : Type}

/-! ## Steps that meet dangling references -/

/-- How a step ends that makes `a` and meets these references that lead nowhere. -/
def settle (strict : Bool) (a : α) (dangling : List Dangling) : Except Dangling α :=
  match strict, dangling with
  | true, first :: _ => .error first
  | _, _ => .ok a

@[simp] theorem settle_nil (strict : Bool) (a : α) : settle strict a [] = .ok a := by
  cases strict <;> rfl

theorem settle_lenient (a : α) (dangling : List Dangling) : settle false a dangling = .ok a := rfl

theorem settle_strict_eq_ok {a b : α} {dangling : List Dangling} :
    settle true a dangling = .ok b ↔ dangling = [] ∧ a = b := by
  cases dangling <;> simp [settle]

/-- A second step goes on from what the first one made. -/
theorem settle_bind (strict : Bool) (a : α) (dangling : List Dangling) (value : α → β)
    (more : α → List Dangling) :
    (settle strict a dangling >>= fun b => settle strict (value b) (more b)) =
      settle strict (value a) (dangling ++ more a) := by
  cases strict <;> cases dangling <;> rfl

theorem settle_map (strict : Bool) (a : α) (dangling : List Dangling) (f : α → β) :
    (settle strict a dangling >>= fun b => Except.ok (f b)) = settle strict (f a) dangling := by
  cases strict <;> cases dangling <;> rfl

/-- A loop meets what its steps meet. -/
theorem foldlM_settle {strict : Bool} {step : β → α → Except Dangling β} {value : β → α → β}
    {dangling : α → List Dangling}
    (h : ∀ acc x, step acc x = settle strict (value acc x) (dangling x)) (xs : List α) (acc : β) :
    xs.foldlM step acc = settle strict (xs.foldl value acc) (xs.flatMap dangling) := by
  induction xs generalizing acc with
  | nil => exact (settle_nil strict acc).symm
  | cons x xs ih =>
    rw [List.foldlM_cons, h, funext ih,
      settle_bind strict _ _ (fun b => xs.foldl value b) fun _ => xs.flatMap dangling]
    rfl

namespace Declarations

/-! ## Resolving in order -/

/-- A reference that leads nowhere ends a strict resolution; a lenient one passes over it. -/
def passOver (strict : Bool) (kind : ReferenceKind) (name : String) : Except Dangling Unit :=
  if strict then .error ⟨kind, name⟩ else .ok ()

section

variable (d : Declarations) (strict : Bool)

def addPart (parts : OrderedMap String Part) (part : PartDecl) :
    Except Dangling (OrderedMap String Part) := do
  let typeRef := (part.typeRef <|> part.element).getD ""
  let space := (d.namespaceOf? (.parse typeRef)).filter d.schemas.contains
  if space.isSome && !d.partTypeResolves space typeRef then passOver strict .type typeRef
  return parts.insert part.name { typeRef, space }

def elementBody (reference : String) : Except Dangling MessageBody := do
  let q := QName.parse reference
  let space := d.namespaceOf? q
  match space.bind fun ns => d.schemas.element? ns q.localName with
  | some decl =>
    if let some missing := d.schemas.missingReference decl then passOver strict .type missing
    return .element { decl, qualifier := q.qualifier, space }
  | none =>
    passOver strict .element reference
    return .unresolved reference

def messageBody (parts : List PartDecl) : Except Dangling MessageBody := do
  match parts.head?.bind PartDecl.element with
  | some reference => d.elementBody strict reference
  | none => return .parts (← parts.foldlM (d.addPart strict) [])

/-- Messages by name, and the names of messages by those of their elements. -/
structure MessageTable where
  messages : OrderedMap String Message := []
  aliases : OrderedMap String String := []

/-- A message is filed under its name, and under the name of its element. -/
def MessageTable.file (t : MessageTable) (m : Message) : MessageTable where
  messages := t.messages.insert m.name m
  aliases :=
    match m.element? with
    | some ref => t.aliases.insert ref.decl.name m.name
    | none => t.aliases

def addMessage (t : MessageTable) (m : MessageDecl) : Except Dangling MessageTable := do
  return t.file { name := m.name, body := ← d.messageBody strict m.parts }

variable (messages : OrderedMap String Message)

def transferred (transfer : Option TransferDecl) : Except Dangling (Option Message) := do
  match transfer.bind TransferDecl.message with
  | none => return none
  | some reference =>
    match messages.get? (localPart reference) with
    | some m => return some m
    | none =>
      passOver strict .message reference
      return none

def addOperation (operations : OrderedMap String Operation) (op : OperationDecl) :
    Except Dangling (OrderedMap String Operation) := do
  let input ← transferred strict messages op.input
  let output ← transferred strict messages op.output
  return operations.insert op.name {
    name := op.name
    style := op.style.getD default
    soapAction := op.soapAction.getD ""
    input
    output
    inputBody := none
    outputBody := none
    documentation := op.documentation }

def addPortType (portTypes : OrderedMap String PortType) (p : PortTypeDecl) :
    Except Dangling (OrderedMap String PortType) := do
  let operations ← p.operations.values.foldlM (addOperation strict messages) []
  return portTypes.insert p.name { name := p.name, operations }

/-- Settings that a binding has for one operation. Without such an operation they do nothing. -/
def overlay (style : Style) (methods : OrderedMap String Operation) (settings : OperationDecl) :
    OrderedMap String Operation :=
  methods.modify (applySettings style (some settings)) settings.name

def addBinding (portTypes : OrderedMap String PortType) (bindings : OrderedMap String Binding)
    (b : BindingDecl) : Except Dangling (OrderedMap String Binding) := do
  match portTypes.get? (localPart b.portType) with
  | none =>
    passOver strict .portType b.portType
    return bindings
  | some portType =>
    let style := b.style.getD default
    return bindings.insert b.name {
      name := b.name
      transport := b.transport
      style
      portType := localPart b.portType
      methods := b.operations.values.foldl (overlay style)
        (portType.operations.mapValues (applySettings style none)) }

/-- Definitions of what is filed in the tables and, beside them, the messages by their elements. -/
def filed (t : MessageTable) (portTypes : OrderedMap String PortType)
    (bindings : OrderedMap String Binding) : Definitions × OrderedMap String String :=
  ({ name := d.name
     targetNamespace := d.targetNamespace
     namespaces := d.namespaces
     schemas := d.schemas
     messages := t.messages
     portTypes
     bindings
     services := d.services.values.foldl (fun acc s =>
       OrderedMap.insert acc s.name (resolveService bindings s)) [] }, t.aliases)

/-- Resolve one reference after the other. -/
def resolveInOrder : Except Dangling (Definitions × OrderedMap String String) := do
  let t ← d.messages.values.foldlM (d.addMessage strict) {}
  let portTypes ← d.portTypes.values.foldlM (addPortType strict t.messages) []
  let bindings ← d.bindings.values.foldlM (addBinding strict portTypes) []
  return d.filed t portTypes bindings

end

/-! ## What each step makes and meets -/

variable (d : Declarations) (strict : Bool)

theorem passOver_bind (kind : ReferenceKind) (name : String) (a : α) :
    (passOver strict kind name >>= fun _ => Except.ok a) = settle strict a [⟨kind, name⟩] := by
  cases strict <;> rfl

theorem addPart_eq (parts : OrderedMap String Part) (part : PartDecl) :
    d.addPart strict parts part =
      settle strict (parts.insert part.name (d.resolvePart part).1) (d.resolvePart part).2 := by
  unfold addPart resolvePart
  dsimp only
  split
  · exact passOver_bind ..
  · exact (settle_nil strict _).symm

theorem elementBody_eq (reference : String) :
    d.elementBody strict reference =
      settle strict (d.resolveElement reference).1 (d.resolveElement reference).2 := by
  unfold elementBody resolveElement
  dsimp only
  cases (d.namespaceOf? (.parse reference)).bind fun ns =>
      d.schemas.element? ns (QName.parse reference).localName with
  | none => exact passOver_bind ..
  | some decl =>
    dsimp only
    cases d.schemas.missingReference decl with
    | none => exact (settle_nil strict _).symm
    | some missing => exact passOver_bind ..

theorem messageBody_eq (parts : List PartDecl) :
    d.messageBody strict parts = settle strict (d.resolveBody parts).1 (d.resolveBody parts).2 := by
  unfold messageBody resolveBody
  cases parts.head?.bind PartDecl.element with
  | some reference => exact d.elementBody_eq strict reference
  | none =>
    dsimp only
    rw [foldlM_settle (d.addPart_eq strict), List.flatMap_map, OrderedMap.ofList, OrderedMap.extend,
      List.foldl_map, List.foldl_map]
    exact settle_map ..

theorem addMessage_eq (t : MessageTable) (m : MessageDecl) :
    d.addMessage strict t m = settle strict (t.file (d.resolveMessage m).1) (d.resolveMessage m).2 := by
  unfold addMessage
  rw [messageBody_eq]
  exact settle_map ..

theorem transferred_eq (messages : OrderedMap String Message) (transfer : Option TransferDecl) :
    transferred strict messages transfer =
      settle strict (resolveTransfer messages transfer).1 (resolveTransfer messages transfer).2 := by
  unfold transferred resolveTransfer
  cases transfer.bind TransferDecl.message with
  | none => exact (settle_nil strict _).symm
  | some reference =>
    dsimp only
    cases messages.get? (localPart reference) with
    | some m => exact (settle_nil strict _).symm
    | none => exact passOver_bind ..

theorem addOperation_eq (messages : OrderedMap String Message)
    (operations : OrderedMap String Operation) (op : OperationDecl) :
    addOperation strict messages operations op =
      settle strict (operations.insert op.name (resolveOperation messages op).1)
        (resolveOperation messages op).2 := by
  unfold addOperation
  rw [transferred_eq, transferred_eq]
  refine (congrArg _ (funext fun input => settle_map ..)).trans ?_
  exact settle_bind strict _ _
    (fun input => operations.insert op.name { (resolveOperation messages op).1 with input })
    fun _ => (resolveTransfer messages op.output).2

/-- The operations of a port type, each under its name. -/
def operationsOf (messages : OrderedMap String Message) (p : PortTypeDecl) :
    OrderedMap String Operation :=
  p.operations.values.foldl (fun acc op => acc.insert op.name (resolveOperation messages op).1) []

theorem addPortType_eq (messages : OrderedMap String Message)
    (portTypes : OrderedMap String PortType) (p : PortTypeDecl) :
    addPortType strict messages portTypes p =
      settle strict (portTypes.insert p.name { name := p.name, operations := operationsOf messages p })
        (p.operations.values.flatMap fun op => (resolveOperation messages op).2) := by
  unfold addPortType
  rw [foldlM_settle (addOperation_eq strict messages)]
  exact settle_map ..

/-- A binding, if its port type is known. -/
def bindingOf? (portTypes : OrderedMap String PortType) (b : BindingDecl) : Option Binding :=
  (portTypes.get? (localPart b.portType)).map fun portType =>
    { name := b.name
      transport := b.transport
      style := b.style.getD default
      portType := localPart b.portType
      methods := b.operations.values.foldl (overlay (b.style.getD default))
        (portType.operations.mapValues (applySettings (b.style.getD default) none)) }

/-- A binding whose port type is unknown is left out. -/
def fileBinding (portTypes : OrderedMap String PortType) (bindings : OrderedMap String Binding)
    (b : BindingDecl) : OrderedMap String Binding :=
  match bindingOf? portTypes b with
  | some binding => bindings.insert b.name binding
  | none => bindings

theorem addBinding_eq (portTypes : OrderedMap String PortType) (bindings : OrderedMap String Binding)
    (b : BindingDecl) :
    addBinding strict portTypes bindings b =
      settle strict (fileBinding portTypes bindings b) (resolveBinding portTypes b).2 := by
  unfold addBinding fileBinding bindingOf? resolveBinding
  cases portTypes.get? (localPart b.portType) with
  | none => exact passOver_bind ..
  | some portType => exact (settle_nil strict _).symm

/-! ## What the whole makes and meets -/

def messageTable : MessageTable :=
  d.messages.values.foldl (fun t m => t.file (d.resolveMessage m).1) {}

def portTypeTable (messages : OrderedMap String Message) : OrderedMap String PortType :=
  d.portTypes.values.foldl (fun acc p =>
    OrderedMap.insert acc p.name { name := p.name, operations := operationsOf messages p }) []

def bindingTable (portTypes : OrderedMap String PortType) : OrderedMap String Binding :=
  d.bindings.values.foldl (fileBinding portTypes) []

/-- What is made of the references, whether or not they lead somewhere. -/
def made : Definitions × OrderedMap String String :=
  let portTypes := d.portTypeTable d.messageTable.messages
  d.filed d.messageTable portTypes (d.bindingTable portTypes)

/-- The references of port types and bindings that lead nowhere. -/
def metAfter (messages : OrderedMap String Message) : List Dangling :=
  (d.portTypes.values.flatMap fun p =>
      p.operations.values.flatMap fun op => (resolveOperation messages op).2) ++
    d.bindings.values.flatMap fun b => (resolveBinding (d.portTypeTable messages) b).2

/-- The references that lead nowhere, in the order in which they are met. -/
def met : List Dangling :=
  (d.messages.values.flatMap fun m => (d.resolveMessage m).2) ++ d.metAfter d.messageTable.messages

/-- What is made, and what is met, is the same strictly and leniently. -/
theorem resolveInOrder_eq : d.resolveInOrder strict = settle strict d.made d.met := by
  have hbindings : ∀ (t : MessageTable) (portTypes : OrderedMap String PortType),
      (d.bindings.values.foldlM (addBinding strict portTypes) [] >>= fun bindings =>
        Except.ok (d.filed t portTypes bindings)) =
      settle strict (d.filed t portTypes (d.bindingTable portTypes))
        (d.bindings.values.flatMap fun b => (resolveBinding portTypes b).2) := by
    intro t portTypes
    rw [foldlM_settle (addBinding_eq strict portTypes)]
    exact settle_map ..
  have hportTypes : ∀ t : MessageTable,
      (d.portTypes.values.foldlM (addPortType strict t.messages) [] >>= fun portTypes =>
        d.bindings.values.foldlM (addBinding strict portTypes) [] >>= fun bindings =>
          Except.ok (d.filed t portTypes bindings)) =
      settle strict (d.filed t (d.portTypeTable t.messages) (d.bindingTable (d.portTypeTable t.messages)))
        (d.metAfter t.messages) := by
    intro t
    rw [foldlM_settle (addPortType_eq strict t.messages), funext (hbindings t)]
    exact settle_bind strict _ _ (fun portTypes => d.filed t portTypes (d.bindingTable portTypes))
      fun portTypes => d.bindings.values.flatMap fun b => (resolveBinding portTypes b).2
  unfold resolveInOrder
  rw [foldlM_settle (d.addMessage_eq strict)]
  refine (congrArg _ (funext hportTypes)).trans ?_
  exact settle_bind strict d.messageTable _
    (fun t => d.filed t (d.portTypeTable t.messages) (d.bindingTable (d.portTypeTable t.messages)))
    fun t => d.metAfter t.messages

/-! ## Documents where everything stands under its own name -/

variable {d}

theorem messages_foldl_file (t : MessageTable) (ms : List Message) :
    (ms.foldl MessageTable.file t).messages =
      ms.foldl (fun acc m => OrderedMap.insert acc m.name m) t.messages := by
  induction ms generalizing t with
  | nil => rfl
  | cons m ms ih => exact ih _

theorem aliases_foldl_file (t : MessageTable) (ms : List Message) :
    (ms.foldl MessageTable.file t).aliases =
      t.aliases.extend (ms.filterMap fun m => m.element?.map fun ref => (ref.decl.name, m.name)) := by
  induction ms generalizing t with
  | nil => rfl
  | cons m ms ih =>
    rw [List.foldl_cons, ih, MessageTable.file]
    cases h : m.element? with
    | none => rw [List.filterMap_cons_none (by rw [h, Option.map_none])]
    | some ref =>
      rw [List.filterMap_cons_some (by rw [h, Option.map_some])]
      rfl

theorem messages_resolve (d : Declarations) :
    d.resolve.1.messages = d.messages.mapValues fun m => (d.resolveMessage m).1 := List.map_map

theorem portTypes_resolve (d : Declarations) :
    d.resolve.1.portTypes = d.portTypes.mapValues fun p => (resolvePortType d.resolve.1.messages p).1 :=
  List.map_map

theorem bindings_resolve (d : Declarations) :
    d.resolve.1.bindings = d.bindings.filterMap fun e =>
      (resolveBinding d.resolve.1.portTypes e.2).1.map fun b => (e.1, b) := List.filterMap_map

theorem resolve_snd (d : Declarations) :
    d.resolve.2 = (d.messages.values.flatMap fun m => (d.resolveMessage m).2) ++
      (d.portTypes.values.flatMap fun p => (resolvePortType d.resolve.1.messages p).2) ++
        d.bindings.values.flatMap fun b => (resolveBinding d.resolve.1.portTypes b).2 := by
  simp only [resolve, OrderedMap.mapValues, OrderedMap.values, List.flatMap_map]

theorem definitions_eq (d : Declarations) (strict : Bool) :
    d.definitions strict = settle strict d.resolve.1 d.resolve.2 := by
  unfold definitions
  generalize d.resolve = resolved
  obtain ⟨defs, dangling⟩ := resolved
  cases strict <;> cases dangling <;> rfl

theorem messageTable_eq (d : Declarations) :
    d.messageTable = (d.messages.values.map fun m => (d.resolveMessage m).1).foldl MessageTable.file {} := by
  rw [messageTable, List.foldl_map]

theorem IsKeyed.messages_messageTable (h : d.IsKeyed) :
    d.messageTable.messages = d.resolve.1.messages := by
  rw [messageTable_eq, messages_foldl_file, List.foldl_map, messages_resolve]
  exact h.messages.foldl_insert fun m => (d.resolveMessage m).1

theorem IsKeyed.aliases_messageTable (h : d.IsKeyed) :
    d.messageTable.aliases = d.resolve.1.aliases := by
  rw [messageTable_eq, aliases_foldl_file, Definitions.aliases, messages_resolve,
    h.messages.mapValues_eq, List.filterMap_map, List.filterMap_map]
  rfl

theorem IsKeyed.portTypeTable_eq (h : d.IsKeyed) :
    d.portTypeTable d.resolve.1.messages = d.resolve.1.portTypes := by
  let portTypeOf (p : PortTypeDecl) : PortType :=
    { name := p.name, operations := operationsOf d.resolve.1.messages p }
  refine (h.portTypes.foldl_insert portTypeOf).trans ?_
  rw [portTypes_resolve]
  refine List.map_congr_left fun e he => congrArg _ ?_
  show PortType.mk _ _ = PortType.mk _ _
  rw [operationsOf, (h.operations e he).foldl_insert]
  exact congrArg _ (OrderedMap.mapValues_mapValues ..).symm

/-- Settings are laid over one by one, or looked up by the operation that they are for. -/
theorem foldl_overlay {settings : OrderedMap String OperationDecl}
    (hsettings : settings.IsKeyedBy OperationDecl.name) {operations : OrderedMap String Operation}
    (hnodup : operations.keys.Nodup) (style : Style) :
    settings.values.foldl (overlay style) operations =
      operations.map fun e => (e.1, match settings.get? e.1 with
        | some s => applySettings style (some s) e.2
        | none => e.2) := by
  induction settings generalizing operations with
  | nil => exact (List.map_id _).symm
  | cons first rest ih =>
    obtain ⟨name, s⟩ := first
    obtain rfl : s.name = name := hsettings.name_eq _ List.mem_cons_self
    obtain ⟨hnew, hrest⟩ := List.nodup_cons.mp hsettings.nodup
    have hlaid : overlay style operations s =
        operations.map fun e => (e.1, if e.1 = s.name then applySettings style (some s) e.2 else e.2) :=
      OrderedMap.modify_eq_map hnodup ..
    have hkeys : (overlay style operations s).keys = operations.keys := by
      rw [hlaid, OrderedMap.keys, List.map_map]
      rfl
    show (OrderedMap.values rest).foldl (overlay style) (overlay style operations s) = _
    rw [ih ⟨hrest, fun e he => hsettings.name_eq e (List.mem_cons_of_mem _ he)⟩ (hkeys ▸ hnodup), hlaid,
      List.map_map]
    refine List.map_congr_left fun e _ => ?_
    by_cases he : e.1 = s.name
    · have hnone : OrderedMap.get? rest s.name = none := OrderedMap.get?_eq_none_iff.mpr hnew
      simp only [Function.comp_apply, he, hnone, OrderedMap.get?, if_true]
    · have hne : s.name ≠ e.1 := Ne.symm he
      simp only [Function.comp_apply, he, hne, OrderedMap.get?, if_false]

/-- A binding has the methods that it has all at once. -/
theorem IsFiled.bindingOf?_eq (h : d.IsFiled) {e : String × BindingDecl} (he : e ∈ d.bindings) :
    bindingOf? d.resolve.1.portTypes e.2 = (resolveBinding d.resolve.1.portTypes e.2).1 := by
  unfold bindingOf? resolveBinding
  cases hp : d.resolve.1.portTypes.get? (localPart e.2.portType) with
  | none => rfl
  | some p =>
    let style := e.2.style.getD default
    have hnodup : (p.operations.mapValues (applySettings style none)).keys.Nodup := by
      rw [OrderedMap.keys_mapValues]
      exact (h.operations_resolve (OrderedMap.mem_of_get? hp)).nodup
    rw [Option.map_some, foldl_overlay (h.settings e he) hnodup, OrderedMap.mapValues, List.map_map]
    refine congrArg (fun methods => some (Binding.mk _ _ _ _ methods)) (List.map_congr_left fun op _ => ?_)
    show (op.1, _) = (op.1, applySettings _ (e.2.operations.get? op.1) op.2)
    cases e.2.operations.get? op.1 <;> rfl

theorem foldl_fileBinding (portTypes : OrderedMap String PortType) (bindings : OrderedMap String Binding)
    (bs : List BindingDecl) :
    bs.foldl (fileBinding portTypes) bindings =
      bindings.extend (bs.filterMap fun b => (bindingOf? portTypes b).map fun binding => (b.name, binding)) := by
  induction bs generalizing bindings with
  | nil => rfl
  | cons b bs ih =>
    rw [List.foldl_cons, ih, fileBinding]
    cases h : bindingOf? portTypes b with
    | none => rw [List.filterMap_cons_none (by rw [h, Option.map_none])]
    | some binding =>
      rw [List.filterMap_cons_some (by rw [h, Option.map_some])]
      rfl

theorem IsFiled.bindingTable_eq (h : d.IsFiled) :
    d.bindingTable d.resolve.1.portTypes = d.resolve.1.bindings := by
  have hentries : (d.bindings.values.filterMap fun b =>
      (bindingOf? d.resolve.1.portTypes b).map fun binding => (b.name, binding)) = d.resolve.1.bindings := by
    rw [bindings_resolve, OrderedMap.values, List.filterMap_map]
    refine List.filterMap_congr fun e he => ?_
    rw [Function.comp_apply, h.bindingOf?_eq he, h.bindings.name_eq e he]
  rw [bindingTable, foldl_fileBinding, hentries]
  exact OrderedMap.ofList_of_nodup h.resolve.bindings.nodup

/-- What is resolved in order is what is resolved all at once. -/
theorem IsFiled.made_eq (h : d.IsFiled) : d.made = (d.resolve.1, d.resolve.1.aliases) := by
  have hservices : d.services.values.foldl (fun acc s =>
      OrderedMap.insert acc s.name (resolveService d.resolve.1.bindings s)) [] = d.resolve.1.services :=
    h.services.foldl_insert (resolveService d.resolve.1.bindings)
  rw [made, h.messages_messageTable, h.portTypeTable_eq, h.bindingTable_eq, filed, hservices,
    h.messages_messageTable, h.aliases_messageTable]
  rfl

/-- References that lead nowhere are met in the order in which they are listed. -/
theorem IsFiled.met_eq (h : d.IsFiled) : d.met = d.resolve.2 := by
  rw [met, metAfter, h.messages_messageTable, h.portTypeTable_eq, ← List.append_assoc, resolve_snd]
  simp only [resolvePortType, OrderedMap.mapValues, OrderedMap.values, List.flatMap_map]

/-- In a document that was read, references are resolved in order or all at once. -/
theorem IsFiled.resolveInOrder_eq (h : d.IsFiled) (strict : Bool) :
    d.resolveInOrder strict = (d.definitions strict).map fun r => (r, r.aliases) := by
  rw [Declarations.resolveInOrder_eq, h.made_eq, h.met_eq, definitions_eq]
  cases strict <;> cases d.resolve.2 <;> rfl

/-- Strict resolution only restricts. Leniently everything is resolved; strictly there is nothing
else than leniently, if there is anything. It is so of resolving in order, whatever the declarations
are; of resolving all at once; and in a document that was read the two are the same. -/
theorem strict_restricts (d : Declarations) :
    ((∃ r, d.resolveInOrder false = .ok r) ∧
      ∀ r, d.resolveInOrder true = .ok r → d.resolveInOrder false = .ok r) ∧
    ((∃ r, d.definitions false = .ok r) ∧
      ∀ r, d.definitions true = .ok r → d.definitions false = .ok r) ∧
    (d.IsFiled → ∀ strict,
      d.resolveInOrder strict = (d.definitions strict).map fun r => (r, r.aliases)) := by
  refine ⟨⟨⟨d.made, ?_⟩, fun r h => ?_⟩, ⟨⟨d.resolve.1, ?_⟩, fun r h => ?_⟩, fun h => h.resolveInOrder_eq⟩
  · rw [resolveInOrder_eq, settle_lenient]
  · rw [resolveInOrder_eq] at h ⊢
    obtain ⟨-, rfl⟩ := settle_strict_eq_ok.mp h
    rfl
  · rfl
  · rw [definitions_eq] at h ⊢
    obtain ⟨-, rfl⟩ := settle_strict_eq_ok.mp h
    rfl

/-! ### An errand -/

def errandMarkup : Xml.Markup :=
  .element "definitions" [("xmlns:t", "urn:errands")]
    [.element "message" [("name", "Errand")] [leafMarkup "part" [("name", "count"), ("type", "xsd:int")]],
      .element "portType" [("name", "Errands")]
        [.element "operation" [("name", "run")] [leafMarkup "input" [("message", "t:Errand")]]],
      .element "binding" [("name", "ErrandsSoap"), ("type", "t:Errands")]
        [leafMarkup "binding" [("style", "rpc"), ("transport", "http://schemas.xmlsoap.org/soap/http")],
          .element "operation" [("name", "run")] [leafMarkup "operation" [("soapAction", "urn:errands#run")]]]]

/-- A binding of an operation that takes a number, for which it has an action. -/
def errand : Declarations where
  namespaces := [("t", "urn:errands")]
  schemas := { namespaces := [("t", "urn:errands")] }
  messages := [("Errand", { name := "Errand", parts := [⟨"count", none, some "xsd:int"⟩], documentation := none })]
  portTypes := [("Errands", { name := "Errands", operations := [("run",
    { name := "run", input := some ⟨some "t:Errand", none⟩, output := none, style := none, soapAction := none
      documentation := none })] })]
  bindings := [("ErrandsSoap",
    { name := "ErrandsSoap", portType := "t:Errands", transport := "http://schemas.xmlsoap.org/soap/http"
      style := some .rpc, operations := [("run",
        { name := "run", input := none, output := none, style := none, soapAction := some "urn:errands#run"
          documentation := none })] })]

theorem parse_errand : Declarations.parse errandMarkup.render false = .ok errand := by
  have hw : errandMarkup.IsWritable := by decide +kernel
  rw [Declarations.parse, errandMarkup, Document.parse_render hw]
  rfl

/-- The errand is resolved strictly, so leniently it is the same, and so it is in order. -/
theorem strict_restricts_errand :
    errand.definitions true = .ok errand.resolve.1 ∧ errand.definitions false = .ok errand.resolve.1 ∧
    errand.resolveInOrder true = .ok (errand.resolve.1, errand.resolve.1.aliases) ∧
    errand.resolveInOrder false = .ok (errand.resolve.1, errand.resolve.1.aliases) := by
  obtain ⟨⟨-, hinOrder⟩, ⟨-, hatOnce⟩, hsame⟩ := strict_restricts errand
  have hstrict : errand.definitions true = .ok errand.resolve.1 := rfl
  have hstrictInOrder := hsame (isFiled_of_parse parse_errand errand.schemas) true
  rw [hstrict] at hstrictInOrder
  exact ⟨hstrict, hatOnce _ hstrict, hstrictInOrder, hinOrder _ hstrictInOrder⟩

end Declarations

end Soap
