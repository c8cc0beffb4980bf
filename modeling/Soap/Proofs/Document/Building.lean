import Soap.Proofs.Document.Scope
import Soap.Proofs.Xml.Element

/-!
# Documents as trees of elements

The tree of a document is told by recursion over what a reader sees of it: an element becomes a node of the kind
that it has inside its parent, with the bindings around it and its own (`Xml.Element.node`). Read leniently, a
text that a reader sees as an element gives this node, and read strictly it gives it or nothing
(`Document.parse_of_isReadAs`). No other text gives a document (`Document.exists_isReadAs`).
-/

namespace Soap

open Xml (Element Event)
open Xml.Element (textEvents childEvents documentEvents)

namespace Xml.Element

/-! ## The node of an element -/

/-- The texts directly in an element, joined. -/
def joinedText (text : Option String) : List (Element × Option String) → String
  | [] => text.getD ""
  | (_, after) :: rest => text.getD "" ++ joinedText after rest

mutual

/-- The node that an element of this kind becomes inside the bindings `outer`. -/
def node (kind : Kind) (outer : OrderedMap String String) : Element → Node
  | ⟨name, attributes, declarations, text, children⟩ =>
    { kind, name, attributes
      declared := declarations
      scope := outer.extend declarations
      text := joinedText text children
      children := childNodes kind (outer.extend declarations) children }

/-- The nodes of children have the kinds that these have inside their parent. -/
def childNodes (kind : Kind) (scope : OrderedMap String String) : List (Element × Option String) → List Node
  | [] => []
  | (child, _) :: rest =>
    child.node ((kind.child? child.localName).getD .generic) scope :: childNodes kind scope rest

end

theorem childNodes_eq_map (kind : Kind) (scope : OrderedMap String String) (children : List (Element × Option String)) :
    childNodes kind scope children = (children.map Prod.fst).map fun child =>
      child.node ((kind.child? child.localName).getD .generic) scope := by
  induction children with
  | nil => rfl
  | cons first rest ih =>
    obtain ⟨child, after⟩ := first
    rw [childNodes, ih]
    rfl

theorem kind_node (kind : Kind) (outer : OrderedMap String String) (e : Element) : (e.node kind outer).kind = kind := by
  cases e
  rfl

/-! ### What is declared -/

mutual

/-- What is declared in an element, at any depth. -/
def declared : Element → List (String × String)
  | ⟨_, _, declarations, _, children⟩ => declarations ++ declaredInside children

def declaredInside : List (Element × Option String) → List (String × String)
  | [] => []
  | (child, _) :: rest => child.declared ++ declaredInside rest

end

theorem mem_declaredInside {children : List (Element × Option String)} {binding : String × String} :
    binding ∈ declaredInside children ↔ ∃ child ∈ children.map Prod.fst, binding ∈ child.declared := by
  induction children with
  | nil => simp [declaredInside]
  | cons first rest ih =>
    rw [declaredInside, List.mem_append, ih, List.map_cons, List.exists_mem_cons_iff]

mutual

/-- The node of an element declares what the element does. -/
theorem mem_closing_node (kind : Kind) (outer : OrderedMap String String) (e : Element) (binding : String × String) :
    binding ∈ (e.node kind outer).closing ↔ binding ∈ e.declared := by
  match e with
  | ⟨name, attributes, declarations, text, children⟩ =>
    rw [node, Node.closing, declared, List.mem_append, List.mem_append, or_comm, mem_closingAll_childNodes]

theorem mem_closingAll_childNodes (kind : Kind) (scope : OrderedMap String String)
    (children : List (Element × Option String)) (binding : String × String) :
    binding ∈ Node.closingAll (childNodes kind scope children) ↔ binding ∈ declaredInside children := by
  match children with
  | [] => rfl
  | (child, _) :: rest =>
    rw [childNodes, Node.closingAll, declaredInside, List.mem_append, List.mem_append, mem_closing_node,
      mem_closingAll_childNodes]

end

theorem mem_declarations_node (kind : Kind) (outer : OrderedMap String String) (e : Element)
    (binding : String × String) : binding ∈ (e.node kind outer).declarations ↔ binding ∈ e.declared := by
  rw [Node.mem_declarations, ← Node.mem_closing, mem_closing_node]

end Xml.Element

/-- What a reader sees of a text is this element, with nothing but text around it. -/
def Xml.IsReadAs (text : String) (root : Element) : Prop :=
  ∃ lead trail, (Xml.read text).events? = some (documentEvents lead [(root, trail)])

namespace Document

/-! ## Following an element -/

theorem step_start (parent : Node) (outer : List Node) (root : Option Node) (namespaces : OrderedMap String String)
    (name : QName) (attributes declared : OrderedMap String String) :
    step false ⟨parent :: outer, root, namespaces⟩ (.start name attributes declared) = .ok
      ⟨{ kind := (parent.kind.child? name.localName).getD .generic
         name, attributes, declared
         scope := parent.scope.extend declared
         text := ""
         children := [] } :: parent :: outer, root, namespaces⟩ := by
  have hkind : kindFor false ⟨parent :: outer, root, namespaces⟩ name =
      .ok ((parent.kind.child? name.localName).getD .generic) := by
    unfold kindFor
    dsimp only
    split
    · next hchild => rw [hchild, Option.getD_some]
    · next hchild =>
      rw [hchild, Option.getD_none]
      rfl
  rw [step, hkind]
  rfl

theorem foldlM_textEvents (node : Node) (outer : List Node) (root : Option Node)
    (namespaces : OrderedMap String String) (text : Option String) :
    (textEvents text).foldlM (step false) ⟨node :: outer, root, namespaces⟩ =
      .ok ⟨{ node with text := node.text ++ text.getD "" } :: outer, root, namespaces⟩ := by
  cases text with
  | none =>
    rw [Option.getD_none, String.append_empty]
    cases node
    rfl
  | some content => rfl

mutual

/-- Inside an open node, an element is added as a child. -/
theorem follow_element (e : Element) (parent : Node) (outer : List Node) (root : Option Node)
    (namespaces : OrderedMap String String) :
    ∃ namespaces', e.events.foldlM (step false) ⟨parent :: outer, root, namespaces⟩ = .ok
      ⟨{ parent with children := parent.children ++
          [e.node ((parent.kind.child? e.localName).getD .generic) parent.scope] } :: outer, root, namespaces'⟩ := by
  match e with
  | ⟨name, attributes, declarations, text, children⟩ =>
    obtain ⟨inside, hinside⟩ := follow_content text children
      { kind := (parent.kind.child? name.localName).getD .generic
        name, attributes
        declared := declarations
        scope := parent.scope.extend declarations
        text := ""
        children := [] } (parent :: outer) root namespaces
    refine ⟨inside.extend declarations, ?_⟩
    rw [Xml.Element.events, List.foldlM_cons, step_start, ok_bind, List.foldlM_append]
    rw [documentEvents] at hinside
    rw [hinside, ok_bind, List.foldlM_cons, step_stop, ok_bind, List.nil_append, String.empty_append]
    rfl

/-- What stands in an element is added to the node that is open. -/
theorem follow_content (text : Option String) (children : List (Element × Option String)) (node : Node)
    (outer : List Node) (root : Option Node) (namespaces : OrderedMap String String) :
    ∃ namespaces', (documentEvents text children).foldlM (step false) ⟨node :: outer, root, namespaces⟩ = .ok
      ⟨{ node with
          text := node.text ++ Xml.Element.joinedText text children
          children := node.children ++ Xml.Element.childNodes node.kind node.scope children } :: outer, root,
        namespaces'⟩ := by
  match children with
  | [] =>
    refine ⟨namespaces, ?_⟩
    rw [documentEvents, childEvents, List.append_nil, foldlM_textEvents, Xml.Element.childNodes, List.append_nil]
    rfl
  | (child, after) :: rest =>
    obtain ⟨between, hchild⟩ :=
      follow_element child { node with text := node.text ++ text.getD "" } outer root namespaces
    obtain ⟨namespaces', hrest⟩ := follow_content after rest
      { node with
        text := node.text ++ text.getD ""
        children := node.children ++ [child.node ((node.kind.child? child.localName).getD .generic) node.scope] }
      outer root between
    refine ⟨namespaces', ?_⟩
    rw [documentEvents] at hrest
    rw [documentEvents, childEvents, List.foldlM_append, foldlM_textEvents, ok_bind, List.append_assoc,
      List.foldlM_append, hchild, ok_bind, hrest, Xml.Element.joinedText, Xml.Element.childNodes, String.append_assoc,
      List.append_assoc]
    rfl

end

/-! ## Whole documents -/

/-- What is outside of all elements does not matter. -/
theorem foldlM_textEvents_outside (strict : Bool) (root : Option Node) (namespaces : OrderedMap String String)
    (text : Option String) :
    (textEvents text).foldlM (step strict) ⟨[], root, namespaces⟩ = .ok ⟨[], root, namespaces⟩ := by
  cases text <;> rfl

/-- An element that may be a root is the root. -/
theorem follow_root {root : Element} {kind : Kind} (hkind : Kind.root? root.localName = some kind)
    (namespaces : OrderedMap String String) :
    ∃ namespaces', root.events.foldlM (step false) ⟨[], none, namespaces⟩ =
      .ok ⟨[], some (root.node kind []), namespaces'⟩ := by
  obtain ⟨name, attributes, declarations, text, children⟩ := root
  obtain ⟨namespaces', hinside⟩ := follow_content text children
    { kind, name, attributes
      declared := declarations
      scope := OrderedMap.extend [] declarations
      text := ""
      children := [] } [] none (namespaces.extend declarations)
  refine ⟨namespaces', ?_⟩
  have hstart : step false ⟨[], none, namespaces⟩ (.start name attributes declarations) = .ok
      ⟨[{ kind, name, attributes
          declared := declarations
          scope := OrderedMap.extend [] declarations
          text := ""
          children := [] }], none, namespaces.extend declarations⟩ := by
    have hroot : kindFor false ⟨[], none, namespaces⟩ name = .ok kind := by
      unfold kindFor
      dsimp only
      rw [show Kind.root? name.localName = some kind from hkind]
    rw [step, hroot]
    rfl
  rw [documentEvents] at hinside
  rw [Xml.Element.events, List.foldlM_cons, hstart, ok_bind, List.foldlM_append, hinside, ok_bind, List.foldlM_cons,
    step_stop, ok_bind, List.nil_append, String.empty_append]
  rfl

variable {text : String} {root : Element} {kind : Kind} {doc : Document}

theorem parse_false_of_isReadAs (h : Xml.IsReadAs text root) (hkind : Kind.root? root.localName = some kind) :
    parse text false =
      .ok { root := root.node kind [], namespaces := OrderedMap.ofList (root.node kind []).declarations } := by
  obtain ⟨lead, trail, hevents⟩ := h
  obtain ⟨namespaces, hroot⟩ := follow_root hkind []
  have hparse : parse text false = .ok { root := root.node kind [], namespaces } := by
    rw [parse, ofReading_eq false hevents, documentEvents, childEvents, childEvents, List.append_nil,
      List.foldlM_append, foldlM_textEvents_outside, ok_bind, List.foldlM_append, hroot, ok_bind, foldlM_textEvents_outside]
    rfl
  obtain ⟨-, -, hnamespaces⟩ := scoped_of_parse hparse
  have hdoc : ({ root := root.node kind [], namespaces } : Document) =
      { root := root.node kind [], namespaces := OrderedMap.ofList (root.node kind []).declarations } :=
    congrArg (Document.mk (root.node kind [])) hnamespaces
  rw [hparse, hdoc]

/-- A strict reading is a lenient one that meets nothing generic. -/
theorem parse_true_eq_ok_iff : parse text true = .ok doc ↔ parse text false = .ok doc ∧ doc.root.IsKnown := by
  constructor
  · intro h
    obtain ⟨p, hp, herror, hfinish⟩ := parse_eq_ok h
    have hstart : ({} : Progress).IsKnown := by simp [Progress.IsKnown]
    obtain ⟨hlenient, hknown⟩ := (follow_strict_iff Progress.isGraded_start).mp ⟨hp, hstart⟩
    rw [parse_of_follow hlenient herror]
    exact ⟨hfinish, (Progress.isKnown_iff_of_finish hfinish).mp hknown⟩
  · rintro ⟨h, hknown⟩
    obtain ⟨p, hp, herror, hfinish⟩ := parse_eq_ok h
    have hend := (Progress.isKnown_iff_of_finish hfinish).mpr hknown
    obtain ⟨hstrict, -⟩ := (follow_strict_iff Progress.isGraded_start).mpr ⟨hp, hend⟩
    rw [parse_of_follow hstrict herror, hfinish]

/-- A text that is read as an element gives its node, or in strict mode nothing if the node holds something
generic. -/
theorem parse_of_isReadAs (h : Xml.IsReadAs text root) (hkind : Kind.root? root.localName = some kind) (strict : Bool) :
    parse text strict = .ok doc ↔
      (strict = true → (root.node kind []).IsKnown) ∧
        doc = { root := root.node kind [], namespaces := OrderedMap.ofList (root.node kind []).declarations } := by
  have hlenient := parse_false_of_isReadAs h hkind
  cases strict with
  | false =>
    rw [hlenient, Except.ok.injEq, eq_comm]
    exact (and_iff_right_of_imp fun _ h => nomatch h).symm
  | true =>
    rw [parse_true_eq_ok_iff, hlenient, Except.ok.injEq]
    constructor
    · rintro ⟨rfl, hknown⟩
      exact ⟨fun _ => hknown, rfl⟩
    · rintro ⟨hknown, rfl⟩
      exact ⟨rfl, hknown rfl⟩

/-! ### Texts that give documents -/

theorem length_close (p : Progress) : p.close.opened.length = p.opened.length - 1 := by
  unfold Progress.close
  split
  · next h => rw [h]; rfl
  · next h => rw [h]; rfl
  · next h => rw [h]; rfl

theorem length_addText (p : Progress) (content : String) : (p.addText content).opened.length = p.opened.length := by
  unfold Progress.addText
  split
  · next h => rw [h]
  · next h => rw [h]; rfl

/-- As many nodes are open as elements are. -/
theorem length_follow {strict : Bool} {events : List Event} {n m : Xml.Nesting} (h : n.follow events = some m)
    {p q : Progress} (hp : events.foldlM (step strict) p = .ok q) (hlength : p.opened.length = n.opened.length) :
    q.opened.length = m.opened.length := by
  induction events generalizing n p with
  | nil =>
    obtain rfl := Option.some.inj h
    obtain rfl := Except.ok.inj hp
    exact hlength
  | cons event rest ih =>
    obtain ⟨n', hn', hrest⟩ := Option.bind_eq_some_iff.mp h
    rw [List.foldlM_cons] at hp
    obtain ⟨p', hp', hprest⟩ := bind_eq_ok hp
    refine ih hrest hprest ?_
    cases event with
    | start name attributes declarations =>
      obtain rfl := Option.some.inj hn'
      obtain ⟨kind, -, hkind⟩ := bind_eq_ok hp'
      obtain rfl := Except.ok.inj hkind
      exact congrArg (· + 1) hlength
    | text content =>
      obtain ⟨-, hn'⟩ := Option.ite_none_left_eq_some.mp hn'
      obtain rfl := Option.some.inj hn'
      rw [step_text] at hp'
      obtain rfl := Except.ok.inj hp'
      rw [length_addText]
      exact hlength
    | stop name =>
      obtain ⟨names, afterText⟩ := n
      cases names with
      | nil => cases hn'
      | cons expected outer =>
        obtain ⟨-, hn'⟩ := Option.ite_none_right_eq_some.mp hn'
        obtain rfl := Option.some.inj hn'
        rw [step_stop] at hp'
        obtain rfl := Except.ok.inj hp'
        rw [length_close, hlength]
        rfl

/-- A text that gives a document was read to its end. -/
theorem exists_events (h : parse text false = .ok doc) :
    ∃ events p, (Xml.read text).events? = some events ∧ events.foldlM (step false) {} = .ok p ∧ finish p = .ok doc := by
  obtain ⟨p, hp, herror, hfinish⟩ := parse_eq_ok h
  rw [follow_eq] at hp
  refine ⟨_, p, ?_, hp, hfinish⟩
  unfold Xml.Reading.error? at herror
  unfold Xml.Reading.events?
  cases hending : (Xml.read text).ending with
  | done _ => rfl
  | failed _ =>
    rw [hending] at herror
    cases herror

/-- With a root behind, no element can be opened. -/
theorem follow_after_root (e : Element) (later : List Event) (node : Node) (namespaces : OrderedMap String String)
    (p : Progress) : (e.events ++ later).foldlM (step false) ⟨[], some node, namespaces⟩ ≠ .ok p := by
  obtain ⟨name, attributes, declarations, text, children⟩ := e
  intro h
  rw [Xml.Element.events, List.cons_append, List.foldlM_cons] at h
  obtain ⟨_, hstart, -⟩ := bind_eq_ok h
  cases hstart

/-- Where an element is opened first, it may be a root. -/
theorem exists_kind_of_follow {e : Element} {later : List Event} {p : Progress}
    (h : (e.events ++ later).foldlM (step false) {} = .ok p) : ∃ kind, Kind.root? e.localName = some kind := by
  obtain ⟨name, attributes, declarations, text, children⟩ := e
  rw [Xml.Element.events, List.cons_append, List.foldlM_cons] at h
  obtain ⟨_, hstart, -⟩ := bind_eq_ok h
  obtain ⟨kind, hkind, -⟩ := bind_eq_ok hstart
  rcases kindFor_graded hkind with ⟨-, -, hroot⟩ | ⟨parent, outer, hcons, -⟩
  · exact ⟨kind, hroot⟩
  · cases hcons

/-- Every text that gives a document is read as an element that may be a root. -/
theorem exists_isReadAs {strict : Bool} (h : parse text strict = .ok doc) :
    ∃ root kind, Xml.IsReadAs text root ∧ Kind.root? root.localName = some kind := by
  have hlenient : parse text false = .ok doc := by
    cases strict with
    | false => exact h
    | true => exact (parse_true_eq_ok_iff.mp h).1
  obtain ⟨events, p, hevents, hp, hfinish⟩ := exists_events hlenient
  obtain ⟨hopened, hroot⟩ := finish_eq_ok hfinish
  obtain ⟨left, hnested⟩ := Xml.nested_read hevents
  have hlength := length_follow hnested hp rfl
  rw [hopened] at hlength
  obtain ⟨lead, roots, rfl⟩ := Xml.Element.exists_roots hnested (List.eq_nil_of_length_eq_zero hlength.symm)
  rw [documentEvents, List.foldlM_append, foldlM_textEvents_outside, ok_bind] at hp
  match roots with
  | [] =>
    obtain rfl := Except.ok.inj hp
    cases hroot
  | (root, trail) :: rest =>
    rw [childEvents, List.append_assoc] at hp
    obtain ⟨kind, hkind⟩ := exists_kind_of_follow hp
    obtain ⟨namespaces, hfollow⟩ := follow_root hkind []
    rw [List.foldlM_append, hfollow, ok_bind, List.foldlM_append, foldlM_textEvents_outside, ok_bind] at hp
    match rest with
    | [] => exact ⟨root, kind, ⟨lead, trail, hevents⟩, hkind⟩
    | (second, after) :: others =>
      rw [childEvents, List.append_assoc] at hp
      exact absurd hp (follow_after_root second _ _ _ p)

end Document

end Soap
