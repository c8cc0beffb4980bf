import Soap.Proofs.Definitions.Agreement
import Soap.Proofs.Document.Building
import Soap.Wsdl

/-!
# Sections in any order

Each section of a description adds entries to one table, and what it adds depends on the section alone
(`Declarations.addSections_eq_ok`). A table therefore depends on the sections of one kind, in their order, and not on
how these lie among the others (`Declarations.Alike.withSections`). References are resolved when all tables are
filled, so that a forward reference is resolved like a backward one.

The one thing that runs through all sections is the table of the namespaces declared in them, where the later of two
URIs for a prefix counts. Where no prefix is declared with two URIs the order of the sections does not matter
(`Definitions.read?_reorders`). This is said of texts by the elements that they are read as; every text that has
definitions is read as one.
-/

namespace Soap

namespace Declarations

variable {d d' : Declarations} {nodes nodes' : List Node}

/-! ## Sections of each kind -/

/-- The same sections of each kind, in the same order. -/
def AgreeByKind (nodes nodes' : List Node) : Prop :=
  ∀ kind ≠ .generic, nodes.filter (fun n => n.kind = kind) = nodes'.filter fun n => n.kind = kind

namespace AgreeByKind

variable {kind : Kind} {β : Type} (h : AgreeByKind nodes nodes')

include h

/-- What only sections of one kind give is the same. -/
theorem flatMap_eq (hkind : kind ≠ .generic) {f : Node → List β} (hf : ∀ n, n.kind ≠ kind → f n = []) :
    nodes.flatMap f = nodes'.flatMap f := by
  have hfilter (l : List Node) : (l.filter fun n => n.kind = kind).flatMap f = l.flatMap f := by
    induction l with
    | nil => rfl
    | cons n rest ih =>
      by_cases hn : n.kind = kind
      · rw [List.filter_cons_of_pos (by simpa using hn), List.flatMap_cons, List.flatMap_cons, ih]
      · rw [List.filter_cons_of_neg (by simpa using hn), List.flatMap_cons, hf n hn, ih, List.nil_append]
  rw [← hfilter, h kind hkind, hfilter]

theorem filterMap_eq (hkind : kind ≠ .generic) {f : Node → Option β} (hf : ∀ n, n.kind ≠ kind → f n = none) :
    nodes.filterMap f = nodes'.filterMap f := by
  rw [List.filterMap_eq_flatMap_toList, List.filterMap_eq_flatMap_toList]
  refine h.flatMap_eq hkind fun n hn => ?_
  rw [hf n hn, Option.toList_none]

end AgreeByKind

/-- Tables are filled alike. -/
theorem Alike.withSections (h : d.Alike d') (hkinds : AgreeByKind nodes nodes') :
    (d.withSections nodes).Alike (d'.withSections nodes') := by
  have hschemas : nodes.flatMap Node.schemas = nodes'.flatMap Node.schemas :=
    hkinds.flatMap_eq (by decide) fun _ => Node.schemas_of_kind_ne
  have hmessages : nodes.filterMap Node.message? = nodes'.filterMap Node.message? :=
    hkinds.filterMap_eq (by decide) fun _ => Node.item?_of_kind_ne
  have hportTypes : nodes.filterMap Node.portType? = nodes'.filterMap Node.portType? :=
    hkinds.filterMap_eq (by decide) fun _ => Node.item?_of_kind_ne
  have hbindings : nodes.filterMap Node.binding? = nodes'.filterMap Node.binding? :=
    hkinds.filterMap_eq (by decide) fun _ hne => congrArg (Option.filter _) (Node.item?_of_kind_ne hne)
  have hservices : nodes.filterMap Node.service? = nodes'.filterMap Node.service? :=
    hkinds.filterMap_eq (by decide) fun _ => Node.item?_of_kind_ne
  constructor
  case name => exact h.name
  case targetNamespace => exact h.targetNamespace
  case namespaces => exact h.namespaces
  case schemas =>
    unfold Declarations.withSections
    rw [hschemas]
    exact h.schemas.registerAll _
  all_goals unfold Declarations.withSections
  case messages => rw [h.messages, hmessages]
  case portTypes => rw [h.portTypes, hportTypes]
  case bindings => rw [h.bindings, hbindings]
  case services => rw [h.services, hservices]

end Declarations

/-! ## Descriptions with their sections in another order -/

namespace Xml.Element

/-- The children that are sections of this kind. -/
def sectionsOf (kind : Kind) (children : List (Element × Option String)) : List Element :=
  (children.map Prod.fst).filter fun child => Kind.definitions.child? child.localName = some kind

/-- A root with its children in another order, in which the sections of each kind stay in theirs. The texts between
the children do not matter. -/
inductive Reorders : Element → Element → Prop where
  | mk {name : QName} {attributes declarations : OrderedMap String String} {text text' : Option String}
      {children children' : List (Element × Option String)}
      (hperm : (children.map Prod.fst).Perm (children'.map Prod.fst))
      (hordered : ∀ kind, sectionsOf kind children = sectionsOf kind children') :
      Reorders ⟨name, attributes, declarations, text, children⟩ ⟨name, attributes, declarations, text', children'⟩

/-- No prefix is declared with two different URIs. The default namespace is that of the empty prefix. -/
def DeclaresOnce (root : Element) : Prop := ∀ b ∈ root.declared, ∀ b' ∈ root.declared, b.1 = b'.1 → b.2 = b'.2

variable {root root' : Element}

theorem Reorders.symm (h : root.Reorders root') : root'.Reorders root := by
  cases h with
  | mk hperm hordered => exact .mk hperm.symm fun kind => (hordered kind).symm

theorem Reorders.localName_eq (h : root.Reorders root') : root.localName = root'.localName := by
  cases h
  rfl

theorem Reorders.mem_declared_iff (h : root.Reorders root') (b : String × String) :
    b ∈ root.declared ↔ b ∈ root'.declared := by
  cases h with
  | mk hperm _ => simp only [declared, List.mem_append, mem_declaredInside, hperm.mem_iff]

theorem Reorders.declaresOnce (h : root.Reorders root') (honce : root.DeclaresOnce) : root'.DeclaresOnce :=
  fun b hb b' hb' => honce b ((h.mem_declared_iff b).mpr hb) b' ((h.mem_declared_iff b').mpr hb')

/-- Every prefix stands for the same URI in both documents. -/
theorem Reorders.get?_declarations (h : root.Reorders root') (honce : root.DeclaresOnce) (name : String) :
    (OrderedMap.ofList (root.node .definitions []).declarations).get? name =
      (OrderedMap.ofList (root'.node .definitions []).declarations).get? name := by
  refine OrderedMap.get?_ofList_congr (fun b => ?_) (fun b hb b' hb' => ?_) name
  · rw [mem_declarations_node, mem_declarations_node, h.mem_declared_iff]
  · exact honce b ((mem_declarations_node ..).mp hb) b' ((mem_declarations_node ..).mp hb')

/-- The nodes of sections of one kind are those of the elements. -/
theorem filter_childNodes {kind : Kind} (hkind : kind ≠ .generic) (scope : OrderedMap String String)
    (children : List (Element × Option String)) :
    ((childNodes .definitions scope children).filter fun n => n.kind = kind) =
      (sectionsOf kind children).map (node kind scope) := by
  let nodeOf (child : Element) : Node := child.node ((Kind.definitions.child? child.localName).getD .generic) scope
  have hkinds : (fun n : Node => decide (n.kind = kind)) ∘ nodeOf =
      fun child => decide (Kind.definitions.child? child.localName = some kind) := by
    funext child
    rw [Function.comp_apply, kind_node]
    cases Kind.definitions.child? child.localName with
    | none => simp [hkind.symm]
    | some other => simp
  rw [childNodes_eq_map, List.filter_map, hkinds]
  refine List.map_congr_left fun child hchild => ?_
  rw [of_decide_eq_true (List.mem_filter.mp hchild).2, Option.getD_some]

theorem Reorders.agreeByKind (h : root.Reorders root') :
    Declarations.AgreeByKind (root.node .definitions []).children (root'.node .definitions []).children := by
  cases h with
  | mk _ hordered =>
    intro kind hkind
    rw [node, node, filter_childNodes hkind, filter_childNodes hkind, hordered]

theorem Reorders.mem_children_iff (h : root.Reorders root') (n : Node) :
    n ∈ (root.node .definitions []).children ↔ n ∈ (root'.node .definitions []).children := by
  cases h with
  | mk hperm _ =>
    rw [node, node, childNodes_eq_map, childNodes_eq_map]
    exact (hperm.map _).mem_iff

end Xml.Element

namespace Declarations

open Xml (Element)
open Xml.Element (Reorders)

variable {text text' : String} {root root' : Element} {strict : Bool} {d d' : Declarations}

/-- What a description declares before its sections are read. -/
def heading (root : Element) : Declarations :=
  let namespaces := OrderedMap.ofList (root.node .definitions []).declarations
  { name := root.attributes.get? "name"
    targetNamespace := root.attributes.get? "targetNamespace"
    namespaces
    schemas := { namespaces } }

theorem ofDocument_node (root : Element) :
    ofDocument { root := root.node .definitions []
                 namespaces := OrderedMap.ofList (root.node .definitions []).declarations } =
      (root.node .definitions []).children.foldlM addSection (heading root) := by
  cases root
  rfl

/-- A description is read if its sections are, and has then what these add. -/
theorem parse_of_isReadAs (h : Xml.IsReadAs text root) (hroot : root.localName = "definitions") :
    parse text strict = .ok d ↔
      (strict = true → (root.node .definitions []).IsKnown) ∧
        (∀ n ∈ (root.node .definitions []).children, n.IsReadable) ∧
        d = (heading root).withSections (root.node .definitions []).children := by
  have hkind : Kind.root? root.localName = some .definitions := by rw [hroot]; rfl
  rw [← addSections_eq_ok, ← ofDocument_node]
  constructor
  · intro hd
    obtain ⟨doc, hdoc, hd⟩ := bind_eq_ok hd
    obtain ⟨hknown, rfl⟩ := (Document.parse_of_isReadAs h hkind strict).mp hdoc
    exact ⟨hknown, hd⟩
  · rintro ⟨hknown, hd⟩
    rw [parse, (Document.parse_of_isReadAs h hkind strict).mpr ⟨hknown, rfl⟩, ok_bind, hd]

theorem heading_alike (h : root.Reorders root') (honce : root.DeclaresOnce) : (heading root).Alike (heading root') := by
  have hnamespaces := h.get?_declarations honce
  cases h
  exact ⟨rfl, rfl, hnamespaces, ⟨rfl, hnamespaces⟩, rfl, rfl, rfl, rfl⟩

/-- With its sections in another order a description declares the same. -/
theorem parse_reorders (h : root.Reorders root') (htext : Xml.IsReadAs text root) (htext' : Xml.IsReadAs text' root')
    (hroot : root.localName = "definitions") (honce : root.DeclaresOnce) (hd : parse text strict = .ok d) :
    ∃ d', parse text' strict = .ok d' ∧ d.Alike d' := by
  obtain ⟨hknown, hreadable, rfl⟩ := (parse_of_isReadAs htext hroot).mp hd
  refine ⟨_, (parse_of_isReadAs htext' (h.localName_eq ▸ hroot)).mpr ⟨fun hstrict => ?_, fun n hn => ?_, rfl⟩, ?_⟩
  · obtain ⟨-, hchildren⟩ := Node.isKnown_iff.mp (hknown hstrict)
    refine Node.isKnown_iff.mpr ⟨?_, fun n hn => hchildren n ((h.mem_children_iff n).mpr hn)⟩
    rw [Xml.Element.kind_node]
    decide
  · exact hreadable n ((h.mem_children_iff n).mpr hn)
  · exact (heading_alike h honce).withSections h.agreeByKind

end Declarations

/-- The definitions of a text, if it is read and its references are resolved without an error. -/
def Definitions.read? (text : String) (options : LoadOptions) : Option Definitions :=
  (Declarations.parse text options.strict).toOption.bind fun d => (d.definitions options.strictReferences).toOption

namespace Definitions

/-- Every text that has definitions is read as an element. -/
theorem exists_isReadAs_of_read? {text : String} {options : LoadOptions} {r : Definitions}
    (h : read? text options = some r) : ∃ root, Xml.IsReadAs text root := by
  obtain ⟨d, hd, -⟩ := Option.bind_eq_some_iff.mp h
  cases hparse : Declarations.parse text options.strict with
  | error e =>
    rw [hparse] at hd
    cases hd
  | ok d =>
    obtain ⟨doc, hdoc, -⟩ := bind_eq_ok hparse
    obtain ⟨root, -, hroot, -⟩ := Document.exists_isReadAs hdoc
    exact ⟨root, hroot⟩

/-- The order of sections of different kinds does not matter. What has definitions is read as an element; and of a
description that declares no prefix with two URIs, and one that has its sections in another order, either neither has
definitions or both have the same. -/
theorem read?_reorders (options : LoadOptions) :
    (∀ text r, read? text options = some r → ∃ root, Xml.IsReadAs text root) ∧
      ∀ text text' root root', Xml.IsReadAs text root → Xml.IsReadAs text' root' → root.localName = "definitions" →
        root.DeclaresOnce → root.Reorders root' →
        Option.Rel Definitions.Alike (read? text options) (read? text' options) := by
  refine ⟨fun text r => exists_isReadAs_of_read?, fun text text' root root' htext htext' hroot honce h => ?_⟩
  unfold read?
  cases hd : Declarations.parse text options.strict with
  | ok d =>
    obtain ⟨d', hd', halike⟩ := Declarations.parse_reorders h htext htext' hroot honce hd
    rw [hd']
    exact halike.definitions options.strictReferences
  | error e =>
    cases hd' : Declarations.parse text' options.strict with
    | error e' => exact .none
    | ok d' =>
      obtain ⟨d, hok, -⟩ := Declarations.parse_reorders h.symm htext' htext (h.localName_eq ▸ hroot)
        (h.declaresOnce honce) hd'
      cases hd.symm.trans hok

end Definitions

/-! ### A bell -/

/-- Sections as they are written, and what is read of them. -/
def bellSections : List (Xml.Markup × Xml.Element) :=
  let piece (tag : String) (attributes : List (String × String)) (content : List (Xml.Markup × Xml.Element)) :
      Xml.Markup × Xml.Element :=
    (.element tag attributes (content.map Prod.fst),
      ⟨⟨none, tag⟩, attributes, [], none, content.map fun child => (child.2, none)⟩)
  [piece "types" [] [piece "schema" [("targetNamespace", "urn:bell")] [piece "simpleType" [("name", "Peal")] []]],
    piece "message" [("name", "Ring")] [piece "part" [("name", "peal"), ("type", "t:Peal")] []],
    piece "portType" [("name", "Bell")]
      [piece "operation" [("name", "ring")] [piece "input" [("message", "t:Ring")] []]],
    piece "binding" [("name", "BellSoap"), ("type", "t:Bell")]
      [piece "binding" [("transport", "http://schemas.xmlsoap.org/soap/http")] []],
    piece "service" [("name", "Tower")] [piece "port" [("name", "bell"), ("binding", "t:BellSoap")] []]]

def bellText (sections : List (Xml.Markup × Xml.Element)) : String :=
  Xml.Markup.render (.element "definitions" [("xmlns:t", "urn:bell")] (sections.map Prod.fst))

def bellRoot (sections : List (Xml.Markup × Xml.Element)) : Xml.Element :=
  ⟨⟨none, "definitions"⟩, [], [("t", "urn:bell")], none, sections.map fun child => (child.2, none)⟩

/-- A bell is the same forwards and backwards, and all references in it lead somewhere. -/
theorem Definitions.read?_reorders_bell :
    Xml.IsReadAs (bellText bellSections) (bellRoot bellSections) ∧
    Xml.IsReadAs (bellText bellSections.reverse) (bellRoot bellSections.reverse) ∧
    (bellRoot bellSections).localName = "definitions" ∧ (bellRoot bellSections).DeclaresOnce ∧
    (bellRoot bellSections).Reorders (bellRoot bellSections.reverse) ∧
    ∃ r r', read? (bellText bellSections) { strict := true, strictReferences := true } = some r ∧
      read? (bellText bellSections.reverse) { strict := true, strictReferences := true } = some r' ∧ r.Alike r' := by
  have hw : (Xml.Markup.element "definitions" [("xmlns:t", "urn:bell")] (bellSections.map Prod.fst)).IsWritable := by
    decide +kernel
  have hw' : (Xml.Markup.element "definitions" [("xmlns:t", "urn:bell")]
      (bellSections.reverse.map Prod.fst)).IsWritable := by
    decide +kernel
  have htext : Xml.IsReadAs (bellText bellSections) (bellRoot bellSections) :=
    ⟨none, none, Document.events?_render hw⟩
  have htext' : Xml.IsReadAs (bellText bellSections.reverse) (bellRoot bellSections.reverse) :=
    ⟨none, none, Document.events?_render hw'⟩
  have honce : (bellRoot bellSections).DeclaresOnce := by
    unfold Xml.Element.DeclaresOnce
    decide
  have h : (bellRoot bellSections).Reorders (bellRoot bellSections.reverse) :=
    .mk (List.reverse_perm _).symm fun kind => by cases kind <;> rfl
  have hread : ∃ r, read? (bellText bellSections) { strict := true, strictReferences := true } = some r := by
    rw [read?, Declarations.parse, bellText, Document.parse_render hw]
    exact ⟨_, rfl⟩
  refine ⟨htext, htext', rfl, honce, h, ?_⟩
  obtain ⟨r, hr⟩ := hread
  have halike := (read?_reorders { strict := true, strictReferences := true }).2 _ _ _ _ htext htext' rfl honce h
  rw [hr] at halike
  generalize hr' : read? (bellText bellSections.reverse) { strict := true, strictReferences := true } = r'? at halike
  cases halike with
  | some halike => exact ⟨_, _, hr, rfl, halike⟩

end Soap
