import Soap.Client
import Soap.Proofs.Envelope.Numbering

/-!
# When a fault is raised

Whether a response is a fault is asked of the value that was decoded: a fault is a field of its body.
Every `Fault` in a body becomes such a field, whatever its attributes are, where it stands and how many
there are. But the body has fields only if it is the one body of the one envelope: two bodies are a
list, and so are two envelopes, and a list has no fields. So a fault is raised exactly if an only
envelope has an only body with a fault in it (`Client.fault_iff`).
-/

namespace Soap

open Xml (Element)
open Xml.Element (called childValues documentEvents documentMessage? documentValues totalSize)

/-! ## Children of a name -/

namespace Xml.Element

variable (defs : Option Definitions) (message : Option Nat) (x : Expectation) {name : String}

theorem length_named_childValues (name : String) (n : Nat) (children : List (Element × Option String)) :
    (Partial.named name (childValues defs message x n children)).length = (called name children).length := by
  induction children generalizing n with
  | nil => rfl
  | cons first rest ih =>
    obtain ⟨child, text⟩ := first
    rw [childValues, Partial.named, called, List.map_cons, List.filter_cons, List.filter_cons]
    split
    · rw [List.map_cons, List.length_cons, List.length_cons]
      exact congrArg (· + 1) (ih _)
    · exact ih _

/-- Where the only child of a name stands. -/
theorem exists_split_of_called {children : List (Element × Option String)} {child : Element}
    (h : called name children = [child]) :
    ∃ before text after, children = before ++ (child, text) :: after ∧ called name before = [] ∧
      called name after = [] ∧ child.localName = name := by
  obtain ⟨elements, later, hsplit, hbefore, hchild, hafter⟩ := List.filter_eq_cons_iff.mp h
  obtain ⟨before, rest, rfl, rfl, hrest⟩ := List.map_eq_append_iff.mp hsplit
  obtain ⟨⟨_, text⟩, after, rfl, rfl, rfl⟩ := List.map_eq_cons_iff.mp hrest
  refine ⟨before, text, after, rfl, ?_, hafter, eq_of_beq hchild⟩
  exact List.filter_eq_nil_iff.mpr hbefore

/-- What the only child of a name is. -/
theorem named_childValues_of_called {before after : List (Element × Option String)} {child : Element}
    {text : Option String} (hbefore : called name before = []) (hafter : called name after = [])
    (hname : child.localName = name) (n : Nat) :
    let k := n + totalSize before
    Partial.named name (childValues defs message x n (before ++ (child, text) :: after)) =
      [child.standIn (child.content defs message (x.inside defs message k name) k)] := by
  intro k
  have hfirst := (named_childValues_eq_nil_iff defs message x name n before).mpr hbefore
  have hlast := (named_childValues_eq_nil_iff defs message x name (k + child.size) after).mpr hafter
  subst hname
  rw [Partial.named] at hfirst hlast ⊢
  rw [childValues_append, childValues, List.filter_append, List.map_append, hfirst,
    List.filter_cons_of_pos (by rw [beq_self_eq_true]), List.map_cons, hlast, List.nil_append]

/-- The field of a name that is not declared to repeat: what stands in the only child of this name, or a
list of several. None of the children is a reference. -/
theorem field_cases (hx : x.schema.any (·.isRepeated name) = false) (n : Nat)
    {children : List (Element × Option String)} (hhref : ∀ child ∈ called name children, child.href? = none) :
    let field := (Partial.collect x.schema (childValues defs message x n children)).get? name
    (called name children = [] ∧ field = none) ∨
    (∃ before child text after, called name children = [child] ∧ children = before ++ (child, text) :: after ∧
      let k := n + totalSize before
      field = some (child.content defs message (x.inside defs message k name) k)) ∨
    ∃ first second rest items, called name children = first :: second :: rest ∧ field = some (.list items) := by
  intro field
  have hlength := length_named_childValues defs message x name n children
  have hnil := named_childValues_eq_nil_iff defs message x name n children
  have hfield : field = if Partial.named name (childValues defs message x n children) = [] then none
      else some (Partial.gather false (Partial.named name (childValues defs message x n children))) := by
    rw [← hx]
    exact Partial.get?_collect x.schema name
  match hcalled : called name children with
  | [] => exact .inl ⟨rfl, by rw [hfield, if_pos (hnil.mpr hcalled)]⟩
  | [child] =>
    have hchild : child.href? = none := hhref child (by rw [hcalled]; exact List.mem_singleton_self child)
    obtain ⟨before, text, after, rfl, hbefore, hafter, hname⟩ := exists_split_of_called hcalled
    refine .inr (.inl ⟨before, child, text, after, rfl, rfl, ?_⟩)
    rw [hfield, named_childValues_of_called defs message x hbefore hafter hname,
      child.standIn_of_href?_eq_none hchild, if_neg (List.cons_ne_nil _ _)]
    rfl
  | first :: second :: rest =>
    rw [hcalled] at hlength
    match hnamed : Partial.named name (childValues defs message x n children) with
    | [] | [_] =>
      rw [hnamed] at hlength
      simp at hlength
    | one :: two :: more =>
      refine .inr (.inr ⟨first, second, rest, one :: two :: more, rfl, ?_⟩)
      rw [hfield, hnamed, if_neg (List.cons_ne_nil _ _)]
      rfl

/-- An element has a field for each name among its children. -/
theorem isSome_get?_content (text : Option String) (n : Nat) (children : List (Element × Option String))
    (targets : OrderedMap String Partial) (active : List String) :
    (((x.content text (childValues defs message x n children)).resolve targets active).get? name).isSome = true ↔
      called name children ≠ [] := by
  have hnil := named_childValues_eq_nil_iff defs message x name n children
  rw [Partial.get?_resolve_content, Option.isSome_map, Partial.get?_collect]
  by_cases h : called name children = []
  · rw [if_pos (hnil.mpr h)]
    exact iff_of_false Bool.false_ne_true (absurd h)
  · rw [if_neg (mt hnil.mp h)]
    exact iff_of_true rfl h

end Xml.Element

/-! ## Faults -/

namespace Envelope

/-- A fault is raised for a field of the body. -/
theorem ofValue_fault_iff (envelope : Value) :
    (∃ f, ofValue envelope = .error (.fault f)) ↔ ((bodyOf envelope).get? "Fault").isSome = true := by
  unfold ofValue Decoder.faultOf?
  cases (bodyOf envelope).get? "Fault" with
  | none =>
    apply iff_of_false
    · rintro ⟨f, hf⟩
      cases hf
    · exact Bool.false_ne_true
  | some fault => exact iff_of_true ⟨_, rfl⟩ rfl

/-- Where bodies are no references, a fault is raised if there is one body and it has a fault. -/
theorem fault_in_content_iff (defs : Option Definitions) (message : Option Nat) {x : Expectation}
    (hx : x.schema.any (·.isRepeated "Body") = false) (text : Option String) (n : Nat)
    {children : List (Element × Option String)}
    (hbodies : ∀ body ∈ called "Body" children, body.href? = none) (targets : OrderedMap String Partial) :
    ((bodyOf ((x.content text (childValues defs message x n children)).resolve targets [])).get?
        "Fault").isSome = true ↔
      ∃ body, called "Body" children = [body] ∧ called "Fault" body.children ≠ [] := by
  rw [bodyOf, Partial.get?_resolve_content]
  rcases Element.field_cases defs message x hx n hbodies with
    ⟨hcalled, hfield⟩ | ⟨before, body, gap, after, hcalled, rfl, hfield⟩ |
      ⟨first, second, rest, items, hcalled, hfield⟩
  · -- There is no body.
    rw [hfield, hcalled]
    apply iff_of_false
    · exact Bool.false_ne_true
    · rintro ⟨body, hbody, -⟩
      cases hbody
  · -- What stands in the body has a field for the fault.
    rw [hfield, hcalled, Option.map_some, Option.getD_some, Element.content_eq]
    refine (Element.isSome_get?_content defs message _ body.text _ body.children targets []).trans ?_
    constructor
    · intro hfault
      exact ⟨body, rfl, hfault⟩
    · rintro ⟨_, ⟨⟩, hfault⟩
      exact hfault
  · -- Several bodies are a list.
    rw [hfield, hcalled, Option.map_some, Option.getD_some, Partial.get?_resolve_list]
    apply iff_of_false
    · exact Bool.false_ne_true
    · rintro ⟨body, hbody, -⟩
      cases hbody

/-- No envelope among the roots is a reference, and no body in one. -/
def IsInPlace (roots : List (Element × Option String)) : Prop :=
  ∀ root ∈ called "Envelope" roots, root.href? = none ∧ ∀ body ∈ called "Body" root.children, body.href? = none

/-- There is one envelope, and it has one body, in which there is a fault. -/
def HasFault (roots : List (Element × Option String)) : Prop :=
  ∃ root body, called "Envelope" roots = [root] ∧ called "Body" root.children = [body] ∧
    called "Fault" body.children ≠ []

theorem decode_fault_iff (defs : Option Definitions) {text : String} {lead : Option String}
    {roots : List (Element × Option String)}
    (h : (Xml.read text).events? = some (documentEvents lead roots)) (hroots : IsInPlace roots) :
    (∃ f, decode defs text = .error (.fault f)) ↔ HasFault roots := by
  unfold HasFault
  have houtermost : some overlay = Expectation.outermost.schema := rfl
  rw [decode_document defs h, documentValues, houtermost]
  rcases Element.field_cases defs (documentMessage? roots) .outermost rfl 0 fun root hroot => (hroots root hroot).1 with
    ⟨hcalled, hfield⟩ | ⟨before, root, gap, after, hcalled, rfl, hfield⟩ |
      ⟨first, second, rest, items, hcalled, hfield⟩
  · -- There is no envelope.
    rw [hfield, hcalled]
    apply iff_of_false
    · rintro ⟨f, hf⟩
      cases hf
    · rintro ⟨root, body, hroot, -⟩
      cases hroot
  · -- The envelope is not where a message is expected.
    have hmessage : documentMessage? (before ++ (root, gap) :: after) ≠ some (0 + totalSize before) := by
      intro hhead
      exact Element.not_mem_childOffers (by decide) 0 before root gap after (List.mem_of_mem_head? hhead)
    have hbodies := (hroots root (by rw [hcalled]; exact List.mem_singleton_self root)).2
    rw [hfield, hcalled, Element.content_eq, Expectation.inside, if_neg hmessage]
    refine (ofValue_fault_iff _).trans ((fault_in_content_iff defs _ rfl root.text _ hbodies _).trans ?_)
    constructor
    · rintro ⟨body, hbody, hfault⟩
      exact ⟨root, body, rfl, hbody, hfault⟩
    · rintro ⟨_, body, ⟨⟩, hbody, hfault⟩
      exact ⟨body, hbody, hfault⟩
  · -- Several envelopes are a list.
    rw [hfield, hcalled]
    refine (ofValue_fault_iff _).trans ?_
    rw [bodyOf, Partial.get?_resolve_list]
    apply iff_of_false
    · exact Bool.false_ne_true
    · rintro ⟨root, body, hroot, -⟩
      cases hroot

end Envelope

/-- A client raises what is decoded as a fault, and nothing else. -/
theorem Client.parseResponse_fault_iff (c : Client) (text : String) (f : Fault) :
    c.parseResponse text = .error (.fault f) ↔
      Envelope.decode (some c.definitions) text = .error (.fault f) := by
  unfold parseResponse
  cases Envelope.decode (some c.definitions) text with
  | ok response =>
    apply iff_of_false
    · rintro ⟨⟩
    · rintro ⟨⟩
  | error e =>
    cases e with
    | fault f' =>
      constructor
      · rintro ⟨⟩
        rfl
      · rintro ⟨⟩
        rfl
    | parse _ | missingEnvelope =>
      apply iff_of_false
      · rintro ⟨⟩
      · rintro ⟨⟩

/-- A document without errors in its text is a list of trees. Where the envelope and its body are no
references, decoding raises a fault exactly if an only envelope has an only body with a fault in it,
whatever else there is; and so does a client that is handed the document as a response. -/
theorem Client.fault_iff {defs : Option Definitions} {text : String}
    (h : ∀ e, Envelope.decode defs text ≠ .error (.parse e)) :
    (∃ lead roots, (Xml.read text).events? = some (documentEvents lead roots)) ∧
    ∀ lead roots, (Xml.read text).events? = some (documentEvents lead roots) → Envelope.IsInPlace roots →
      (∀ defs, (∃ f, Envelope.decode defs text = .error (.fault f)) ↔ Envelope.HasFault roots) ∧
      ∀ c : Client, (∃ f, c.parseResponse text = .error (.fault f)) ↔ Envelope.HasFault roots := by
  refine ⟨Element.exists_document h, ?_⟩
  intro lead roots hread hroots
  constructor
  · intro defs
    exact Envelope.decode_fault_iff defs hread hroots
  · intro c
    simp only [parseResponse_fault_iff]
    exact Envelope.decode_fault_iff (some c.definitions) hread hroots

/-! ### One body and two -/

/-- A fault and something else. -/
def faultTree : Element := .plain "Fault" none [.plain "faultcode" (some "c") [], .plain "faultstring" (some "m") []]

/-- An envelope with a fault in its only body, which has another element and a name. -/
def faultyTree : Element :=
  .plain "Envelope" none [.plain "Header" none [],
    ⟨.unqualified "Body", [("id", "b")], [], none, [(.plain "note" none [], none), (faultTree, some "later")]⟩]

/-- The text of the envelope. -/
def faultyText : String :=
  "<Envelope><Header/><Body id=\"b\"><note/><Fault><faultcode>c</faultcode><faultstring>m</faultstring>" ++
    "</Fault>later</Body></Envelope>"

/-- An envelope with a second body. -/
def twoBodiesTree : Element :=
  .plain "Envelope" none [.plain "Body" none [faultTree], .plain "Body" none []]

/-- The text of the envelope. -/
def twoBodiesText : String :=
  "<Envelope><Body><Fault><faultcode>c</faultcode><faultstring>m</faultstring></Fault></Body><Body/></Envelope>"

theorem read_faultyText : (Xml.read faultyText).events? = some (documentEvents none [(faultyTree, none)]) := by
  decide +kernel

theorem read_twoBodiesText : (Xml.read twoBodiesText).events? = some twoBodiesTree.events := by
  decide +kernel

theorem value_twoBodiesTree (defs : Option Definitions) :
    twoBodiesTree.value defs = .object [("Body", .list [
      .object [("Fault", .object [("faultcode", .scalar (.string "c")), ("faultstring", .scalar (.string "m"))])],
      .object []])] := rfl

/-- The fault is raised: what is beside it and around it does not matter. -/
theorem Client.fault_iff_faulty :
    (∀ e, Envelope.decode none faultyText ≠ .error (.parse e)) ∧
    Envelope.IsInPlace [(faultyTree, none)] ∧ Envelope.HasFault [(faultyTree, none)] ∧
    (∀ defs, ∃ f, Envelope.decode defs faultyText = .error (.fault f)) ∧
    ∀ c : Client, ∃ f, c.parseResponse faultyText = .error (.fault f) := by
  have hplace : Envelope.IsInPlace [(faultyTree, none)] := by
    intro root hroot
    obtain rfl := List.mem_singleton.mp hroot
    refine ⟨rfl, ?_⟩
    intro body hbody
    obtain rfl := List.mem_singleton.mp hbody
    rfl
  have hfault : Envelope.HasFault [(faultyTree, none)] := ⟨_, _, rfl, rfl, List.cons_ne_nil _ _⟩
  have hparse := Envelope.decode_ne_parse none read_faultyText
  obtain ⟨-, hroots⟩ := Client.fault_iff hparse
  obtain ⟨hdecode, hclient⟩ := hroots none _ read_faultyText hplace
  refine ⟨hparse, hplace, hfault, ?_, ?_⟩
  · intro defs
    exact (hdecode defs).mpr hfault
  · intro c
    exact (hclient c).mpr hfault

/-- With a second body beside it the fault is lost: what is decoded has no fault, and the client returns
nothing. -/
theorem Client.fault_lost_of_two_bodies :
    (Xml.read twoBodiesText).events? = some twoBodiesTree.events ∧
    (∃ body ∈ called "Body" twoBodiesTree.children, called "Fault" body.children ≠ []) ∧
    (∀ defs, ∃ response, Envelope.decode defs twoBodiesText = .ok response) ∧
    ∀ c : Client, c.parseResponse twoBodiesText = .ok .null := by
  have hdecode : ∀ defs, Envelope.decode defs twoBodiesText = .ok {
      header := none
      body := .list [.object [("Fault", .object [("faultcode", .string "c"), ("faultstring", .string "m")])],
        .object []] } := by
    intro defs
    rw [Envelope.decode_tree defs rfl read_twoBodiesText, value_twoBodiesTree]
    simp [Partial.resolve, Partial.resolveFields, Partial.resolveItems]
    rfl
  refine ⟨read_twoBodiesText, ⟨_, List.mem_cons_self, List.cons_ne_nil _ _⟩, ?_, ?_⟩
  · intro defs
    exact ⟨_, hdecode defs⟩
  · intro c
    rw [parseResponse, hdecode]
    rfl

end Soap
