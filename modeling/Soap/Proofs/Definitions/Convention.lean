import Soap.Proofs.Definitions.Naming
import Soap.Proofs.Text.Split

/-!
# The naming convention for remote calls

An element that no message answers to stands for a call by convention: its name is that of an
operation, or that of one with an ending that says which message of the call it carries
(`Definitions.Addresses`). The ending is taken off first, whatever operations there are. So the
answer of an operation is found under every name, but its input only if the name has no such ending
itself. If it has one, it is taken for the name of another operation
(`Definitions.findMessage?_of_operation`).
-/

namespace Soap

open Xml (Markup)

namespace Definitions

/-! ## Endings -/

theorem withoutEnding?_eq_some {ending name stem : String} :
    withoutEnding? ending name = some stem ↔ name = stem ++ ending := by
  rw [withoutEnding?, Option.map_eq_some_iff]
  constructor
  · rintro ⟨rest, h, rfl⟩
    rw [← String.toList_inj, String.toList_append, String.toList_ofList]
    exact Text.beforeTail?_eq_some.mp h
  · rintro rfl
    exact ⟨stem.toList, Text.beforeTail?_eq_some.mpr String.toList_append, String.ofList_toList⟩

theorem withoutEnding?_append (stem ending : String) : withoutEnding? ending (stem ++ ending) = some stem :=
  withoutEnding?_eq_some.mpr rfl

/-- A name has one of two endings only, unless one is the end of the other. -/
theorem withoutEnding?_append_of_not_suffix {ending other : String} (h : ¬ ending.toList <:+ other.toList)
    (h' : ¬ other.toList <:+ ending.toList) (stem : String) : withoutEnding? ending (stem ++ other) = none := by
  refine Option.eq_none_iff_forall_ne_some.mpr fun rest hrest => ?_
  have hboth : stem.toList ++ other.toList = rest.toList ++ ending.toList := by
    rw [← String.toList_append, withoutEnding?_eq_some.mp hrest, String.toList_append]
  have hother : other.toList <:+ rest.toList ++ ending.toList := ⟨_, hboth⟩
  rcases List.suffix_or_suffix_of_suffix hother (List.suffix_append _ _) with hsuffix | hsuffix
  · exact h' hsuffix
  · exact h hsuffix

/-! ## The operation that an element stands for -/

/-- A name that says of itself which message of a call an element carries. -/
def HasEnding (name : String) : Prop :=
  ∃ stem, name = stem ++ "Response" ∨ name = stem ++ "Request" ∨ name = stem ++ "Solicit"

/-- By convention the element stands for the operation of this name, and carries its answer or its
input. -/
inductive Addresses : (element name : String) → (isAnswer : Bool) → Prop where
  | answer (name : String) : Addresses (name ++ "Response") name true
  | request (name : String) : Addresses (name ++ "Request") name false
  | solicit (name : String) : Addresses (name ++ "Solicit") name false
  | plain (name : String) (h : ¬ HasEnding name) : Addresses name name false

theorem Addresses.conventionalOperation_eq {element name : String} {isAnswer : Bool}
    (h : Addresses element name isAnswer) : conventionalOperation element = (name, isAnswer) := by
  rw [conventionalOperation]
  cases h with
  | answer name => rw [withoutEnding?_append]
  | request name =>
    rw [withoutEnding?_append_of_not_suffix (by decide) (by decide), withoutEnding?_append]
    rfl
  | solicit name =>
    rw [withoutEnding?_append_of_not_suffix (by decide) (by decide),
      withoutEnding?_append_of_not_suffix (by decide) (by decide), withoutEnding?_append]
    rfl
  | plain _ hplain =>
    have hnone (ending : String) (hending : ∀ stem, element = stem ++ ending → HasEnding element) :
        withoutEnding? ending element = none :=
      Option.eq_none_iff_forall_ne_some.mpr fun stem hstem =>
        hplain (hending stem (withoutEnding?_eq_some.mp hstem))
    rw [hnone "Response" fun stem h => ⟨stem, .inl h⟩, hnone "Request" fun stem h => ⟨stem, .inr (.inl h)⟩,
      hnone "Solicit" fun stem h => ⟨stem, .inr (.inr h)⟩]
    rfl

/-! ## The message that an element stands for -/

/-- No message is called so, and none is carried by an element that is. -/
def IsFree (d : Definitions) (name : String) : Prop :=
  name ∉ d.messages.keys ∧ ∀ entry ∈ d.messages, entry.2.elementName? ≠ some name

instance (d : Definitions) (name : String) : Decidable (d.IsFree name) :=
  inferInstanceAs (Decidable (_ ∧ _))

variable {d : Definitions}

theorem IsFree.message?_eq_none {name : String} (h : d.IsFree name) : d.message? name = none := by
  have halias : d.aliases.get? name = none := by
    rw [get?_aliases, List.find?_eq_none.mpr fun entry hentry => ?_]
    · rfl
    · rw [decide_eq_true_iff]
      exact h.2 entry (List.mem_reverse.mp hentry)
  rw [message?, OrderedMap.get?_eq_none_iff.mpr h.1, halias]
  rfl

/-- A free name is found as the message of the operation that it stands for, if the first port type
has that operation. -/
theorem IsFree.findMessage?_eq {element name : String} {isAnswer : Bool} (h : d.IsFree element)
    (haddresses : Addresses element name isAnswer) {first : String × PortType} (hfirst : d.portTypes.head? = some first) :
    d.findMessage? element =
      (first.2.operations.get? name).bind fun op => if isAnswer then op.output else op.input := by
  rw [findMessage?, h.message?_eq_none, conventionalMessage?, hfirst, haddresses.conventionalOperation_eq]
  rfl

/-- The answer of an operation of the first port type is found under the operation's name with
`Response` behind it, whatever the name is. The input is found under the name itself if this has no
ending of the convention. A name that has one is taken for the name before the ending, and what is
found is the answer or the input of the operation of that name, if there is one. -/
theorem findMessage?_of_operation {first : String × PortType} {name : String} {op : Operation}
    (hfirst : d.portTypes.head? = some first) (hop : first.2.operations.get? name = some op)
    (hname : d.IsFree name) (hanswer : d.IsFree (name ++ "Response")) :
    d.findMessage? (name ++ "Response") = op.output ∧
    (¬ HasEnding name → d.findMessage? name = op.input) ∧
    ∀ stem,
      (name = stem ++ "Response" →
        d.findMessage? name = (first.2.operations.get? stem).bind Operation.output) ∧
      (name = stem ++ "Request" ∨ name = stem ++ "Solicit" →
        d.findMessage? name = (first.2.operations.get? stem).bind Operation.input) := by
  refine ⟨?_, fun hplain => ?_, fun stem => ⟨?_, ?_⟩⟩
  · rw [hanswer.findMessage?_eq (.answer name) hfirst, hop]
    rfl
  · rw [hname.findMessage?_eq (.plain name hplain) hfirst, hop]
    rfl
  · rintro rfl
    exact hname.findMessage?_eq (.answer stem) hfirst
  · rintro (rfl | rfl)
    · exact hname.findMessage?_eq (.request stem) hfirst
    · exact hname.findMessage?_eq (.solicit stem) hfirst

end Definitions

/-! ### Operations that are called like the messages of others -/

/-- A message of a call that carries a text. -/
def noteMessage (name : String) : Message :=
  { name, body := .parts [("note", { typeRef := "xsd:string", space := none })] }

/-- A call with an answer. -/
def noteOperation (name input output : String) : Operation :=
  { name, style := .document, soapAction := "", input := some (noteMessage input)
    output := some (noteMessage output), inputBody := none, outputBody := none, documentation := none }

/-- A service can be asked for a quote, and a request for one can be filed. -/
def quotes : Definitions :=
  { name := none, targetNamespace := some "urn:quotes", namespaces := [("q", "urn:quotes")]
    schemas := { namespaces := [("q", "urn:quotes")] }
    messages := [("Asked", noteMessage "Asked"), ("Told", noteMessage "Told"), ("Filed", noteMessage "Filed"),
      ("Number", noteMessage "Number")]
    portTypes := [("Quotes",
      { name := "Quotes"
        operations := [("quote", noteOperation "quote" "Asked" "Told"),
          ("quoteRequest", noteOperation "quoteRequest" "Filed" "Number")] })]
    bindings := [], services := [] }

def noteMessageMarkup (name : String) : Markup :=
  .element "message" [("name", name)] [leafMarkup "part" [("name", "note"), ("type", "xsd:string")]]

def noteOperationMarkup (name input output : String) : Markup :=
  .element "operation" [("name", name)]
    [leafMarkup "input" [("message", input)], leafMarkup "output" [("message", output)]]

/-- The document that describes the service. -/
def quotesMarkup : Markup :=
  .element "definitions" [("xmlns:q", "urn:quotes"), ("targetNamespace", "urn:quotes")]
    [noteMessageMarkup "Asked", noteMessageMarkup "Told", noteMessageMarkup "Filed", noteMessageMarkup "Number",
      .element "portType" [("name", "Quotes")]
        [noteOperationMarkup "quote" "Asked" "Told", noteOperationMarkup "quoteRequest" "Filed" "Number"]]

/-- The loaded description of the service. -/
def quotesWsdl : Wsdl := { definitions := quotes, source := quotesMarkup.render, location := none }

theorem parse_quotes : Wsdl.parse quotesMarkup.render {} = .ok quotesWsdl := by
  have hw : quotesMarkup.IsWritable := by decide +kernel
  rw [Wsdl.parse, Declarations.parse, quotesMarkup, Document.parse_render hw]
  decide +kernel

theorem isLoaded_quotes : quotesWsdl.IsLoaded := .parse _ _ parse_quotes

/-- The number that the filing of a request is answered with is found; what is filed is not, since
its element is taken for the input of `quote`. -/
theorem findMessage?_of_quoteRequest :
    quotesWsdl.IsLoaded ∧ quotes.findMessage? "quoteRequestResponse" = some (noteMessage "Number") ∧
    quotes.findMessage? "quoteRequest" = some (noteMessage "Asked") := by
  have hop : (quotes.portTypes.head?.bind fun first => first.2.operations.get? "quoteRequest") =
      some (noteOperation "quoteRequest" "Filed" "Number") := rfl
  have hanswer_free : quotes.IsFree ("quoteRequest" ++ "Response") := by decide
  have hname_free : quotes.IsFree "quoteRequest" := by decide
  obtain ⟨hanswer, -, hstem⟩ := Definitions.findMessage?_of_operation rfl hop hname_free hanswer_free
  exact ⟨isLoaded_quotes, hanswer, (hstem "quote").2 (.inl rfl)⟩

/-- A loaded description in which the name of an operation of the first port type is free, but does
not stand for the input of the operation. -/
theorem not_findMessage?_input_of_quoteRequest :
    quotesWsdl.IsLoaded ∧
    ¬ ∀ (first : String × PortType) (name : String) (op : Operation),
      quotesWsdl.definitions.portTypes.head? = some first → first.2.operations.get? name = some op →
      quotesWsdl.definitions.IsFree name → quotesWsdl.definitions.IsFree (name ++ "Response") →
      quotesWsdl.definitions.findMessage? name = op.input ∧
      quotesWsdl.definitions.findMessage? (name ++ "Response") = op.output := by
  refine ⟨isLoaded_quotes, fun h => ?_⟩
  obtain ⟨hinput, -⟩ := h _ "quoteRequest" (noteOperation "quoteRequest" "Filed" "Number") rfl rfl
    (by decide) (by decide)
  exact absurd hinput (by decide)

end Soap
