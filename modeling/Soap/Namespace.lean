import Soap.OrderedMap
import Soap.Text.Quoted

/-!
# Namespace tables

While an envelope is rendered, a table hands out one prefix for each namespace URI that is needed
and remembers which were handed out: those become the declarations on the envelope's root.

The bindings are one list of pairs in which neither a prefix nor a URI occurs twice. Binding a
prefix drops whatever either side was bound to before (`NamespaceTable.add`). A table that keeps a
map for each direction does the same (`TwoWayTable`). A URI that is not bound gets the caller's
preferred prefix if that is free, and a minted one otherwise (`NamespaceTable.prefixFor`).
-/

namespace Soap

/-- Namespaces of the description and encoding languages themselves; never declared on an
envelope. -/
def infrastructureUris : List String :=
  ["http://xml.apache.org/xml-soap", "http://schemas.xmlsoap.org/wsdl/",
    "http://schemas.xmlsoap.org/wsdl/soap/", "http://schemas.xmlsoap.org/soap/encoding/",
    "http://www.w3.org/2001/XMLSchema"]

/-- Beginnings of further URIs that are never declared on an envelope. -/
def infrastructureRoots : List String :=
  ["http://schemas.xmlsoap.org/", "http://www.w3.org/", "http://xml.apache.org/"]

/-- Is `uri` one of the namespaces that are never declared? -/
def isInfrastructureUri (uri : String) : Bool :=
  infrastructureUris.contains uri ||
    infrastructureRoots.any fun root => root.toList.isPrefixOf uri.toList

/-! ### Minting prefixes -/

/-- Where new prefixes come from: names offered once each, in order, and after them a stem followed
by the number of the attempt. -/
structure PrefixMinter where
  offered : List String := []
  stem : String
deriving DecidableEq, Repr

/-- The minter of `tns1`, `tns2`, … -/
instance : Inhabited PrefixMinter := ⟨[], "tns"⟩

/-- The candidate of attempt number `generation`, counted from 1. -/
def PrefixMinter.candidate (m : PrefixMinter) (generation : Nat) : String :=
  match m.offered[generation - 1]? with
  | some name => name
  | none => m.stem ++ toString generation

/-- Attempt the remaining `offers`, the first of which is number `generation`. -/
def firstOffer (taken : List String) :
    (offers : List String) → (generation : Nat) → Option (String × Nat)
  | [], _ => none
  | name :: rest, generation =>
    if name ≠ "" ∧ name ∉ taken then some (name, generation)
    else firstOffer taken rest (generation + 1)

/-- Attempt numbered prefixes from `generation` on. A taken candidate is struck from the list: a
later candidate has another number, so it cannot be that prefix, and the list bounds the
attempts. -/
def firstNumbered (stem : String) (taken : List String) (generation : Nat) : String × Nat :=
  let candidate := stem ++ toString generation
  if _h : candidate ∈ taken then firstNumbered stem (taken.erase candidate) (generation + 1)
  else (candidate, generation)
termination_by taken.length
decreasing_by
  rw [List.length_erase_of_mem _h]
  exact Nat.sub_lt (List.length_pos_of_mem _h) Nat.one_pos

/-- The first candidate from attempt `generation` on that is not empty and not taken, and the number
of the attempt that found it. -/
def PrefixMinter.mint (m : PrefixMinter) (taken : List String) (generation : Nat) : String × Nat :=
  match firstOffer taken (m.offered.drop (generation - 1)) generation with
  | some found => found
  | none => firstNumbered m.stem taken (max generation (m.offered.length + 1))

/-! ### The table -/

/-- Prefixes and the URIs they are bound to, the pairs handed out so far, and the number of the next
attempt at minting a prefix. -/
structure NamespaceTable where
  bindings : OrderedMap String String := []
  used : OrderedMap String String := []
  nextGeneration : Nat := 1
  minter : PrefixMinter := default
deriving DecidableEq, Repr

namespace NamespaceTable

def empty : NamespaceTable := {}

def uri? (t : NamespaceTable) (name : String) : Option String := t.bindings.get? name

def prefixOf? (t : NamespaceTable) (uri : String) : Option String :=
  (t.bindings.find? fun entry => entry.2 == uri).map Prod.fst

/-- Bind `name` to `uri`, dropping what either was bound to. -/
def add (t : NamespaceTable) (name uri : String) : NamespaceTable :=
  { t with
    bindings := t.bindings.filter (fun entry => entry.1 != name && entry.2 != uri) ++ [(name, uri)] }

/-- The table of a document's declarations. The default namespace is left out: what is rendered
always carries an explicit prefix. -/
def ofDeclarations (declarations : List (String × String)) : NamespaceTable :=
  declarations.foldl (fun t d => if d.1 = "" then t else t.add d.1 d.2) empty

/-- The prefix a new URI gets: the preferred one if it is free, else a minted one. -/
def choosePrefix (t : NamespaceTable) (preferred : Option String) : String × Nat :=
  let minted :=
    let (name, generation) := t.minter.mint t.bindings.keys t.nextGeneration
    (name, generation + 1)
  match preferred with
  | some p => if p ≠ "" ∧ t.bindings.contains p = false then (p, t.nextGeneration) else minted
  | none => minted

/-- The prefix for `uri`, bound on first use; it is marked as used either way. -/
def prefixFor (t : NamespaceTable) (uri : String) (preferred : Option String) :
    String × NamespaceTable :=
  match t.prefixOf? uri with
  | some name => (name, { t with used := t.used.insert name uri })
  | none =>
    let (name, next) := t.choosePrefix preferred
    let t := { t with nextGeneration := next }.add name uri
    (name, { t with used := t.used.insert name uri })

/-- The pairs to declare on the envelope's root, in the order of first use. -/
def declarations (t : NamespaceTable) : List (String × String) :=
  t.used.filter fun entry => entry.1 != "" && !isInfrastructureUri entry.2

def toAttributes (t : NamespaceTable) : String :=
  String.join (t.declarations.map fun (name, uri) => " xmlns:" ++ name ++ "=\"" ++ uri ++ "\"")

def summarizeMap (m : OrderedMap String String) : String :=
  let entries := m.map fun (k, v) => Text.quote k ++ ": " ++ Text.quote v
  "\x7b" ++ ", ".intercalate entries ++ "\x7d"

def summarize (t : NamespaceTable) : String :=
  "NamespaceTable \x7b prefix_to_uri: " ++ summarizeMap t.bindings ++ ", used: " ++
    summarizeMap t.used ++ ", .. \x7d"

end NamespaceTable

end Soap
