import Soap.Definitions.Resolution
import Soap.Location
import Soap.Source

/-!
# Following inclusions

The schemas of a document may want others included, and these further ones. `followInclusions`
fetches them depth first, in document order: what an included document wants comes before its next
sibling. A location is fetched once, however it is written and whoever wants it, and the document
itself is not fetched again.

A namespace that the document itself has schemas for is extended by what is included for it; any
other holds the document that was registered for it last.
-/

namespace Soap

/-- Why a description cannot be loaded. -/
inductive LoadError where
  | parse (e : ParseError)
  | fetch (e : FetchError)
  /-- A document to be included, at `location`, cannot be had or read. -/
  | inclusion (location : String) (cause : LoadError)
  | dangling (reference : Dangling)
  /-- Documents are to be included, and there is no source for them. -/
  | pendingInclusions (count : Nat)
  /-- Loading was given up for a reason of its own. -/
  | abandoned (reason : String)
deriving DecidableEq, Repr

def LoadError.message : LoadError → String
  | .parse e => "parse error: " ++ e.message
  | .fetch e => "fetch error: " ++ e.message
  | .inclusion location cause => "error processing include '" ++ location ++ "': " ++ cause.message
  | .dangling reference => reference.message
  | .pendingInclusions count =>
    "document declares " ++ toString count ++ " include(s); load it asynchronously"
  | .abandoned reason => "load task failed: " ++ reason

/-- An inclusion still to be followed, and where the document that wants it is. -/
structure Wanted where
  base : Option String
  inclusion : Inclusion
deriving DecidableEq, Repr

def Wanted.location (w : Wanted) : String := resolveLocation w.base w.inclusion.location

/-- The schema documents that an included document contributes, by namespace. A bare schema is
contributed to the namespace that the inclusion names, and without a namespace of its own belongs to
it. -/
def Declarations.contributions (d : Declarations) (inclusion : Inclusion) :
    List (String × SchemaDocument) :=
  if d.isSchema then
    d.schemas.schemas.values.map fun doc =>
      let doc :=
        match doc.targetNamespace, inclusion.space with
        | none, some ns => doc.adopt ns
        | _, _ => doc
      (inclusion.space.getD doc.key, doc)
  else d.schemas.schemas

/-- Register a contribution: the namespaces of `owned` are extended, others replaced. -/
def SchemaRegistry.contribute (owned : List String) (reg : SchemaRegistry)
    (contribution : String × SchemaDocument) : SchemaRegistry :=
  if contribution.1 ∈ owned then reg.merge contribution.1 contribution.2
  else reg.insert contribution.1 contribution.2

/-- How following inclusions went: the locations that were asked for, in order, and the registry
with everything included or the first error. -/
structure Inclusions where
  fetched : List String
  outcome : Except LoadError SchemaRegistry

def followInclusions (source : Source) (strict : Bool) (owned : List String) (reg : SchemaRegistry)
    (visited : List String) : List Wanted → Inclusions
  | [] => { fetched := [], outcome := .ok reg }
  | wanted :: pending =>
    let location := wanted.location
    if _hv : location ∈ visited then followInclusions source strict owned reg visited pending
    else
      match _hf : source.fetch location with
      | .error e => { fetched := [location], outcome := .error (.inclusion location (.fetch e)) }
      | .ok text =>
        match Declarations.parse text strict with
        | .error e => { fetched := [location], outcome := .error (.inclusion location (.parse e)) }
        | .ok d =>
          let contributions := d.contributions wanted.inclusion
          let nested := contributions.flatMap fun (_, doc) =>
            doc.inclusions.map fun inclusion => { base := some location, inclusion }
          let later := followInclusions source strict owned (contributions.foldl (·.contribute owned) reg)
            (location :: visited) (nested ++ pending)
          { later with fetched := location :: later.fetched }
termination_by pending => (unvisited source.served visited, pending.length)
decreasing_by
  · exact Prod.Lex.right _ (by simp)
  · exact Prod.Lex.left _ _ (unvisited_cons_lt (Source.mem_served _hf) _hv)

def Declarations.followInclusions (d : Declarations) (base? : Option String) (source : Source)
    (strict : Bool) : Inclusions :=
  Soap.followInclusions source strict d.schemas.schemas.keys d.schemas base?.toList
    (d.inclusions.map fun inclusion => { base := base?, inclusion })

end Soap
