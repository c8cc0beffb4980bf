import Soap.Definitions.Inclusion

/-!
# Loading descriptions

A `Wsdl` is a description together with the exact text it was read from, so that the document can be
served back unchanged. `Wsdl.parse` reads one that includes nothing; `Wsdl.ofText` follows
inclusions through a source; `Wsdl.fetch` takes the document itself from the source as well.
-/

namespace Soap

/-- How strictly a description is read. -/
structure LoadOptions where
  /-- An element that its parent does not allow is an error. -/
  strict : Bool := false
  /-- A reference that leads nowhere is an error. -/
  strictReferences : Bool := false
deriving DecidableEq, Repr

/-- A loaded description. -/
structure Wsdl where
  definitions : Definitions
  /-- The document as it was read. -/
  source : String
  location : Option String
deriving Repr

/-- How a loading went: the locations that were asked for, in order, and the description or the
error. -/
structure Loading where
  fetched : List String
  outcome : Except LoadError Wsdl

def Loading.summarize (isDone : Bool) : String :=
  "PendingWsdl \x7b done: " ++ (if isDone then "true" else "false") ++ " \x7d"

namespace Wsdl

def ofDeclarations (d : Declarations) (source : String) (location : Option String)
    (options : LoadOptions) : Except LoadError Wsdl := do
  let definitions ← (d.definitions options.strictReferences).mapError .dangling
  return { definitions, source, location }

def parse (text : String) (options : LoadOptions) : Except LoadError Wsdl := do
  let d ← (Declarations.parse text options.strict).mapError .parse
  match d.inclusions with
  | [] => ofDeclarations d text none options
  | inclusions => throw (.pendingInclusions inclusions.length)

/-- Read a description at `location`, and what it includes. -/
def ofText (text : String) (location : Option String) (source : Source) (options : LoadOptions) :
    Loading :=
  match Declarations.parse text options.strict with
  | .error e => { fetched := [], outcome := .error (.parse e) }
  | .ok d =>
    let followed := d.followInclusions location source options.strict
    { fetched := followed.fetched
      outcome := do
        let schemas ← followed.outcome
        ofDeclarations { d with schemas } text location options }

/-- Fetch and read the description at `location`, and what it includes. -/
def fetch (location : String) (source : Source) (options : LoadOptions) : Loading :=
  match source.fetch location with
  | .error e => { fetched := [location], outcome := .error (.fetch e) }
  | .ok text =>
    let loading := ofText text (some location) source options
    { loading with fetched := location :: loading.fetched }

end Wsdl

end Soap
