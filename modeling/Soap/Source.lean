import Soap.OrderedMap

/-!
# Sources of documents

A source turns the location of a document into its text. Every source serves finitely many
locations, which is why following inclusions ends whatever the documents say; `Source.served` lists
them for that argument and is never computed.
-/

namespace Soap

/-- Why a document cannot be had. -/
inductive FetchError where
  /-- The file cannot be read. -/
  | unreadable (location reason : String)
  /-- The answer was not a success. -/
  | status (location : String) (code : Nat)
  | transport (location reason : String)
  | notFound (location : String)
  | unsupported (location : String)
deriving DecidableEq, Repr

def FetchError.message : FetchError → String
  | .unreadable location reason => "failed to read '" ++ location ++ "': " ++ reason
  | .status location code => "invalid URL '" ++ location ++ "': status " ++ toString code
  | .transport location reason => "failed to fetch '" ++ location ++ "': " ++ reason
  | .notFound location => "document '" ++ location ++ "' not found"
  | .unsupported location => "unsupported location '" ++ location ++ "'"

/-- A source of documents. -/
structure Source where
  fetch : String → Except FetchError String
  finite : ∃ served : List String, ∀ location text, fetch location = .ok text → location ∈ served

namespace Source

/-- The locations that a source serves. -/
noncomputable def served (s : Source) : List String := Classical.choose s.finite

theorem mem_served {s : Source} {location text : String} (h : s.fetch location = .ok text) :
    location ∈ s.served :=
  Classical.choose_spec s.finite location text h

def ofDocuments (documents : OrderedMap String String) : Source where
  fetch location :=
    match documents.get? location with
    | some text => .ok text
    | none => .error (.notFound location)
  finite := by
    refine ⟨documents.keys, fun location text h => ?_⟩
    rw [← OrderedMap.get?_isSome_iff]
    cases hd : documents.get? location with
    | some _ => rfl
    | none => simp [hd] at h

end Source

end Soap
