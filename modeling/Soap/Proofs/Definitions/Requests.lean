import Mathlib.Data.Finset.Card
import Mathlib.Order.WellFounded
import Soap.Proofs.Definitions.Traversal

/-!
# Requests for documents

Following inclusions ends, and asks for no location twice (`Declarations.followInclusions_asks_once`).

An iteration of the work list (`Traversal.Step`) passes a location over, which shortens the list, or
follows an inclusion, which may lengthen it; but then there is one document less that was not visited
yet. What was visited is just what was asked for, and the base (`Traversal.IsOrderly`). Of what was
asked for, all but the last is there (`Traversal.WorkList.areServed`), so there is at most one request
more than there are documents.
-/

namespace Soap

namespace Traversal

variable {fetch : String → Except FetchError String} {strict : Bool} {owned : List String}

/-! ## What was visited -/

theorem visited_visit (location : String) (inclusion : Inclusion) (t : Traversal) :
    (visit fetch strict owned location inclusion t).1.visited = location :: t.visited := by
  unfold visit
  dsimp only
  split
  · rfl
  · split <;> rfl

/-! ## The loop ends -/

/-- One iteration of the work list. There is none if nothing is pending, and none if what is pending
first cannot be had or read: following inclusions fails then. -/
inductive Step (fetch : String → Except FetchError String) (strict : Bool) (owned : List String) :
    List Wanted × Traversal → List Wanted × Traversal → Prop where
  | skip {wanted : Wanted} {pending : List Wanted} {t : Traversal} (h : wanted.location ∈ t.visited) :
    Step fetch strict owned (wanted :: pending, t) (pending, t)
  | follow {wanted : Wanted} {pending : List Wanted} {t t' : Traversal} {d : Declarations}
    (h : wanted.location ∉ t.visited)
    (hvisit : visit fetch strict owned wanted.location wanted.inclusion t = (t', .ok d)) :
    Step fetch strict owned (wanted :: pending, t)
      (wantedAt (some wanted.location) d.inclusions ++ pending, t')

/-- The documents that are left to visit, and what is pending. -/
noncomputable def remaining (source : Source) (s : List Wanted × Traversal) : Nat × Nat :=
  (unvisited source.served s.2.visited, s.1.length)

/-- An iteration visits a document that was not visited before, or else shortens the list. -/
theorem Step.remaining_lt {source : Source} {s s' : List Wanted × Traversal}
    (h : Step source.fetch strict owned s s') :
    Prod.Lex (· < ·) (· < ·) (remaining source s') (remaining source s) := by
  cases h with
  | skip => exact .right _ (Nat.lt_succ_self _)
  | follow hnew hvisit =>
    obtain ⟨text, hfetch, -, rfl⟩ := visit_eq_ok hvisit
    exact .left _ _ (unvisited_cons_lt (Source.mem_served hfetch) hnew)

/-- Iterations do not go on forever, wherever they start. -/
theorem Step.wellFounded (source : Source) (strict : Bool) (owned : List String) :
    WellFounded fun s' s => Step source.fetch strict owned s s' :=
  Subrelation.wf Step.remaining_lt (InvImage.wf (remaining source) (Prod.lex Nat.lt_wfRel Nat.lt_wfRel).wf)

/-! ## No location twice -/

/-- The base was visited and what was asked for, each once. -/
structure IsOrderly (base? : Option String) (t : Traversal) : Prop where
  visited : t.visited = t.fetched.reverse ++ base?.toList
  nodup : t.visited.Nodup

theorem IsOrderly.visit {base? : Option String} {t t' : Traversal} (h : t.IsOrderly base?) {location : String}
    (hnew : location ∉ t.visited) {inclusion : Inclusion} {outcome : Except LoadError Declarations}
    (hvisit : visit fetch strict owned location inclusion t = (t', outcome)) : t'.IsOrderly base? := by
  have hvisited : (Traversal.visit fetch strict owned location inclusion t).1.visited = location :: t.visited :=
    visited_visit ..
  have hfetched : (Traversal.visit fetch strict owned location inclusion t).1.fetched = t.fetched ++ [location] :=
    fetched_visit ..
  rw [hvisit] at hvisited hfetched
  constructor
  · rw [hvisited, hfetched, List.reverse_append, h.visited]
    rfl
  · rw [hvisited]
    exact List.nodup_cons.mpr ⟨hnew, h.nodup⟩

theorem isOrderly_start (d : Declarations) (base? : Option String) : (d.start base?).IsOrderly base? where
  visited := rfl
  nodup := by
    cases base? with
    | none => exact List.nodup_nil
    | some base => exact List.nodup_singleton base

/-- The work list stops in good order. -/
theorem WorkList.isOrderly {base? : Option String} {pending : List Wanted} {t : Traversal} {stop : Stop}
    (h : WorkList fetch strict owned pending t stop) (ht : t.IsOrderly base?) : stop.1.IsOrderly base? := by
  induction h with
  | nil => exact ht
  | visited _ _ ih => exact ih ht
  | failed hnew hvisit => exact ht.visit hnew hvisit
  | included hnew hvisit _ ih => exact ih (ht.visit hnew hvisit)

theorem IsOrderly.nodup_fetched {base? : Option String} {t : Traversal} (h : t.IsOrderly base?) :
    t.fetched.Nodup := by
  have hnodup := h.nodup
  rw [h.visited, List.nodup_append] at hnodup
  exact List.nodup_reverse.mp hnodup.1

/-- The base is not asked for. -/
theorem IsOrderly.base_not_mem {base : String} {t : Traversal} (h : t.IsOrderly (some base)) :
    base ∉ t.fetched := by
  intro hmem
  have hnodup := h.nodup
  rw [h.visited, List.nodup_append] at hnodup
  exact hnodup.2.2 base (List.mem_reverse.mpr hmem) base List.mem_cons_self rfl

/-! ## How many requests -/

/-- There is a document at each location. -/
def AreServed (fetch : String → Except FetchError String) (locations : List String) : Prop :=
  ∀ location ∈ locations, ∃ text, fetch location = .ok text

/-- The document that is asked for last may not be there, and then following inclusions fails. -/
theorem WorkList.areServed {pending : List Wanted} {t : Traversal} {stop : Stop}
    (h : WorkList fetch strict owned pending t stop) (ht : AreServed fetch t.fetched) :
    AreServed fetch stop.1.fetched.dropLast ∧ (stop.2 = .ok () → AreServed fetch stop.1.fetched) := by
  induction h with
  | nil => exact ⟨fun location hmem => ht location (List.mem_of_mem_dropLast hmem), fun _ => ht⟩
  | visited _ _ ih => exact ih ht
  | @failed wanted _ t t' e _ hvisit =>
    have hfetched : (visit fetch strict owned wanted.location wanted.inclusion t).1.fetched =
        t.fetched ++ [wanted.location] := fetched_visit ..
    rw [hvisit] at hfetched
    rw [hfetched, List.dropLast_concat]
    exact ⟨ht, nofun⟩
  | included _ hvisit _ ih =>
    obtain ⟨text, hfetch, -, rfl⟩ := visit_eq_ok hvisit
    apply ih
    intro location hmem
    rcases List.mem_append.mp hmem with hbefore | hlast
    · exact ht location hbefore
    · obtain rfl := List.mem_singleton.mp hlast
      exact ⟨text, hfetch⟩

end Traversal

theorem Source.mem_keys_of_areServed {documents : OrderedMap String String} {locations : List String}
    (h : Traversal.AreServed (ofDocuments documents).fetch locations) : locations ⊆ documents.keys := by
  intro location hmem
  obtain ⟨text, hfetch⟩ := h location hmem
  rw [← OrderedMap.get?_isSome_iff]
  cases hget : documents.get? location with
  | some _ => rfl
  | none => simp [ofDocuments, hget] at hfetch

/-- Locations that differ are no more than the documents that they are among. -/
theorem length_le_card_of_subset {locations keys : List String} (hnodup : locations.Nodup)
    (hsubset : locations ⊆ keys) : locations.length ≤ keys.toFinset.card := by
  rw [← List.toFinset_card_of_nodup hnodup]
  apply Finset.card_le_card
  intro location hmem
  exact List.mem_toFinset.mpr (hsubset (List.mem_toFinset.mp hmem))

namespace Declarations

open Traversal

/-- Following the inclusions of a document among finitely many documents ends, whatever these want
included: iterations of the work list do not go on forever, and it stops in one place. By then no
location was asked for twice, the base was not asked for, and there was one request more than there are
documents at most, which is then the one that failed. -/
theorem followInclusions_asks_once (d : Declarations) (base? : Option String)
    (documents : OrderedMap String String) (strict : Bool) :
    (WellFounded fun s' s => Step (Source.ofDocuments documents).fetch strict d.schemas.schemas.keys s s') ∧
    ∃ t outcome, WorkList (Source.ofDocuments documents).fetch strict d.schemas.schemas.keys
        (wantedAt base? d.inclusions) (d.start base?) (t, outcome) ∧
      d.followInclusions base? (.ofDocuments documents) strict =
        { fetched := t.fetched, outcome := outcome.map fun _ => t.registry } ∧
      t.fetched.Nodup ∧ (∀ base, base? = some base → base ∉ t.fetched) ∧
      t.fetched.length ≤ documents.keys.toFinset.card + 1 ∧
      (outcome = .ok () → t.fetched.length ≤ documents.keys.toFinset.card) := by
  refine ⟨Step.wellFounded .., ?_⟩
  have hstops : ∃ stop, WorkList (Source.ofDocuments documents).fetch strict d.schemas.schemas.keys
      (wantedAt base? d.inclusions) (d.start base?) stop := exists_workList ..
  obtain ⟨⟨t, outcome⟩, hlist⟩ := hstops
  obtain ⟨fetched, hfetched, hfollow⟩ := hlist.followInclusions
  obtain rfl : t.fetched = fetched := hfetched
  have horderly : t.IsOrderly base? := hlist.isOrderly (isOrderly_start d base?)
  have hnodup : t.fetched.Nodup := horderly.nodup_fetched
  obtain ⟨hearlier, hall⟩ := hlist.areServed (by simp [AreServed, start])
  refine ⟨t, outcome, hlist, hfollow _ fun _ _ => rfl, hnodup, ?_, ?_, ?_⟩
  · rintro base rfl
    exact horderly.base_not_mem
  · have hcard := length_le_card_of_subset (hnodup.sublist (List.dropLast_sublist _))
      (Source.mem_keys_of_areServed hearlier)
    rw [List.length_dropLast] at hcard
    omega
  · intro hok
    exact length_le_card_of_subset hnodup (Source.mem_keys_of_areServed (hall hok))

end Declarations

end Soap
