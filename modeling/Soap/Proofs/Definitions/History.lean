import Soap.Proofs.Definitions.Requests
import Soap.Proofs.OrderedMap

/-!
# What was included

Where following inclusions succeeds, there is a history of the inclusions that were followed
(`Traversal.Completes`), and the registry is that of the document with what these contributed, in order
(`Traversal.Completes.registry_eq`). So a property of registries that each contribution keeps is one of
the result, and a namespace for which the document has no schema holds what was registered for it last.
-/

namespace Soap

/-- An inclusion that was followed, and the document that was there. -/
structure Followed where
  wanted : Wanted
  document : Declarations

/-- The schemas that a followed inclusion registers. -/
def Followed.contributions (f : Followed) : List (String × SchemaDocument) :=
  f.document.contributions f.wanted.inclusion

/-- The schemas that are registered one after the other. -/
def registrations (history : List Followed) : OrderedMap String SchemaDocument :=
  history.flatMap Followed.contributions

namespace Traversal

/-- The work list comes to its end, and has followed the inclusions `history` by then. -/
inductive Completes (fetch : String → Except FetchError String) (strict : Bool) (owned : List String) :
    List Wanted → Traversal → List Followed → Traversal → Prop where
  | nil {t : Traversal} : Completes fetch strict owned [] t [] t
  | visited {wanted : Wanted} {pending : List Wanted} {t t' : Traversal} {history : List Followed}
    (h : wanted.location ∈ t.visited) (hrest : Completes fetch strict owned pending t history t') :
    Completes fetch strict owned (wanted :: pending) t history t'
  | included {wanted : Wanted} {pending : List Wanted} {t t' t'' : Traversal} {d : Declarations}
    {history : List Followed} (h : wanted.location ∉ t.visited)
    (hvisit : visit fetch strict owned wanted.location wanted.inclusion t = (t', .ok d))
    (hlater : Completes fetch strict owned (wantedAt (some wanted.location) d.inclusions ++ pending) t' history t'') :
    Completes fetch strict owned (wanted :: pending) t (⟨wanted, d⟩ :: history) t''

variable {fetch : String → Except FetchError String} {strict : Bool} {owned : List String}

/-- A work list that stops without failing has a history. -/
theorem WorkList.exists_completes {pending : List Wanted} {t : Traversal} {stop : Stop}
    (h : WorkList fetch strict owned pending t stop) (hok : stop.2 = .ok ()) :
    ∃ history, Completes fetch strict owned pending t history stop.1 := by
  induction h with
  | nil => exact ⟨[], .nil⟩
  | visited h _ ih =>
    obtain ⟨history, hrest⟩ := ih hok
    exact ⟨history, .visited h hrest⟩
  | failed => cases hok
  | included h hvisit _ ih =>
    obtain ⟨history, hlater⟩ := ih hok
    exact ⟨_, .included h hvisit hlater⟩

/-- Where there is a history, the work list stops without failing. -/
theorem Completes.workList {pending : List Wanted} {t t' : Traversal} {history : List Followed}
    (h : Completes fetch strict owned pending t history t') :
    WorkList fetch strict owned pending t (t', .ok ()) := by
  induction h with
  | nil => exact .nil
  | visited h _ ih => exact .visited h ih
  | included h hvisit _ ih => exact .included h hvisit ih

/-- An inclusion is followed to where it leads. -/
theorem Completes.follow {wanted : Wanted} {pending : List Wanted} {t t' t'' : Traversal} {d : Declarations}
    {history : List Followed} {location : String} (hlocation : wanted.location = location)
    (h : location ∉ t.visited) (hvisit : visit fetch strict owned location wanted.inclusion t = (t', .ok d))
    (hlater : Completes fetch strict owned (wantedAt (some location) d.inclusions ++ pending) t' history t'') :
    Completes fetch strict owned (wanted :: pending) t (⟨wanted, d⟩ :: history) t'' := by
  subst hlocation
  exact .included h hvisit hlater

/-- An inclusion that leads to where the traversal was before is passed over. -/
theorem Completes.revisit {wanted : Wanted} {pending : List Wanted} {t t' : Traversal}
    {history : List Followed} {location : String} (hlocation : wanted.location = location)
    (h : location ∈ t.visited) (hrest : Completes fetch strict owned pending t history t') :
    Completes fetch strict owned (wanted :: pending) t history t' := by
  subst hlocation
  exact .visited h hrest

/-- There is one history at most. -/
theorem Completes.unique {pending : List Wanted} {t t' t'' : Traversal} {history history' : List Followed}
    (h : Completes fetch strict owned pending t history t')
    (h' : Completes fetch strict owned pending t history' t'') : history = history' := by
  induction h generalizing history' with
  | nil =>
    cases h'
    rfl
  | visited h _ ih =>
    cases h' with
    | visited _ hrest => exact ih hrest
    | included hnew _ _ => exact absurd h hnew
  | included h hvisit _ ih =>
    cases h' with
    | visited hvisited _ => exact absurd hvisited h
    | included _ hvisit' hlater =>
      obtain ⟨rfl, hok⟩ := Prod.mk.inj (hvisit.symm.trans hvisit')
      obtain rfl := Except.ok.inj hok
      rw [ih hlater]

/-- The documents of the history were fetched. -/
theorem Completes.exists_text {pending : List Wanted} {t t' : Traversal} {history : List Followed}
    (h : Completes fetch strict owned pending t history t') {f : Followed} (hf : f ∈ history) :
    ∃ text, fetch f.wanted.location = .ok text ∧ Declarations.parse text strict = .ok f.document := by
  induction h with
  | nil => cases hf
  | visited _ _ ih => exact ih hf
  | included _ hvisit _ ih =>
    rcases List.mem_cons.mp hf with rfl | hf
    · obtain ⟨text, hfetch, hparse, -⟩ := visit_eq_ok hvisit
      exact ⟨text, hfetch, hparse⟩
    · exact ih hf

/-- What was followed was wanted at the beginning, or by a document of the history. -/
theorem Completes.exists_wanting {pending : List Wanted} {t t' : Traversal} {history : List Followed}
    (h : Completes fetch strict owned pending t history t') {f : Followed} (hf : f ∈ history) :
    f.wanted ∈ pending ∨ ∃ g ∈ history, f.wanted ∈ wantedAt (some g.wanted.location) g.document.inclusions := by
  induction h with
  | nil => cases hf
  | visited _ _ ih => exact (ih hf).imp_left (List.mem_cons_of_mem _)
  | @included wanted pending _ _ _ d history _ _ _ ih =>
    rcases List.mem_cons.mp hf with rfl | hf
    · exact .inl List.mem_cons_self
    · rcases ih hf with hwanted | ⟨g, hg, hwanted⟩
      · rcases List.mem_append.mp hwanted with hwanted | hwanted
        · exact .inr ⟨_, List.mem_cons_self, hwanted⟩
        · exact .inl (List.mem_cons_of_mem _ hwanted)
      · exact .inr ⟨g, List.mem_cons_of_mem _ hg, hwanted⟩

/-- What was followed has contributed, in order. -/
theorem Completes.registry_eq {pending : List Wanted} {t t' : Traversal} {history : List Followed}
    (h : Completes fetch strict owned pending t history t') :
    t'.registry = (registrations history).foldl (·.contribute owned) t.registry := by
  induction h with
  | nil => rfl
  | visited _ _ ih => exact ih
  | included _ hvisit _ ih =>
    obtain ⟨text, -, -, rfl⟩ := visit_eq_ok hvisit
    rw [ih, registrations, registrations, List.flatMap_cons, List.foldl_append]
    rfl

end Traversal

/-! ## Registries -/

namespace SchemaRegistry

variable {owned : List String}

/-- What each contribution keeps is kept by several. -/
theorem foldl_contribute {P : SchemaRegistry → Prop} {reg : SchemaRegistry} (hreg : P reg)
    (cs : List (String × SchemaDocument)) (hstep : ∀ reg c, P reg → c ∈ cs → P (reg.contribute owned c)) :
    P (cs.foldl (·.contribute owned) reg) := by
  induction cs generalizing reg with
  | nil => exact hreg
  | cons c rest ih =>
    exact ih (hstep reg c hreg List.mem_cons_self) fun reg c' h hc' =>
      hstep reg c' h (List.mem_cons_of_mem _ hc')

end SchemaRegistry

/-! ## Documents -/

namespace Declarations

/-- The inclusions of a document and of all that they lead to were followed, and this is the registry
with everything included. -/
def Completes (d : Declarations) (fetch : String → Except FetchError String) (strict : Bool)
    (base? : Option String) (history : List Followed) (reg : SchemaRegistry) : Prop :=
  ∃ t, Traversal.Completes fetch strict d.schemas.schemas.keys (Traversal.wantedAt base? d.inclusions)
    (d.start base?) history t ∧ t.registry = reg

variable {d : Declarations} {fetch : String → Except FetchError String} {strict : Bool} {base? : Option String}
  {history : List Followed} {reg : SchemaRegistry}

theorem Completes.registry_eq (h : d.Completes fetch strict base? history reg) :
    reg = (registrations history).foldl (·.contribute d.schemas.schemas.keys) d.schemas := by
  obtain ⟨t, hcompletes, rfl⟩ := h
  exact hcompletes.registry_eq

/-- Every document of the history was read off what was fetched. -/
theorem Completes.exists_text (h : d.Completes fetch strict base? history reg) {f : Followed} (hf : f ∈ history) :
    ∃ text, fetch f.wanted.location = .ok text ∧ Declarations.parse text strict = .ok f.document := by
  obtain ⟨t, hcompletes, -⟩ := h
  exact hcompletes.exists_text hf

theorem Completes.unique {history' : List Followed} {reg' : SchemaRegistry}
    (h : d.Completes fetch strict base? history reg) (h' : d.Completes fetch strict base? history' reg') :
    history = history' := by
  obtain ⟨_, hcompletes, -⟩ := h
  obtain ⟨_, hcompletes', -⟩ := h'
  exact hcompletes.unique hcompletes'

/-- Following inclusions succeeds if and only if it has a history. -/
theorem followInclusions_eq_ok_iff {source : Source} :
    (d.followInclusions base? source strict).outcome = .ok reg ↔
      ∃ history, d.Completes source.fetch strict base? history reg := by
  have hfollow : ∀ {t : Traversal} {outcome : Except LoadError Unit},
      Traversal.WorkList source.fetch strict d.schemas.schemas.keys (Traversal.wantedAt base? d.inclusions)
        (d.start base?) (t, outcome) →
      (d.followInclusions base? source strict).outcome = outcome.map fun _ => t.registry := by
    intro t outcome hlist
    obtain ⟨fetched, -, hfollow⟩ := hlist.followInclusions
    exact congrArg Inclusions.outcome (hfollow source fun _ _ => rfl)
  constructor
  · intro h
    have hstops : ∃ stop, Traversal.WorkList source.fetch strict d.schemas.schemas.keys
        (Traversal.wantedAt base? d.inclusions) (d.start base?) stop := Traversal.exists_workList ..
    obtain ⟨⟨t, outcome⟩, hlist⟩ := hstops
    have houtcome := (hfollow hlist).symm.trans h
    cases outcome with
    | error e => cases houtcome
    | ok =>
      obtain ⟨history, hcompletes⟩ := hlist.exists_completes rfl
      exact ⟨history, t, hcompletes, Except.ok.inj houtcome⟩
  · rintro ⟨history, t, hcompletes, rfl⟩
    exact hfollow hcompletes.workList

end Declarations

end Soap
