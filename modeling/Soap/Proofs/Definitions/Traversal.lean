import Soap.Definitions.Inclusion
import Soap.Proofs.Definitions.Equality
import Soap.Proofs.OrderedMap

/-!
# Following inclusions depth first

The inclusions of a document are processed by a procedure that calls itself on those of each
document that it has fetched, before it goes on to the next one (`Traversal.DepthFirst`). The work
list does the same (`Traversal.workList_iff`): to process a list of what is wanted is to process each
in turn, and what a document wants comes in its place. On the way each document that is fetched
registers its schemas, and what this does to a namespace is told by whether the namespace is owned
(`Traversal.get?_registry_visit`).

Neither need come to an end for a fetcher that serves new documents forever, so both are relations
to where they stop, and this is one place at most (`Traversal.WorkList.unique`). For a source, which
serves finitely many documents, both stop, and `followInclusions` gives what comes of it
(`Declarations.followInclusions_depthFirst`).
-/

namespace Soap

/-! ## What is registered -/

namespace SchemaRegistry

variable {owned : List String} {ns : String}

theorem get?_insert (reg : SchemaRegistry) (k ns : String) (doc : SchemaDocument) :
    (reg.insert k doc).get? ns = if k = ns then some doc else reg.get? ns := OrderedMap.get?_insert ..

theorem get?_merge (reg : SchemaRegistry) (k ns : String) (doc : SchemaDocument) :
    (reg.merge k doc).get? ns =
      if k = ns then some (((reg.get? k).map (·.extend doc)).getD doc) else reg.get? ns := by
  unfold merge
  split
  · next existing hexisting =>
    rw [get?_insert, hexisting]
    rfl
  · next hnone =>
    rw [get?_insert, hnone]
    rfl

/-- A contribution concerns its own namespace only. It extends what is there if the namespace is owned, and takes the
place of it otherwise. -/
theorem get?_contribute (reg : SchemaRegistry) (c : String × SchemaDocument) (ns : String) :
    (reg.contribute owned c).get? ns =
      if c.1 = ns then some (if ns ∈ owned then ((reg.get? ns).map (·.extend c.2)).getD c.2 else c.2)
      else reg.get? ns := by
  unfold contribute
  by_cases hns : c.1 = ns
  · subst hns
    rw [if_pos rfl]
    split
    · rw [get?_merge, if_pos rfl]
    · rw [get?_insert, if_pos rfl]
  · rw [if_neg hns]
    split
    · rw [get?_merge, if_neg hns]
    · rw [get?_insert, if_neg hns]

/-- A namespace that is owned keeps its document, extended by all that is contributed to it. -/
theorem get?_foldl_contribute_of_mem (h : ns ∈ owned) {reg : SchemaRegistry} {doc : SchemaDocument}
    (hdoc : reg.get? ns = some doc) (cs : OrderedMap String SchemaDocument) :
    (cs.foldl (·.contribute owned) reg).get? ns =
      some (((cs.filter fun c => c.1 == ns).map Prod.snd).foldl SchemaDocument.extend doc) := by
  induction cs generalizing reg doc with
  | nil => exact hdoc
  | cons c rest ih =>
    have hstep : (reg.contribute owned c).get? ns = _ := reg.get?_contribute c ns
    rw [hdoc, if_pos h, Option.map_some, Option.getD_some] at hstep
    rw [List.foldl_cons]
    by_cases hns : c.1 = ns
    · rw [if_pos hns] at hstep
      rw [ih hstep, List.filter_cons_of_pos (by simpa using hns), List.map_cons, List.foldl_cons]
    · rw [if_neg hns] at hstep
      rw [ih hstep, List.filter_cons_of_neg (by simpa using hns)]

/-- A namespace that is not owned holds what is registered for it last. -/
theorem get?_foldl_contribute_of_not_mem (reg : SchemaRegistry) (cs : OrderedMap String SchemaDocument)
    (h : ns ∉ owned) :
    (cs.foldl (·.contribute owned) reg).get? ns = (OrderedMap.get? cs.reverse ns <|> reg.get? ns) := by
  induction cs generalizing reg with
  | nil => rfl
  | cons c rest ih =>
    obtain ⟨k, doc⟩ := c
    rw [List.foldl_cons, ih, List.reverse_cons, OrderedMap.get?_append, get?_contribute, if_neg h, OrderedMap.get?]
    cases OrderedMap.get? rest.reverse ns with
    | some later => rfl
    | none => split <;> rfl

end SchemaRegistry

/-! ## Where following inclusions is -/

/-- What there is while inclusions are followed: the locations that were asked for, in order, those
that are not to be asked for, and the registry. -/
structure Traversal where
  fetched : List String
  visited : List String
  registry : SchemaRegistry

namespace Traversal

/-- Where following inclusions got to, and whether it failed. -/
abbrev Stop := Traversal × Except LoadError Unit

/-- Go on from where the first stopped, unless it failed. -/
def Then (first : Stop) (next : Traversal → Stop → Prop) (stop : Stop) : Prop :=
  match first with
  | (t, .error e) => stop = (t, .error e)
  | (t, .ok ()) => next t stop

section

variable (fetch : String → Except FetchError String) (strict : Bool) (owned : List String)

/-- Mark a location, ask for the document there, read it, and register its schemas. -/
def visit (location : String) (inclusion : Inclusion) (t : Traversal) :
    Traversal × Except LoadError Declarations :=
  let t := { t with fetched := t.fetched ++ [location], visited := location :: t.visited }
  match fetch location with
  | .error e => (t, .error (.inclusion location (.fetch e)))
  | .ok text =>
    match Declarations.parse text strict with
    | .error e => (t, .error (.inclusion location (.parse e)))
    | .ok d =>
      ({ t with registry := (d.contributions inclusion).foldl (·.contribute owned) t.registry }, .ok d)

/-- Process the inclusions of the document at `base`, one after the other. A location that was visited
is passed over. The inclusions of a document that was fetched come before the next one. -/
inductive DepthFirst : Option String → List Inclusion → Traversal → Stop → Prop where
  | nil {base : Option String} {t : Traversal} : DepthFirst base [] t (t, .ok ())
  | visited {base : Option String} {inclusion : Inclusion} {rest : List Inclusion} {location : String}
    {t : Traversal} {stop : Stop} (hlocation : resolveLocation base inclusion.location = location)
    (h : location ∈ t.visited) (hrest : DepthFirst base rest t stop) : DepthFirst base (inclusion :: rest) t stop
  | failed {base : Option String} {inclusion : Inclusion} {rest : List Inclusion} {location : String}
    {t t' : Traversal} {e : LoadError} (hlocation : resolveLocation base inclusion.location = location)
    (h : location ∉ t.visited) (hvisit : visit fetch strict owned location inclusion t = (t', .error e)) :
    DepthFirst base (inclusion :: rest) t (t', .error e)
  | failedInside {base : Option String} {inclusion : Inclusion} {rest : List Inclusion} {location : String}
    {t t' t'' : Traversal} {d : Declarations} {e : LoadError}
    (hlocation : resolveLocation base inclusion.location = location) (h : location ∉ t.visited)
    (hvisit : visit fetch strict owned location inclusion t = (t', .ok d))
    (hinside : DepthFirst (some location) d.inclusions t' (t'', .error e)) :
    DepthFirst base (inclusion :: rest) t (t'', .error e)
  | included {base : Option String} {inclusion : Inclusion} {rest : List Inclusion} {location : String}
    {t t' t'' : Traversal} {d : Declarations} {stop : Stop}
    (hlocation : resolveLocation base inclusion.location = location) (h : location ∉ t.visited)
    (hvisit : visit fetch strict owned location inclusion t = (t', .ok d))
    (hinside : DepthFirst (some location) d.inclusions t' (t'', .ok ()))
    (hrest : DepthFirst base rest t'' stop) : DepthFirst base (inclusion :: rest) t stop

/-- What a document at `base` wants included. -/
def wantedAt (base : Option String) (inclusions : List Inclusion) : List Wanted :=
  inclusions.map fun inclusion => { base, inclusion }

/-- Process what is pending, and put first what each document wants. -/
inductive WorkList : List Wanted → Traversal → Stop → Prop where
  | nil {t : Traversal} : WorkList [] t (t, .ok ())
  | visited {wanted : Wanted} {pending : List Wanted} {t : Traversal} {stop : Stop}
    (h : wanted.location ∈ t.visited) (hrest : WorkList pending t stop) : WorkList (wanted :: pending) t stop
  | failed {wanted : Wanted} {pending : List Wanted} {t t' : Traversal} {e : LoadError}
    (h : wanted.location ∉ t.visited)
    (hvisit : visit fetch strict owned wanted.location wanted.inclusion t = (t', .error e)) :
    WorkList (wanted :: pending) t (t', .error e)
  | included {wanted : Wanted} {pending : List Wanted} {t t' : Traversal} {d : Declarations} {stop : Stop}
    (h : wanted.location ∉ t.visited)
    (hvisit : visit fetch strict owned wanted.location wanted.inclusion t = (t', .ok d))
    (hlater : WorkList (wantedAt (some wanted.location) d.inclusions ++ pending) t' stop) :
    WorkList (wanted :: pending) t stop

end

variable {fetch : String → Except FetchError String} {strict : Bool} {owned : List String}

/-! ## From the procedure to the work list -/

/-- Where the procedure stops, the work list goes on with what is pending. -/
theorem DepthFirst.workList {base : Option String} {inclusions : List Inclusion} {t : Traversal} {first : Stop}
    (h : DepthFirst fetch strict owned base inclusions t first) (pending : List Wanted) {stop : Stop}
    (hthen : Then first (WorkList fetch strict owned pending) stop) :
    WorkList fetch strict owned (wantedAt base inclusions ++ pending) t stop := by
  -- What is pending is open: inside a document, the rest of the inclusions around it is pending too.
  induction h generalizing pending stop with
  | nil => exact hthen
  | visited hlocation h _ ih =>
    subst hlocation
    exact .visited h (ih pending hthen)
  | failed hlocation h hvisit =>
    subst hlocation
    obtain rfl : stop = _ := hthen
    exact .failed h hvisit
  | failedInside hlocation h hvisit _ ih =>
    subst hlocation
    exact .included h hvisit (ih _ hthen)
  | included hlocation h hvisit _ _ ihinside ihrest =>
    subst hlocation
    exact .included h hvisit (ihinside _ (ihrest pending hthen))

/-! ## From the work list to the procedure -/

/-- The first inclusion by itself, and then the others. -/
theorem DepthFirst.cons {base : Option String} {inclusion : Inclusion} {rest : List Inclusion} {t : Traversal}
    {first stop : Stop} (h : DepthFirst fetch strict owned base [inclusion] t first)
    (hthen : Then first (DepthFirst fetch strict owned base rest) stop) :
    DepthFirst fetch strict owned base (inclusion :: rest) t stop := by
  cases h with
  | visited hlocation h hnil =>
    cases hnil
    exact .visited hlocation h hthen
  | failed hlocation h hvisit =>
    obtain rfl : stop = _ := hthen
    exact .failed hlocation h hvisit
  | failedInside hlocation h hvisit hinside =>
    obtain rfl : stop = _ := hthen
    exact .failedInside hlocation h hvisit hinside
  | included hlocation h hvisit hinside hnil =>
    cases hnil
    exact .included hlocation h hvisit hinside hthen

/-- Process each of what is wanted by calling the procedure. -/
def InTurn (fetch : String → Except FetchError String) (strict : Bool) (owned : List String) :
    List Wanted → Traversal → Stop → Prop
  | [], t, stop => stop = (t, .ok ())
  | wanted :: pending, t, stop =>
    ∃ first, DepthFirst fetch strict owned wanted.base [wanted.inclusion] t first ∧
      Then first (InTurn fetch strict owned pending) stop

theorem Then.mono {first : Stop} {next next' : Traversal → Stop → Prop} {stop : Stop} (h : Then first next stop)
    (himp : ∀ t, next t stop → next' t stop) : Then first next' stop := by
  obtain ⟨t, _ | ⟨⟨⟩⟩⟩ := first
  · exact h
  · exact himp t h

theorem InTurn.split {earlier later : List Wanted} {t : Traversal} {stop : Stop}
    (h : InTurn fetch strict owned (earlier ++ later) t stop) :
    ∃ first, InTurn fetch strict owned earlier t first ∧ Then first (InTurn fetch strict owned later) stop := by
  induction earlier generalizing t with
  | nil => exact ⟨_, rfl, h⟩
  | cons wanted earlier ih =>
    obtain ⟨⟨t', outcome⟩, hfirst, hthen⟩ := h
    cases outcome with
    | error e => exact ⟨_, ⟨_, hfirst, rfl⟩, hthen⟩
    | ok =>
      obtain ⟨second, hsecond, hthen⟩ := ih hthen
      exact ⟨second, ⟨_, hfirst, hsecond⟩, hthen⟩

/-- The inclusions of one document in turn. -/
theorem InTurn.depthFirst {base : Option String} {inclusions : List Inclusion} {t : Traversal} {stop : Stop}
    (h : InTurn fetch strict owned (wantedAt base inclusions) t stop) :
    DepthFirst fetch strict owned base inclusions t stop := by
  induction inclusions generalizing t with
  | nil =>
    obtain rfl : stop = _ := h
    exact .nil
  | cons inclusion rest ih =>
    obtain ⟨first, hfirst, hthen⟩ := h
    exact hfirst.cons (hthen.mono fun _ => ih)

/-- The work list processes what is pending in turn. -/
theorem WorkList.inTurn {pending : List Wanted} {t : Traversal} {stop : Stop}
    (h : WorkList fetch strict owned pending t stop) : InTurn fetch strict owned pending t stop := by
  induction h with
  | nil => rfl
  | visited h _ ih => exact ⟨_, .visited rfl h .nil, ih⟩
  | failed h hvisit => exact ⟨_, .failed rfl h hvisit, rfl⟩
  | included h hvisit _ ih =>
    -- What the document wants comes first, and where it ends is where the procedure returns.
    obtain ⟨⟨t'', outcome⟩, hinside, hthen⟩ := ih.split
    cases outcome with
    | error e => exact ⟨_, .failedInside rfl h hvisit hinside.depthFirst, hthen⟩
    | ok => exact ⟨_, .included rfl h hvisit hinside.depthFirst .nil, hthen⟩

/-- The work list stops just where the procedure does. -/
theorem workList_iff {base : Option String} {inclusions : List Inclusion} {t : Traversal} {stop : Stop} :
    WorkList fetch strict owned (wantedAt base inclusions) t stop ↔
      DepthFirst fetch strict owned base inclusions t stop := by
  constructor
  · intro h
    exact h.inTurn.depthFirst
  · intro h
    have hdone : Then stop (WorkList fetch strict owned []) stop := by
      obtain ⟨t', _ | ⟨⟨⟩⟩⟩ := stop
      · rfl
      · exact .nil
    have hlist := h.workList [] hdone
    rwa [List.append_nil] at hlist

/-- The work list stops in one place at most. -/
theorem WorkList.unique {pending : List Wanted} {t : Traversal} {stop stop' : Stop}
    (h : WorkList fetch strict owned pending t stop) (h' : WorkList fetch strict owned pending t stop') :
    stop = stop' := by
  induction h with
  | nil =>
    cases h'
    rfl
  | visited h _ ih =>
    cases h' with
    | visited _ hrest => exact ih hrest
    | failed hnew _ => exact absurd h hnew
    | included hnew _ _ => exact absurd h hnew
  | failed h hvisit =>
    cases h' with
    | visited hvisited _ => exact absurd hvisited h
    | failed _ hvisit' =>
      obtain ⟨rfl, herror⟩ := Prod.mk.inj (hvisit.symm.trans hvisit')
      rw [Except.error.inj herror]
    | included _ hvisit' _ => cases hvisit.symm.trans hvisit'
  | included h hvisit _ ih =>
    cases h' with
    | visited hvisited _ => exact absurd hvisited h
    | failed _ hvisit' => cases hvisit.symm.trans hvisit'
    | included _ hvisit' hlater =>
      obtain ⟨rfl, hok⟩ := Prod.mk.inj (hvisit.symm.trans hvisit')
      obtain rfl := Except.ok.inj hok
      exact ih hlater

/-! ## What a visit does -/

theorem visit_of_parse {location text : String} {d : Declarations} (hfetch : fetch location = .ok text)
    (hparse : Declarations.parse text strict = .ok d) (inclusion : Inclusion) (t : Traversal) :
    visit fetch strict owned location inclusion t =
      ({ fetched := t.fetched ++ [location]
         visited := location :: t.visited
         registry := (d.contributions inclusion).foldl (·.contribute owned) t.registry }, .ok d) := by
  rw [visit, hfetch]
  dsimp only
  rw [hparse]

/-- A visit that succeeds found a document and registered its schemas. -/
theorem visit_eq_ok {location : String} {inclusion : Inclusion} {t t' : Traversal} {d : Declarations}
    (h : visit fetch strict owned location inclusion t = (t', .ok d)) :
    ∃ text, fetch location = .ok text ∧ Declarations.parse text strict = .ok d ∧
      t' = { fetched := t.fetched ++ [location]
             visited := location :: t.visited
             registry := (d.contributions inclusion).foldl (·.contribute owned) t.registry } := by
  unfold visit at h
  dsimp only at h
  split at h
  · cases (Prod.mk.inj h).2
  · next text hfetch =>
    split at h
    · cases (Prod.mk.inj h).2
    · next found hparse =>
      obtain ⟨rfl, hfound⟩ := Prod.mk.inj h
      obtain rfl := Except.ok.inj hfound
      exact ⟨text, hfetch, hparse, rfl⟩

/-- What a visit does to the registry: the document of an owned namespace is extended by all that the visit contributes
to it, in order. Any other namespace holds what is contributed to it last, or what it held if nothing is. -/
theorem get?_registry_visit {location : String} {inclusion : Inclusion} {t t' : Traversal} {d : Declarations}
    (h : visit fetch strict owned location inclusion t = (t', .ok d)) (ns : String) :
    (∀ doc, ns ∈ owned → t.registry.get? ns = some doc → t'.registry.get? ns =
      some ((((d.contributions inclusion).filter fun c => c.1 == ns).map Prod.snd).foldl SchemaDocument.extend doc)) ∧
    (ns ∉ owned → t'.registry.get? ns =
      (OrderedMap.get? (d.contributions inclusion).reverse ns <|> t.registry.get? ns)) := by
  obtain ⟨text, -, -, rfl⟩ := visit_eq_ok h
  constructor
  · intro doc howned hdoc
    exact SchemaRegistry.get?_foldl_contribute_of_mem howned hdoc _
  · intro hother
    exact SchemaRegistry.get?_foldl_contribute_of_not_mem _ _ hother

theorem fetched_visit (location : String) (inclusion : Inclusion) (t : Traversal) :
    (visit fetch strict owned location inclusion t).1.fetched = t.fetched ++ [location] := by
  unfold visit
  dsimp only
  split
  · rfl
  · split <;> rfl

/-! ## Sources -/

/-- What a document contributes wants included what the document wants included. -/
theorem wanted_contributions (d : Declarations) (inclusion : Inclusion) (base : Option String) :
    ((d.contributions inclusion).flatMap fun (_, doc) =>
      doc.inclusions.map fun inclusion => ({ base, inclusion } : Wanted)) = wantedAt base d.inclusions := by
  rw [wantedAt, Declarations.inclusions, List.map_flatMap, Declarations.contributions]
  split
  · rw [List.flatMap_map]
    refine congrArg (List.flatMap · _) (funext fun doc => ?_)
    dsimp only
    split <;> rfl
  · rw [OrderedMap.values, List.flatMap_map]

variable {source : Source}

theorem followInclusions_visited {wanted : Wanted} {pending : List Wanted} {t : Traversal}
    (h : wanted.location ∈ t.visited) :
    followInclusions source strict owned t.registry t.visited (wanted :: pending) =
      followInclusions source strict owned t.registry t.visited pending := by
  rw [followInclusions]
  exact dif_pos h

/-- A new location is visited, as long as the source has the same document there. -/
theorem followInclusions_new {wanted : Wanted} {pending : List Wanted} {t : Traversal}
    (h : wanted.location ∉ t.visited) (hsource : source.fetch wanted.location = fetch wanted.location) :
    followInclusions source strict owned t.registry t.visited (wanted :: pending) =
      match visit fetch strict owned wanted.location wanted.inclusion t with
      | (_, .error e) => { fetched := [wanted.location], outcome := .error e }
      | (t, .ok d) =>
        let later := followInclusions source strict owned t.registry t.visited
          (wantedAt (some wanted.location) d.inclusions ++ pending)
        { later with fetched := wanted.location :: later.fetched } := by
  rw [followInclusions, visit, ← hsource]
  refine (dif_neg h).trans ?_
  dsimp only
  split
  · next hf => rw [hf]
  · next text hf =>
    rw [hf]
    dsimp only
    cases Declarations.parse text strict with
    | error e => rfl
    | ok d =>
      dsimp only
      rw [wanted_contributions]

/-- Where the work list stops is what following inclusions gives, for a source that has the documents
that were asked for. -/
theorem WorkList.followInclusions {pending : List Wanted} {t : Traversal} {stop : Stop}
    (h : WorkList fetch strict owned pending t stop) :
    ∃ more, stop.1.fetched = t.fetched ++ more ∧
      ∀ source : Source, (∀ location ∈ more, source.fetch location = fetch location) →
        followInclusions source strict owned t.registry t.visited pending =
          { fetched := more, outcome := stop.2.map fun _ => stop.1.registry } := by
  induction h with
  | nil =>
    refine ⟨[], (List.append_nil _).symm, fun source _ => ?_⟩
    rw [Soap.followInclusions]
    rfl
  | visited h _ ih =>
    obtain ⟨more, hfetched, hfollow⟩ := ih
    refine ⟨more, hfetched, fun source hsource => ?_⟩
    rw [followInclusions_visited h]
    exact hfollow source hsource
  | @failed wanted _ t t' e h hvisit =>
    have hasked : (visit fetch strict owned wanted.location wanted.inclusion t).1.fetched =
        t.fetched ++ [wanted.location] := fetched_visit ..
    rw [hvisit] at hasked
    refine ⟨[wanted.location], hasked, fun source hsource => ?_⟩
    rw [followInclusions_new h (hsource _ List.mem_cons_self), hvisit]
    rfl
  | @included wanted _ t t' d stop h hvisit _ ih =>
    have hasked : (visit fetch strict owned wanted.location wanted.inclusion t).1.fetched =
        t.fetched ++ [wanted.location] := fetched_visit ..
    rw [hvisit] at hasked
    obtain ⟨more, hfetched, hlater⟩ := ih
    refine ⟨wanted.location :: more, ?_, fun source hsource => ?_⟩
    · rw [hfetched, hasked, List.append_assoc]
      rfl
    · rw [followInclusions_new h (hsource _ List.mem_cons_self), hvisit]
      dsimp only
      rw [hlater source fun location hmem => hsource location (List.mem_cons_of_mem _ hmem)]

/-- For a source the work list stops. -/
theorem exists_workList (pending : List Wanted) (t : Traversal) :
    ∃ stop, WorkList source.fetch strict owned pending t stop := by
  obtain ⟨fetched, visited, reg⟩ := t
  fun_induction Soap.followInclusions source strict owned reg visited pending generalizing fetched
  case case1 => exact ⟨_, .nil⟩
  case case2 hvisited ih =>
    obtain ⟨stop, hstop⟩ := ih fetched
    exact ⟨stop, .visited hvisited hstop⟩
  case case3 reg visited wanted _ _ hnew e hf =>
    have hvisit : visit source.fetch strict owned wanted.location wanted.inclusion ⟨fetched, visited, reg⟩ =
        (⟨fetched ++ [wanted.location], wanted.location :: visited, reg⟩,
          .error (.inclusion wanted.location (.fetch e))) := by
      rw [visit, hf]
    exact ⟨_, .failed hnew hvisit⟩
  case case4 reg visited wanted _ _ hnew text hf e hparse =>
    have hvisit : visit source.fetch strict owned wanted.location wanted.inclusion ⟨fetched, visited, reg⟩ =
        (⟨fetched ++ [wanted.location], wanted.location :: visited, reg⟩,
          .error (.inclusion wanted.location (.parse e))) := by
      rw [visit, hf]
      dsimp only
      rw [hparse]
    exact ⟨_, .failed hnew hvisit⟩
  case case5 hnew text hf d hparse contributions nested _ ih =>
    have hnested : nested = wantedAt (some _) d.inclusions := wanted_contributions ..
    rw [hnested] at ih
    obtain ⟨stop, hstop⟩ := ih _
    exact ⟨stop, .included hnew (visit_of_parse hf hparse _ _) hstop⟩

end Traversal

/-- There is a source that has the same documents at finitely many locations. -/
theorem Source.exists_agreeing (fetch : String → Except FetchError String) (locations : List String) :
    ∃ source : Source, ∀ location ∈ locations, source.fetch location = fetch location := by
  let fetchAmong (location : String) : Except FetchError String :=
    if location ∈ locations then fetch location else .error (.notFound location)
  have hfinite : ∃ served : List String, ∀ location text, fetchAmong location = .ok text → location ∈ served := by
    refine ⟨locations, fun location text h => ?_⟩
    by_cases hmem : location ∈ locations
    · exact hmem
    · cases (if_neg hmem).symm.trans h
  exact ⟨⟨fetchAmong, hfinite⟩, fun location hmem => if_pos hmem⟩

namespace Declarations

/-- Where following the inclusions of a document starts: it is not asked for itself. -/
def start (d : Declarations) (base? : Option String) : Traversal :=
  { fetched := [], visited := base?.toList, registry := d.schemas }

/-- Where processing the inclusions of a document and of all that they lead to stops. What is included
for the namespaces that it has schemas for extends these. -/
def Includes (d : Declarations) (fetch : String → Except FetchError String) (strict : Bool)
    (base? : Option String) (stop : Traversal.Stop) : Prop :=
  Traversal.DepthFirst fetch strict d.schemas.schemas.keys base? d.inclusions (d.start base?) stop

/-- Following inclusions is a traversal depth first: the work list stops just where the recursive
procedure does, which is one place at most, with the same requests, the same registry and the same
outcome. For a source both stop, and where they stop for any other fetcher, it is as good as a
source. -/
theorem followInclusions_depthFirst (d : Declarations) (base? : Option String) (strict : Bool) :
    (∀ fetch stop, Traversal.WorkList fetch strict d.schemas.schemas.keys
        (Traversal.wantedAt base? d.inclusions) (d.start base?) stop ↔ d.Includes fetch strict base? stop) ∧
    (∀ fetch t outcome, d.Includes fetch strict base? (t, outcome) →
      (∀ stop, d.Includes fetch strict base? stop → stop = (t, outcome)) ∧
      (∃ source : Source, ∀ location ∈ t.fetched, source.fetch location = fetch location) ∧
      ∀ source : Source, (∀ location ∈ t.fetched, source.fetch location = fetch location) →
        d.followInclusions base? source strict =
          { fetched := t.fetched, outcome := outcome.map fun _ => t.registry }) ∧
    ∀ source : Source, ∃ stop, d.Includes source.fetch strict base? stop := by
  refine ⟨fun fetch stop => Traversal.workList_iff, ?_, ?_⟩
  · intro fetch t outcome h
    have hlist := Traversal.workList_iff.mpr h
    refine ⟨?_, Source.exists_agreeing fetch t.fetched, ?_⟩
    · intro stop hstop
      exact (Traversal.workList_iff.mpr hstop).unique hlist
    · obtain ⟨more, hfetched, hfollow⟩ := hlist.followInclusions
      obtain rfl : t.fetched = more := hfetched
      exact hfollow
  · intro source
    obtain ⟨stop, hstop⟩ := Traversal.exists_workList (Traversal.wantedAt base? d.inclusions) (d.start base?)
    exact ⟨stop, Traversal.workList_iff.mp hstop⟩

/-! ### Documents that include each other -/

def inclusionMarkup (location : String) : Xml.Markup := leafMarkup "include" [("schemaLocation", location)]

def letterMarkup : Xml.Markup :=
  .element "definitions" []
    [.element "types" [] [.element "schema" [("targetNamespace", "urn:letters")]
      [inclusionMarkup "paper.xsd", inclusionMarkup "stamp.xsd"]]]

def paperMarkup : Xml.Markup :=
  .element "schema" [("targetNamespace", "urn:letters")]
    [inclusionMarkup "stamp.xsd", inclusionMarkup "letter.wsdl", leafMarkup "element" [("name", "paper")]]

def stampMarkup : Xml.Markup :=
  .element "schema" [] [inclusionMarkup "paper.xsd", leafMarkup "element" [("name", "stamp")]]

def letterInclusion (location : String) : Inclusion := { space := some "urn:letters", location }

def letterElement (name : String) (owner : Option String) : ElementDecl :=
  { name, occurs := ⟨none, none⟩, typeRef := none, inline := none, owner }

/-- A letter wants paper and a stamp. -/
def letter : Declarations where
  schemas := { schemas := [("urn:letters",
    { targetNamespace := some "urn:letters"
      inclusions := [letterInclusion "paper.xsd", letterInclusion "stamp.xsd"] })] }

/-- Paper wants a stamp and the letter. -/
def paper : Declarations where
  targetNamespace := some "urn:letters"
  schemas := { schemas := [("urn:letters",
    { targetNamespace := some "urn:letters"
      elements := [("paper", letterElement "paper" (some "urn:letters"))]
      inclusions := [letterInclusion "stamp.xsd", letterInclusion "letter.wsdl"] })] }
  isSchema := true

/-- A stamp wants paper. -/
def stamp : Declarations where
  schemas := { schemas := [("",
    { elements := [("stamp", letterElement "stamp" none)]
      inclusions := [{ space := none, location := "paper.xsd" }] })] }
  isSchema := true

theorem parse_letter : Declarations.parse letterMarkup.render false = .ok letter := by
  have hw : letterMarkup.IsWritable := by decide +kernel
  rw [Declarations.parse, letterMarkup, Document.parse_render hw]
  decide +kernel

theorem parse_paper : Declarations.parse paperMarkup.render false = .ok paper := by
  have hw : paperMarkup.IsWritable := by decide +kernel
  rw [Declarations.parse, paperMarkup, Document.parse_render hw]
  decide +kernel

theorem parse_stamp : Declarations.parse stampMarkup.render false = .ok stamp := by
  have hw : stampMarkup.IsWritable := by decide +kernel
  rw [Declarations.parse, stampMarkup, Document.parse_render hw]
  decide +kernel

/-- The letter's schema with what paper and stamp add to it. -/
def lettersSchema : SchemaDocument where
  targetNamespace := some "urn:letters"
  elements := [("paper", letterElement "paper" (some "urn:letters")),
    ("stamp", letterElement "stamp" (some "urn:letters"))]
  inclusions := [letterInclusion "paper.xsd", letterInclusion "stamp.xsd", letterInclusion "stamp.xsd",
    letterInclusion "letter.wsdl", { space := none, location := "paper.xsd" }]

def stationery : Source := .ofDocuments [("paper.xsd", paperMarkup.render), ("stamp.xsd", stampMarkup.render)]

/-- Where the traversal is when it has come to the given locations. -/
def lettersAt (fetched : List String) (doc : SchemaDocument) : Traversal where
  fetched
  visited := fetched.reverse ++ ["letter.wsdl"]
  registry := { schemas := [("urn:letters", doc)] }

/-- A schema for the letter. -/
def letterSchema (elements : OrderedMap String ElementDecl) (inclusions : List String) : SchemaDocument where
  targetNamespace := some "urn:letters"
  elements
  inclusions := inclusions.map letterInclusion

section

open Traversal

theorem visit_paper :
    visit stationery.fetch false ["urn:letters"] "paper.xsd" (letterInclusion "paper.xsd")
      (letter.start (some "letter.wsdl")) =
    (lettersAt ["paper.xsd"] (letterSchema [("paper", letterElement "paper" (some "urn:letters"))]
      ["paper.xsd", "stamp.xsd", "stamp.xsd", "letter.wsdl"]), .ok paper) := by
  have hfetch : stationery.fetch "paper.xsd" = .ok paperMarkup.render := rfl
  rw [visit_of_parse hfetch parse_paper]
  rfl

theorem visit_stamp :
    visit stationery.fetch false ["urn:letters"] "stamp.xsd" (letterInclusion "stamp.xsd")
      (lettersAt ["paper.xsd"] (letterSchema [("paper", letterElement "paper" (some "urn:letters"))]
        ["paper.xsd", "stamp.xsd", "stamp.xsd", "letter.wsdl"])) =
    (lettersAt ["paper.xsd", "stamp.xsd"] lettersSchema, .ok stamp) := by
  have hfetch : stationery.fetch "stamp.xsd" = .ok stampMarkup.render := rfl
  rw [visit_of_parse hfetch parse_stamp]
  rfl

/-- With the stamp there is all that paper wants, and with paper all that the letter wants. -/
theorem includes_letter :
    letter.Includes stationery.fetch false (some "letter.wsdl")
      (lettersAt ["paper.xsd", "stamp.xsd"] lettersSchema, .ok ()) := by
  have hfromLetter : ∀ location ∈ ["paper.xsd", "stamp.xsd"],
      resolveLocation (some "letter.wsdl") (letterInclusion location).location = location := by decide
  have hfromPaper : ∀ location ∈ ["stamp.xsd", "letter.wsdl"],
      resolveLocation (some "paper.xsd") (letterInclusion location).location = location := by decide
  have hfromStamp : resolveLocation (some "stamp.xsd") "paper.xsd" = "paper.xsd" := by decide
  have hstamp : DepthFirst stationery.fetch false ["urn:letters"] (some "stamp.xsd") stamp.inclusions
      (lettersAt ["paper.xsd", "stamp.xsd"] lettersSchema)
      (lettersAt ["paper.xsd", "stamp.xsd"] lettersSchema, .ok ()) :=
    .visited hfromStamp (by decide) .nil
  have hpaper : DepthFirst stationery.fetch false ["urn:letters"] (some "paper.xsd") paper.inclusions
      (lettersAt ["paper.xsd"] (letterSchema [("paper", letterElement "paper" (some "urn:letters"))]
        ["paper.xsd", "stamp.xsd", "stamp.xsd", "letter.wsdl"]))
      (lettersAt ["paper.xsd", "stamp.xsd"] lettersSchema, .ok ()) := by
    apply DepthFirst.included (hfromPaper "stamp.xsd" (by decide)) (by decide) visit_stamp hstamp
    exact .visited (hfromPaper "letter.wsdl" (by decide)) (by decide) .nil
  apply DepthFirst.included (hfromLetter "paper.xsd" (by decide)) (by decide) visit_paper hpaper
  exact .visited (hfromLetter "stamp.xsd" (by decide)) (by decide) .nil

end

/-- A stamp is asked for on the way through paper, and nothing is asked for again. -/
theorem followInclusions_depthFirst_letter :
    Declarations.parse letterMarkup.render false = .ok letter ∧
    letter.Includes stationery.fetch false (some "letter.wsdl")
      (lettersAt ["paper.xsd", "stamp.xsd"] lettersSchema, .ok ()) ∧
    Traversal.WorkList stationery.fetch false ["urn:letters"]
      (Traversal.wantedAt (some "letter.wsdl") letter.inclusions) (letter.start (some "letter.wsdl"))
      (lettersAt ["paper.xsd", "stamp.xsd"] lettersSchema, .ok ()) ∧
    letter.followInclusions (some "letter.wsdl") stationery false =
      { fetched := ["paper.xsd", "stamp.xsd"]
        outcome := .ok { schemas := [("urn:letters", lettersSchema)] } } := by
  obtain ⟨hlist, hfollow, -⟩ := followInclusions_depthFirst letter (some "letter.wsdl") false
  have hincludes := includes_letter
  obtain ⟨-, -, hsame⟩ := hfollow _ _ _ hincludes
  exact ⟨parse_letter, hincludes, (hlist _ _).mpr hincludes, hsame stationery fun _ _ => rfl⟩

end Declarations

end Soap
