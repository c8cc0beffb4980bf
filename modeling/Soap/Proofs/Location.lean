import Mathlib.Data.List.DropRight
import Mathlib.Logic.Relation
import Soap.Proofs.Definitions.Traversal
import Soap.Proofs.Text.Split

/-!
# Canonical locations

A path says the same if a `.` is dropped from it, or an ordinary component together with a `..` right behind it
(`FilePath.Cancels`). However such steps are taken, they come to one path on which there are none left
(`FilePath.reduces_iff`), and the fold that resolves locations finds it.

So the location of an included document, as far as paths go, is a canonical one (`resolveLocation_isReduct`): how it
is spelt, and where it is wanted, does not matter beyond what is left of it in the end. Two spellings of it are the
same text, and the document is included once.
-/

namespace Soap

namespace FilePath

open Relation (ReflTransGen)

/-! ## Cancelling components -/

/-- A component that names a file or a directory. -/
def IsOrdinary (c : String) : Prop := c ≠ "." ∧ c ≠ ".."

/-- One step of simplifying components. -/
inductive Cancels : List String → List String → Prop where
  | dot (before after : List String) : Cancels (before ++ "." :: after) (before ++ after)
  | up (before after : List String) {c : String} (hc : IsOrdinary c) :
    Cancels (before ++ c :: ".." :: after) (before ++ after)

/-- What is left of components when they are folded, latest first. -/
def fold (cs : List String) : List String := (cs.filter (· != ".")).foldl foldComponent []

/-- What is left of components, in their order. -/
def reduce (cs : List String) : List String := (fold cs).reverse

/-- Folded components are ordinary ones on top of `..`. -/
def IsFolded (folded : List String) : Prop :=
  ∃ k ordinary, folded = ordinary ++ List.replicate k ".." ∧ ∀ c ∈ ordinary, IsOrdinary c

variable {cs ds folded : List String} {c : String}

theorem foldComponent_of_ne (hc : c ≠ "..") (folded : List String) : foldComponent folded c = c :: folded := if_neg hc

theorem foldComponent_up (hc : c ≠ "..") (folded : List String) : foldComponent (c :: folded) ".." = folded := by
  simp [foldComponent, hc]

theorem fold_concat (cs : List String) (c : String) :
    fold (cs ++ [c]) = if c = "." then fold cs else foldComponent (fold cs) c := by
  unfold fold
  by_cases hc : c = "."
  · simp [hc]
  · simp [hc, List.filter_append]

/-- The top of folded components is ordinary, or there are `..` only. -/
theorem IsFolded.cases (h : IsFolded folded) :
    (∃ k, folded = List.replicate k "..") ∨ ∃ c before, folded = c :: before ∧ IsOrdinary c ∧ IsFolded before := by
  obtain ⟨k, ordinary, rfl, hordinary⟩ := h
  cases ordinary with
  | nil => exact .inl ⟨k, rfl⟩
  | cons c rest =>
    refine .inr ⟨c, rest ++ List.replicate k "..", rfl, hordinary c List.mem_cons_self, k, rest, rfl, ?_⟩
    exact fun d hd => hordinary d (List.mem_cons_of_mem c hd)

theorem foldComponent_replicate (k : Nat) :
    foldComponent (List.replicate k "..") ".." = List.replicate (k + 1) ".." := by
  cases k <;> simp [foldComponent, List.replicate_succ]

theorem IsFolded.step (h : IsFolded folded) (hc : c ≠ ".") : IsFolded (foldComponent folded c) := by
  by_cases hup : c = ".."
  · subst hup
    rcases h.cases with ⟨k, rfl⟩ | ⟨d, before, rfl, hd, hbefore⟩
    · rw [foldComponent_replicate]
      exact ⟨k + 1, [], rfl, by simp⟩
    · rwa [foldComponent_up hd.2]
  · obtain ⟨k, ordinary, rfl, hordinary⟩ := h
    rw [foldComponent_of_ne hup]
    refine ⟨k, c :: ordinary, rfl, ?_⟩
    intro d hd
    rcases List.mem_cons.mp hd with rfl | hd
    · exact ⟨hc, hup⟩
    · exact hordinary d hd

theorem isFolded_fold (cs : List String) : IsFolded (fold cs) := by
  induction cs using List.reverseRecOn with
  | nil => exact ⟨0, [], rfl, by simp⟩
  | append_singleton cs c ih =>
    rw [fold_concat]
    split
    · exact ih
    · next hc => exact ih.step hc

/-- What is left begins with `..`, as often as it may be, and goes on with ordinary components. -/
theorem exists_reduce_eq (cs : List String) :
    ∃ k ordinary, reduce cs = List.replicate k ".." ++ ordinary ∧ ∀ c ∈ ordinary, IsOrdinary c := by
  obtain ⟨k, ordinary, hfold, hordinary⟩ := isFolded_fold cs
  refine ⟨k, ordinary.reverse, ?_, fun c hc => hordinary c (List.mem_reverse.mp hc)⟩
  rw [reduce, hfold, List.reverse_append, List.reverse_replicate]

/-! ### One result -/

theorem Cancels.append (h : Cancels cs ds) (more : List String) : Cancels (cs ++ more) (ds ++ more) := by
  cases h with
  | dot before after =>
    rw [List.append_assoc, List.append_assoc]
    exact .dot before (after ++ more)
  | up before after hc =>
    rw [List.append_assoc, List.append_assoc]
    exact .up before (after ++ more) hc

theorem Cancels.length_lt (h : Cancels cs ds) : ds.length < cs.length := by
  cases h <;> simp only [List.length_append, List.length_cons] <;> omega

theorem Cancels.subset (h : Cancels cs ds) : ds ⊆ cs := by
  intro d hd
  cases h <;> grind

/-- A step does not change what is left in the end. -/
theorem Cancels.fold_eq (h : Cancels cs ds) : fold cs = fold ds := by
  cases h with
  | dot before after => simp [fold]
  | up before after hc =>
    -- The fold takes the ordinary component, and the `..` behind it takes it away again.
    have hfilter : ∀ d : String, d ≠ "." → (d :: after).filter (· != ".") = d :: after.filter (· != ".") := by
      intro d hd
      exact List.filter_cons_of_pos (by simpa using hd)
    unfold fold
    rw [List.filter_append, List.filter_append, List.filter_cons_of_pos (by simpa using hc.1),
      hfilter ".." (by decide), List.foldl_append, List.foldl_append, List.foldl_cons, List.foldl_cons,
      foldComponent_of_ne hc.2, foldComponent_up hc.2]

theorem fold_eq_of_reduces (h : ReflTransGen Cancels cs ds) : fold cs = fold ds := by
  induction h with
  | refl => rfl
  | tail _ hstep ih => exact ih.trans hstep.fold_eq

/-- Where folded components are spelt out, the next one is folded in one step, or none. -/
theorem IsFolded.reduces (h : IsFolded folded) (c : String) :
    ReflTransGen Cancels (folded.reverse ++ [c]) (if c = "." then folded else foldComponent folded c).reverse := by
  by_cases hdot : c = "."
  · subst hdot
    have hstep : Cancels (folded.reverse ++ "." :: []) (folded.reverse ++ []) := .dot _ _
    rw [List.append_nil] at hstep
    exact .single hstep
  rw [if_neg hdot]
  by_cases hup : c = ".."
  · subst hup
    rcases h.cases with ⟨k, rfl⟩ | ⟨d, before, rfl, hd, -⟩
    · rw [foldComponent_replicate, List.reverse_replicate, List.reverse_replicate, ← List.replicate_succ']
    · rw [foldComponent_up hd.2, List.reverse_cons, List.append_assoc]
      have hstep : Cancels (before.reverse ++ d :: ".." :: []) (before.reverse ++ []) := .up _ _ hd
      rw [List.append_nil] at hstep
      exact .single hstep
  · rw [foldComponent_of_ne hup, List.reverse_cons]

/-- What is left is reached by steps. -/
theorem reduces_reduce (cs : List String) : ReflTransGen Cancels cs (reduce cs) := by
  induction cs using List.reverseRecOn with
  | nil => exact .refl
  | append_singleton cs c ih =>
    have hlift : ReflTransGen Cancels (cs ++ [c]) (reduce cs ++ [c]) :=
      ih.lift (· ++ [c]) fun _ _ hstep => hstep.append [c]
    have hlast := (isFolded_fold cs).reduces c
    rw [← fold_concat] at hlast
    exact hlift.trans hlast

theorem reduce_reduce (cs : List String) : reduce (reduce cs) = reduce cs :=
  congrArg List.reverse (fold_eq_of_reduces (reduces_reduce cs)).symm

theorem length_reduce_le (cs : List String) : (reduce cs).length ≤ cs.length := by
  have hsteps := reduces_reduce cs
  generalize reduce cs = left at hsteps
  induction hsteps with
  | refl => exact le_rfl
  | tail _ hstep ih => exact Nat.le_trans (Nat.le_of_lt hstep.length_lt) ih

theorem reduce_subset (cs : List String) : reduce cs ⊆ cs := by
  have hsteps := reduces_reduce cs
  generalize reduce cs = left at hsteps
  induction hsteps with
  | refl => exact List.Subset.refl cs
  | tail _ hstep ih => exact List.Subset.trans hstep.subset ih

/-- Steps that are taken for as long as there are any come to what is left, in whatever order they are taken. -/
theorem reduces_iff : (ReflTransGen Cancels cs ds ∧ ∀ further, ¬ Cancels ds further) ↔ ds = reduce cs := by
  constructor
  · rintro ⟨hsteps, hirreducible⟩
    have hleft : reduce cs = reduce ds := congrArg List.reverse (fold_eq_of_reduces hsteps)
    rw [hleft]
    rcases (reduces_reduce ds).cases_head with heq | ⟨further, hstep, -⟩
    · exact heq
    · exact absurd hstep (hirreducible further)
  · rintro rfl
    refine ⟨reduces_reduce cs, ?_⟩
    intro further hstep
    -- A further step would leave less, of which no more can be left than there is.
    have hlt := hstep.length_lt
    have hle := length_reduce_le further
    have heq : reduce further = reduce (reduce cs) := congrArg List.reverse hstep.fold_eq.symm
    rw [heq, reduce_reduce] at hle
    omega

/-! ## Paths as they are spelt -/

/-- A path with the components that a text has between its slashes, `.` among them. -/
def spelt (text : String) : FilePath where
  absolute := text.toList.head? == some '/'
  components := ((Text.pieces (· == '/') text.toList).map String.ofList).filter (· != "")

/-- The directory that a path stands in: it ends before the last component that is not `.`, and is the current one if
there is no such component. -/
def directory (p : FilePath) : FilePath :=
  let named := p.components.rdropWhile (· == ".")
  if named = [] then { absolute := false, components := [] } else { p with components := named.dropLast }

/-- The path of a location, seen from the document at `base`, before anything is simplified. -/
def joined (base location : String) : FilePath := (spelt base).directory.join (spelt location)

def withoutDots (p : FilePath) : FilePath := { p with components := p.components.filter (· != ".") }

def reduced (p : FilePath) : FilePath := { p with components := reduce p.components }

/-- What a path comes to by steps of simplifying it, when there are none left. -/
structure IsReduct (p q : FilePath) : Prop where
  root : q.absolute = p.absolute
  steps : ReflTransGen Cancels p.components q.components
  irreducible : ∀ further, ¬ Cancels q.components further

variable {p q : FilePath} {text : String}

theorem isReduct_iff : p.IsReduct q ↔ q = p.reduced := by
  constructor
  · intro h
    have hcomponents := reduces_iff.mp ⟨h.steps, h.irreducible⟩
    obtain ⟨absolute, components⟩ := q
    exact congrArg₂ FilePath.mk h.root hcomponents
  · rintro rfl
    obtain ⟨hsteps, hirreducible⟩ := reduces_iff.mpr (rfl : reduce p.components = _)
    exact ⟨rfl, hsteps, hirreducible⟩

/-! ### What dots are for -/

theorem parse_eq (text : String) : parse text = (spelt text).withoutDots := by
  unfold parse spelt withoutDots
  dsimp only
  rw [List.filter_filter]
  congr 1
  apply List.filter_congr
  intro c _
  exact Bool.and_comm _ _

theorem filter_rdropWhile (cs : List String) :
    (cs.rdropWhile (· == ".")).filter (· != ".") = cs.filter (· != ".") := by
  induction cs using List.reverseRecOn with
  | nil => rfl
  | append_singleton cs c ih =>
    rw [List.rdropWhile_concat]
    split
    · next hdot =>
      obtain rfl : c = "." := by simpa using hdot
      simp [ih]
    · rfl

theorem parent_withoutDots (p : FilePath) : p.withoutDots.parent = p.directory.withoutDots := by
  have hfilter := filter_rdropWhile p.components
  have hlast := List.rdropWhile_last_not (· == ".") p.components
  unfold parent directory withoutDots
  dsimp only
  rw [← hfilter]
  generalize p.components.rdropWhile (· == ".") = named at hlast
  -- The last component is not `.`, so dropping it and dropping dots do not meet.
  rcases named.eq_nil_or_concat with rfl | ⟨init, last, rfl⟩
  · simp
  · have hne : last ≠ "." := by simpa using hlast
    simp [hne, List.filter_append]

theorem join_withoutDots (p q : FilePath) : p.withoutDots.join q.withoutDots = (p.join q).withoutDots := by
  unfold join withoutDots
  dsimp only
  split
  · rfl
  · rw [List.filter_append]

theorem normalize_withoutDots (p : FilePath) : p.withoutDots.normalize = p.reduced := rfl

theorem reduced_reduced (p : FilePath) : p.reduced.reduced = p.reduced :=
  congrArg (FilePath.mk p.absolute) (reduce_reduce p.components)

/-! ### Reading what is written -/

/-- Components that can stand between slashes. -/
def AreSpellable (cs : List String) : Prop := ∀ c ∈ cs, c ≠ "" ∧ '/' ∉ c.toList

theorem areSpellable_spelt (text : String) : AreSpellable (spelt text).components := by
  intro c hc
  obtain ⟨hmem, hne⟩ := List.mem_filter.mp hc
  obtain ⟨piece, hpiece, rfl⟩ := List.mem_map.mp hmem
  refine ⟨by simpa using hne, ?_⟩
  rw [String.toList_ofList]
  intro hslash
  have hsep := Text.not_sep_of_mem_pieces hpiece hslash
  cases hsep

theorem AreSpellable.of_subset (h : AreSpellable cs) (hsubset : ds ⊆ cs) : AreSpellable ds :=
  fun c hc => h c (hsubset hc)

theorem areSpellable_joined (base location : String) : AreSpellable (joined base location).components := by
  have hbase : AreSpellable (spelt base).directory.components := by
    unfold directory
    dsimp only
    split
    · simp [AreSpellable]
    · apply (areSpellable_spelt base).of_subset
      exact List.Subset.trans (List.dropLast_subset _) (List.rdropWhile_prefix _ _).subset
  unfold joined join
  split
  · exact areSpellable_spelt location
  · intro c hc
    rcases List.mem_append.mp hc with hc | hc
    · exact hbase c hc
    · exact areSpellable_spelt location c hc

/-- The components of a text with slashes between them. -/
theorem pieces_intercalate (h : AreSpellable cs) :
    (Text.pieces (· == '/') ("/".intercalate cs).toList).filter (· != []) = cs.map String.toList := by
  rw [String.toList_intercalate, Text.pieces_eq_splitOn]
  have hall : ∀ piece ∈ cs.map String.toList, '/' ∉ piece ∧ piece ≠ [] := by
    intro piece hpiece
    obtain ⟨c, hc, rfl⟩ := List.mem_map.mp hpiece
    exact ⟨(h c hc).2, by simpa using (h c hc).1⟩
  by_cases hne : cs.map String.toList = []
  · rw [hne]
    rfl
  · show List.filter _ (List.splitOn '/' (['/'].intercalate (cs.map String.toList))) = _
    rw [List.splitOn_intercalate '/' (fun piece hpiece => (hall piece hpiece).1) hne, List.filter_eq_self]
    exact fun piece hpiece => by simpa using (hall piece hpiece).2

/-- Characters are spelt as the components that stand between their slashes. -/
theorem components_spelt (text : String) :
    (spelt text).components = ((Text.pieces (· == '/') text.toList).filter (· != [])).map String.ofList := by
  unfold spelt
  dsimp only
  rw [List.filter_map]
  congr 1
  apply List.filter_congr
  intro piece _
  rw [Bool.eq_iff_iff]
  simp

theorem head?_intercalate (h : AreSpellable cs) : ("/".intercalate cs).toList.head? ≠ some '/' := by
  rw [String.toList_intercalate]
  cases cs with
  | nil => simp
  | cons c rest =>
    obtain ⟨hne, hslash⟩ := h c List.mem_cons_self
    have hhead : ∃ d more, c.toList = d :: more := List.exists_cons_of_ne_nil (by simpa using hne)
    obtain ⟨d, more, hc⟩ := hhead
    have hd : d ≠ '/' := by
      rintro rfl
      exact hslash (by simp [hc])
    cases rest with
    | nil => simpa [hc] using hd
    | cons next rest => simpa [List.intercalate, hc] using hd

/-- A path is spelt as it is written. -/
theorem spelt_render (h : AreSpellable p.components) : spelt p.render = p := by
  obtain ⟨absolute, cs⟩ := p
  have hpieces := pieces_intercalate h
  have hback : (cs.map String.toList).map String.ofList = cs := by simp [Function.comp_def]
  have hcomponents : (spelt (render ⟨absolute, cs⟩)).components = cs := by
    rw [components_spelt, render]
    cases absolute with
    | true =>
      rw [if_pos rfl, String.toList_append]
      show ((Text.pieces (· == '/') ('/' :: ("/".intercalate cs).toList)).filter _).map _ = cs
      rw [Text.pieces, if_pos (by decide), List.filter_cons_of_neg (by simp), hpieces, hback]
    | false => rw [if_neg Bool.false_ne_true, String.empty_append, hpieces, hback]
  have hroot : (spelt (render ⟨absolute, cs⟩)).absolute = absolute := by
    unfold spelt render
    dsimp only
    cases absolute with
    | true => simp
    | false => simpa using head?_intercalate h
  generalize spelt (render ⟨absolute, cs⟩) = q at hcomponents hroot
  obtain ⟨absolute', cs'⟩ := q
  exact congrArg₂ FilePath.mk hroot hcomponents

end FilePath

open FilePath

/-! ## Resolved locations -/

variable {base location base' location' : String}

theorem resolveLocation_eq (hbase : hasScheme base = false) (hlocation : hasScheme location = false) :
    resolveLocation (some base) location = (joined base location).reduced.render := by
  simp only [resolveLocation, hbase, hlocation, Bool.false_eq_true, if_false]
  rw [parse_eq, parse_eq, parent_withoutDots, join_withoutDots, normalize_withoutDots]
  rfl

theorem spelt_resolveLocation (hbase : hasScheme base = false) (hlocation : hasScheme location = false) :
    spelt (resolveLocation (some base) location) = (joined base location).reduced := by
  rw [resolveLocation_eq hbase hlocation]
  exact spelt_render ((areSpellable_joined base location).of_subset (reduce_subset _))

/-- Locations are resolved to the same text just if the same is left of their joined paths. -/
theorem resolveLocation_eq_iff (hbase : hasScheme base = false) (hlocation : hasScheme location = false)
    (hbase' : hasScheme base' = false) (hlocation' : hasScheme location' = false) :
    resolveLocation (some base') location' = resolveLocation (some base) location ↔
      (joined base' location').reduced = (joined base location).reduced := by
  constructor
  · intro h
    rw [← spelt_resolveLocation hbase' hlocation', ← spelt_resolveLocation hbase hlocation, h]
  · intro h
    rw [resolveLocation_eq hbase' hlocation', resolveLocation_eq hbase hlocation, h]

/-- A location that is a path is resolved to a canonical one. There is no `.` in it, and each `..` comes before all
ordinary components; to resolve it once more leaves it as it is. It is spelt like what is left of the joined path when
components are cancelled in whatever order, as long as there are any to cancel. Two locations of which the same is left
are resolved to the same text, and no others; so what was visited under the one is passed over under the other. -/
theorem resolveLocation_isReduct (hbase : hasScheme base = false) (hlocation : hasScheme location = false) :
    "." ∉ (spelt (resolveLocation (some base) location)).components ∧
    (∃ k ordinary, (spelt (resolveLocation (some base) location)).components = List.replicate k ".." ++ ordinary ∧
      ∀ c ∈ ordinary, IsOrdinary c) ∧
    (parse (resolveLocation (some base) location)).normalize.render = resolveLocation (some base) location ∧
    (∀ q, (joined base location).IsReduct q ↔ q = spelt (resolveLocation (some base) location)) ∧
    ∀ base' location', hasScheme base' = false → hasScheme location' = false →
      ((∃ q, (joined base' location').IsReduct q ∧ (joined base location).IsReduct q) ↔
        resolveLocation (some base') location' = resolveLocation (some base) location) ∧
      ((∃ q, (joined base' location').IsReduct q ∧ (joined base location).IsReduct q) →
        ∀ source strict owned registry visited pending space, resolveLocation (some base) location ∈ visited →
          followInclusions source strict owned registry visited
              (⟨some base', { space, location := location' }⟩ :: pending) =
            followInclusions source strict owned registry visited pending) := by
  have hspelt := spelt_resolveLocation hbase hlocation
  obtain ⟨k, ordinary, hshape, hordinary⟩ := exists_reduce_eq (joined base location).components
  have hcomponents : (joined base location).reduced.components = List.replicate k ".." ++ ordinary := hshape
  refine ⟨?_, ?_, ?_, ?_, ?_⟩
  · rw [hspelt, hcomponents]
    intro hdot
    rcases List.mem_append.mp hdot with hdot | hdot
    · exact absurd (List.eq_of_mem_replicate hdot) (by decide)
    · exact (hordinary _ hdot).1 rfl
  · rw [hspelt]
    exact ⟨k, ordinary, hcomponents, hordinary⟩
  · rw [parse_eq, hspelt, normalize_withoutDots, reduced_reduced, resolveLocation_eq hbase hlocation]
  · intro q
    rw [hspelt, isReduct_iff]
  · intro base' location' hbase' hlocation'
    have hsame : (∃ q, (joined base' location').IsReduct q ∧ (joined base location).IsReduct q) ↔
        resolveLocation (some base') location' = resolveLocation (some base) location := by
      simp only [isReduct_iff, exists_eq_left]
      rw [resolveLocation_eq_iff hbase hlocation hbase' hlocation']
    refine ⟨hsame, ?_⟩
    intro hreduct source strict owned registry visited pending space hvisited
    let wanted : Wanted := ⟨some base', { space, location := location' }⟩
    have hwanted : wanted.location ∈ visited := by
      show resolveLocation (some base') location' ∈ visited
      rwa [hsame.mp hreduct]
    exact Traversal.followInclusions_visited (t := { fetched := [], visited, registry }) hwanted

/-- The way out of two directories, one more and into a third is spelt in two ways. -/
theorem resolveLocation_isReduct_types :
    hasScheme "shop/./wsdl/service.wsdl" = false ∧ hasScheme "../..//../types/./order.xsd" = false ∧
    hasScheme "shop.wsdl" = false ∧ hasScheme "../types/old/../order.xsd" = false ∧
    (joined "shop/./wsdl/service.wsdl" "../..//../types/./order.xsd").components =
      ["shop", ".", "wsdl", "..", "..", "..", "types", ".", "order.xsd"] ∧
    resolveLocation (some "shop/./wsdl/service.wsdl") "../..//../types/./order.xsd" = "../types/order.xsd" ∧
    resolveLocation (some "shop.wsdl") "../types/old/../order.xsd" = "../types/order.xsd" ∧
    ∀ source strict owned registry visited pending space, "../types/order.xsd" ∈ visited →
      followInclusions source strict owned registry visited
          (⟨some "shop.wsdl", { space, location := "../types/old/../order.xsd" }⟩ :: pending) =
        followInclusions source strict owned registry visited pending := by
  have hbase : hasScheme "shop/./wsdl/service.wsdl" = false := by decide
  have hlocation : hasScheme "../..//../types/./order.xsd" = false := by decide
  have hbase' : hasScheme "shop.wsdl" = false := by decide
  have hlocation' : hasScheme "../types/old/../order.xsd" = false := by decide
  have hresolved : resolveLocation (some "shop/./wsdl/service.wsdl") "../..//../types/./order.xsd" =
      "../types/order.xsd" := by decide
  have hresolved' : resolveLocation (some "shop.wsdl") "../types/old/../order.xsd" = "../types/order.xsd" := by decide
  obtain ⟨-, -, -, -, hothers⟩ := resolveLocation_isReduct hbase hlocation
  obtain ⟨hsame, hpassed⟩ := hothers _ _ hbase' hlocation'
  rw [hresolved] at hsame hpassed
  exact ⟨hbase, hlocation, hbase', hlocation', by decide, hresolved, hresolved', hpassed (hsame.mpr hresolved')⟩

end Soap
