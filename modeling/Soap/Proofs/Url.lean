import Soap.Url.Parser

/-!
# What stands in the path of a URL

The path of a URL that was read holds neither of the marks that would end it
(`Url.isPath_of_parse?`), so it can be sent as it is: a request for it asks for this path and for no
query. The reader of segments keeps that of all it holds.
-/

namespace Soap.Url

/-- A text that holds no mark of a query or fragment. -/
def IsPath (cs : List Char) : Prop := ∀ c ∈ cs, endsPath c = false

theorem IsPath.nil : IsPath [] := by simp [IsPath]

theorem IsPath.append {a b : List Char} (ha : IsPath a) (hb : IsPath b) : IsPath (a ++ b) := by
  intro c hc
  exact (List.mem_append.mp hc).elim (ha c) (hb c)

theorem IsPath.of_subset {a b : List Char} (hb : IsPath b) (h : ∀ c ∈ a, c ∈ b) : IsPath a := by
  intro c hc
  exact hb c (h c hc)

theorem IsPath.slash : IsPath ['/'] := by
  intro c hc
  obtain rfl := List.mem_singleton.mp hc
  decide

/-! ## Encoded characters -/

theorem endsPath_hexDigit {n : Nat} (h : n < 16) : endsPath (hexDigit n) = false := by
  have hall : ∀ n : Fin 16, endsPath (hexDigit n.val) = false := by decide
  exact hall ⟨n, h⟩

theorem IsPath.encodeByte (b : UInt8) : IsPath (encodeByte b) := by
  have hb := b.toNat_lt
  intro c hc
  simp only [Url.encodeByte, List.mem_cons, List.not_mem_nil, or_false] at hc
  rcases hc with rfl | rfl | rfl
  · decide
  · exact endsPath_hexDigit (by omega)
  · exact endsPath_hexDigit (by omega)

/-- A character that is no mark is written without marks. -/
theorem IsPath.encodeChar (set : CodeSet) {c : Char} (h : endsPath c = false) :
    IsPath (encodeChar set c) := by
  unfold Url.encodeChar
  split
  · intro d hd
    obtain ⟨b, -, hd⟩ := List.mem_flatMap.mp hd
    exact IsPath.encodeByte b d hd
  · intro d hd
    rwa [List.mem_singleton.mp hd]

theorem IsPath.encode (set : CodeSet) {cs : List Char} (h : IsPath cs) :
    IsPath (encode set cs) := by
  intro d hd
  obtain ⟨c, hc, hd⟩ := List.mem_flatMap.mp hd
  exact IsPath.encodeChar set (h c hc) d hd

/-! ## The reader of segments -/

theorem IsPath.upToLastSlash {path : List Char} (h : IsPath path) : IsPath (upToLastSlash path) :=
  h.of_subset fun _ hc =>
    List.mem_reverse.mp ((List.dropWhile_sublist _).subset (List.mem_reverse.mp hc))

theorem IsPath.parentPath {path : List Char} (h : IsPath path) : IsPath (parentPath path) := by
  unfold Url.parentPath
  split
  · next before hpath =>
    have hbefore : IsPath before.reverse := h.of_subset fun c hc => by
      rw [← List.mem_reverse, hpath]
      exact List.mem_cons_of_mem _ (List.mem_reverse.mp hc)
    dsimp only
    split
    · exact hbefore.upToLastSlash
    · exact h
  · exact h

namespace SegmentReader

/-- What the reader holds is of a path. -/
structure IsClean (r : SegmentReader) : Prop where
  done : IsPath r.done
  written : IsPath r.written
  pending : IsPath r.pending

theorem IsClean.segment {r : SegmentReader} (h : r.IsClean) : IsPath r.segment :=
  h.written.append h.pending

theorem IsClean.of_done {done : List Char} (h : IsPath done) (metDrive : Bool) :
    IsClean { done, metDrive } := ⟨h, .nil, .nil⟩

theorem IsClean.close {r : SegmentReader} (h : r.IsClean) (kind : SchemeKind) (slash : Bool) :
    (r.close kind slash).IsClean := by
  have hslashes : IsPath (if slash then ['/'] else []) := by
    split
    · exact .slash
    · exact .nil
  have hcolon : IsPath [':'] := by
    intro c hc
    obtain rfl := List.mem_singleton.mp hc
    decide
  simp only [SegmentReader.close]
  -- Two dots, one dot, the letter of a drive, or any other segment.
  split
  · exact .of_done h.done.parentPath _
  split
  · refine .of_done ?_ _
    split
    · exact h.done
    · exact h.done.append .slash
  split
  · have hletter : IsPath (r.segment.take 1) := h.segment.of_subset fun _ hc =>
      List.mem_of_mem_take hc
    exact .of_done (((h.done.append hletter).append hcolon).append hslashes) _
  · exact .of_done ((h.done.append h.segment).append hslashes) _

theorem IsClean.writeOut {r : SegmentReader} (h : r.IsClean) : r.writeOut.IsClean :=
  ⟨h.done, h.segment, .nil⟩

theorem IsClean.pushSlash {r : SegmentReader} (h : r.IsClean) : r.pushSlash.IsClean := by
  have hall : IsPath (r.done ++ r.written ++ ['/']) := (h.done.append h.written).append .slash
  exact ⟨hall.of_subset fun _ hc => List.mem_of_mem_take hc,
    hall.of_subset fun _ hc => List.mem_of_mem_drop hc, h.pending⟩

theorem IsClean.add {r : SegmentReader} (h : r.IsClean) (kind : SchemeKind) {c : Char}
    (hc : endsPath c = false) : (r.add kind c).IsClean := by
  have hencoded := IsPath.encodeChar pathSet hc
  simp only [SegmentReader.add]
  split
  · exact ⟨h.pushSlash.done, h.pushSlash.written, h.pushSlash.pending.append hencoded⟩
  · exact ⟨h.done, h.written, h.pending.append hencoded⟩

theorem IsClean.finish {r : SegmentReader} (h : r.IsClean) (kind : SchemeKind) :
    IsPath (r.finish kind) := by
  have hdone := (h.close kind false).done
  unfold SegmentReader.finish
  dsimp only
  split
  · exact IsPath.slash.append (hdone.of_subset fun _ hc => (List.dropWhile_sublist _).subset hc)
  · exact hdone

/-- Reading to the end gives a path. -/
theorem IsClean.run {r : SegmentReader} (h : r.IsClean) (kind : SchemeKind) (cs : List Char) :
    IsPath (r.run kind cs).1 := by
  induction cs generalizing r with
  | nil => exact h.finish kind
  | cons c rest ih =>
    rw [SegmentReader.run]
    split
    · exact ih h.writeOut
    split
    · exact ih (h.close kind true)
    split
    · exact h.finish kind
    · next hends => exact ih (h.add kind (by simpa using hends))

end SegmentReader

theorem isPath_readPath (kind : SchemeKind) {done : List Char} (h : IsPath done) (cs : List Char) :
    IsPath (readPath kind done cs).1 := (SegmentReader.IsClean.of_done h false).run kind cs

/-! ## The reader of URLs -/

/-- A query and a fragment leave the path as it is. -/
theorem path_withSuffix (u : Url) (cs : List Char) : (withSuffix u cs).path = u.path := rfl

theorem isPath_of_afterSlashes? {scheme cs : List Char} {u : Url}
    (h : afterSlashes? scheme cs = some u) : IsPath u.path := by
  obtain ⟨⟨authority, rest⟩, -, h⟩ := Option.bind_eq_some_iff.mp h
  obtain rfl := Option.some.inj h
  rw [path_withSuffix]
  dsimp only
  split
  · exact isPath_readPath _ .slash _
  · exact isPath_readPath _ .slash _
  · split
    · exact .nil
    · refine isPath_readPath _ ?_ _
      split
      · exact .nil
      · exact .slash
  · exact .nil

/-- The path of a file's URL is read behind a slash. -/
theorem isPath_of_fileAfterSlashes? {cs : List Char} {u : Url} (h : fileAfterSlashes? cs = some u) :
    IsPath u.path := by
  unfold fileAfterSlashes? at h
  dsimp only at h
  split at h
  · obtain rfl := Option.some.inj h
    exact isPath_readPath _ .slash _
  · -- The host may be left out or be that of this machine, with the same path.
    split at h
    all_goals
      obtain ⟨named, -, h⟩ := Option.bind_eq_some_iff.mp h
      by_cases hhost : (if named = "localhost".toList then [] else named).isEmpty = true
      · rw [if_pos hhost] at h
        obtain rfl := Option.some.inj h
        exact isPath_readPath _ .slash _
      · rw [if_neg hhost] at h
        obtain rfl := Option.some.inj h
        exact isPath_readPath _ .slash _

theorem isPath_fromNothing (cs : List Char) : IsPath (readFile?.fromNothing cs).path :=
  isPath_readPath .file .slash cs

theorem isPath_fromRoot_none (rest : List Char) : IsPath (readFile?.fromRoot none rest).path :=
  isPath_readPath .file .nil ('/' :: rest)

theorem isPath_of_readFile? {cs : List Char} {u : Url} (h : readFile? none cs = some u) :
    IsPath u.path := by
  unfold readFile? at h
  dsimp only at h
  split at h
  · split at h
    · split at h
      · split at h
        · exact isPath_of_fileAfterSlashes? h
        · obtain rfl := Option.some.inj h
          exact isPath_fromRoot_none _
      · obtain rfl := Option.some.inj h
        exact isPath_fromRoot_none _
    · obtain rfl := Option.some.inj h
      exact isPath_fromNothing _
  · next hnone => cases hnone
  · obtain rfl := Option.some.inj h
    exact isPath_fromNothing _

theorem isPath_of_readOther? {scheme cs : List Char} {u : Url} (h : readOther? scheme cs = some u) :
    IsPath u.path := by
  unfold readOther? at h
  split at h
  · exact isPath_of_afterSlashes? h
  · obtain rfl := Option.some.inj h
    exact isPath_readPath _ .slash _
  · obtain rfl := Option.some.inj h
    refine IsPath.encode _ fun c hc => ?_
    simpa using List.all_eq_true.mp List.all_takeWhile c hc

/-- The path of a URL that was read is one. -/
theorem isPath_of_parse? {text : String} {u : Url} (h : parse? text = some u) : IsPath u.path := by
  unfold parse? read? at h
  dsimp only at h
  split at h
  · split at h
    · exact isPath_of_readFile? h
    · exact isPath_of_afterSlashes? h
    · exact isPath_of_readOther? h
  · cases h

end Soap.Url
