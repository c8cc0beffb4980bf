import Mathlib.Data.List.DropRight
import Mathlib.Data.List.SplitBy
import Soap.Proofs.Xml.Attribute
import Soap.Proofs.Xml.Nesting
import Soap.Xml.Reader

/-!
# What a reader delivers

The events of a document can be told without reading it in order: what stands between two tags is a run, and each
run makes one text, of all that is said in it, unless that is blank (`reference`). A reader, called again and again,
delivers exactly these events, and nothing after them (`Reader.normalizes`). If something cannot be read, it delivers
those up to the last tag before it, then the failure, once. What it still has to deliver at any time is told by
`Reader.left`, of which one call takes the first (`Reader.next_takes`).
-/

namespace Soap.Xml

/-! ## The events of a document -/

namespace Raw

/-- Does it end a run of text? -/
def isTag : Raw → Bool
  | .start _ _ | .stop _ => true
  | .text _ | .skip => false

/-- The events of a tag. One that closes its element as well has two. -/
def events : Raw → List Event
  | .start event none => [event]
  | .start event (some name) => [event, .stop name]
  | .stop name => [.stop name]
  | .text _ | .skip => []

/-- What it adds to the text. -/
def content : Raw → List Char
  | .text content => content
  | .start _ _ | .stop _ | .skip => []

end Raw

/-- The longest runs of what stands between two tags, and the tags. -/
def runs (raws : List Raw) : List (List Raw) := raws.splitBy fun a b => !a.isTag && !b.isTag

/-- The events that a document has by what its tokens come to. -/
def reference (raws : List Raw) : List Event :=
  (runs raws).flatMap fun run => run.flatMap Raw.events ++ flushed (run.flatMap Raw.content)

/-- What tokens come to, up to the first that cannot be read. -/
def rawsOf : List Placed → List Raw
  | [] => []
  | (token, _) :: items =>
    match Raw.ofToken token with
    | .error _ => []
    | .ok raw => raw :: rawsOf items

/-- The first failure. -/
def firstFailure? (ending : Ending) : List Placed → Option Failure
  | [] =>
    match ending with
    | .done _ => none
    | .failed f => some f
  | (token, pos) :: items =>
    match Raw.ofToken token with
    | .error cause => some ⟨⟨pos, cause⟩, pos⟩
    | .ok _ => firstFailure? ending items

/-- What is delivered of tokens: all events, or those up to the last tag and then the failure. -/
def normalized (ending : Ending) (items : List Placed) : List (Except Failure Event) :=
  match firstFailure? ending items with
  | none => (reference (rawsOf items)).map .ok
  | some f => (reference ((rawsOf items).rdropWhile fun raw => !raw.isTag)).map .ok ++ [.error f]

/-! ## In order -/

variable {text : List Char} {raws more : List Raw}

/-- The events up to the last tag, and the text behind it, if there is a text before. -/
def settled : (text : List Char) → List Raw → List Event × List Char
  | text, [] => ([], text)
  | text, raw :: raws =>
    if raw.isTag then (flushed text ++ raw.events ++ (settled [] raws).1, (settled [] raws).2)
    else settled (text ++ raw.content) raws

theorem events_of_not_isTag {raw : Raw} (h : raw.isTag = false) : raw.events = [] := by
  cases raw <;> first | rfl | cases h

theorem events_ne_nil {raw : Raw} (h : raw.isTag = true) : raw.events ≠ [] := by
  cases raw with
  | start event selfClosing => cases selfClosing <;> exact List.cons_ne_nil _ _
  | stop name => exact List.cons_ne_nil _ _
  | text | skip => cases h

theorem content_of_isTag {raw : Raw} (h : raw.isTag = true) : raw.content = [] := by
  cases raw <;> first | rfl | cases h

theorem settled_append (text : List Char) (raws more : List Raw) :
    settled text (raws ++ more) =
      ((settled text raws).1 ++ (settled (settled text raws).2 more).1, (settled (settled text raws).2 more).2) := by
  induction raws generalizing text with
  | nil => rfl
  | cons raw raws ih =>
    rw [List.cons_append, settled, settled]
    split
    · simp only [ih, List.append_assoc]
    · exact ih _

/-! ### Runs -/

theorem events_of_run (h : ∀ raw ∈ raws, raw.isTag = false) : raws.flatMap Raw.events = [] :=
  List.flatMap_eq_nil_iff.mpr fun raw hraw => events_of_not_isTag (h raw hraw)

/-- What stands between two tags is one run. -/
theorem runs_of_not_isTag (h : ∀ raw ∈ raws, raw.isTag = false) (hne : raws ≠ []) : runs raws = [raws] := by
  refine List.splitBy_of_isChain hne (List.Pairwise.isChain (List.pairwise_of_forall_mem_list ?_))
  intro a ha b hb
  simp [h a ha, h b hb]

/-- A tag is a run of its own. -/
theorem runs_append_tag {raw : Raw} (h : raw.isTag = true) :
    runs (raws ++ raw :: more) = runs raws ++ [raw] :: runs more := by
  have hbefore : ∀ x ∈ raws.getLast?, (!x.isTag && !raw.isTag) = false := by simp [h]
  have hafter : ∀ x ∈ [raw].getLast?, ∀ y ∈ more.head?, (!x.isTag && !y.isTag) = false := by simp [h]
  rw [runs, List.splitBy_append_cons more hbefore, ← List.singleton_append, List.splitBy_append hafter]
  rfl

theorem reference_append_tag {raw : Raw} (h : raw.isTag = true) :
    reference (raws ++ raw :: more) = reference raws ++ raw.events ++ reference more := by
  rw [reference, runs_append_tag h, List.flatMap_append, List.flatMap_cons]
  simp [reference, content_of_isTag h]

theorem reference_of_not_isTag (h : ∀ raw ∈ raws, raw.isTag = false) :
    reference raws = flushed (raws.flatMap Raw.content) := by
  cases raws with
  | nil => rfl
  | cons raw rest =>
    rw [reference, runs_of_not_isTag h (List.cons_ne_nil _ _), List.flatMap_singleton, events_of_run h,
      List.nil_append]

/-- The events can be told in order. -/
theorem reference_append (before : List Raw) (h : ∀ raw ∈ before, raw.isTag = false) (raws : List Raw) :
    reference (before ++ raws) = (settled (before.flatMap Raw.content) raws).1 ++
      flushed (settled (before.flatMap Raw.content) raws).2 := by
  induction raws generalizing before with
  | nil => rw [List.append_nil, reference_of_not_isTag h, settled, List.nil_append]
  | cons raw raws ih =>
    cases hraw : raw.isTag with
    | true =>
      have hlater := ih [] (List.forall_mem_nil _)
      rw [List.nil_append, List.flatMap_nil] at hlater
      rw [reference_append_tag hraw, reference_of_not_isTag h, hlater, settled, if_pos hraw]
      simp only [List.append_assoc]
    | false =>
      have hmore : ∀ raw' ∈ before ++ [raw], raw'.isTag = false := by
        intro raw' hmem
        rcases List.mem_append.mp hmem with hmem | hmem
        · exact h raw' hmem
        · exact List.mem_singleton.mp hmem ▸ hraw
      have hlater := ih (before ++ [raw]) hmore
      rw [List.append_assoc, List.singleton_append, List.flatMap_append, List.flatMap_singleton] at hlater
      rw [hlater, settled, hraw, if_neg Bool.false_ne_true]

theorem reference_eq (raws : List Raw) :
    reference raws = (settled [] raws).1 ++ flushed (settled [] raws).2 :=
  reference_append [] (List.forall_mem_nil _) raws

/-- Up to the last tag, all text is between two tags. -/
theorem reference_rdropWhile (raws : List Raw) :
    reference (raws.rdropWhile fun raw => !raw.isTag) = (settled [] raws).1 := by
  induction raws using List.reverseRecOn with
  | nil => rfl
  | append_singleton raws raw ih =>
    rw [settled_append]
    cases hraw : raw.isTag with
    | true =>
      have hlast : settled (settled [] raws).2 [raw] = (flushed (settled [] raws).2 ++ raw.events, []) := by
        rw [settled, if_pos hraw, settled, List.append_nil]
      rw [List.rdropWhile_concat_neg _ _ _ (by simp [hraw]), reference_append_tag hraw, reference_eq raws, hlast]
      simp [reference, runs]
    | false =>
      have hlast : settled (settled [] raws).2 [raw] = ([], (settled [] raws).2 ++ raw.content) := by
        rw [settled, hraw, if_neg Bool.false_ne_true, settled]
      rw [List.rdropWhile_concat_pos _ _ _ (by simp [hraw]), ih, hlast, List.append_nil]

/-- Whatever comes later, what is told up to the last tag stays. -/
theorem reference_prefix (raws more : List Raw) :
    reference (raws.rdropWhile fun raw => !raw.isTag) <+: reference (raws ++ more) := by
  rw [reference_rdropWhile, reference_eq, settled_append, List.append_assoc]
  exact List.prefix_append ..

/-! ## Texts -/

def Event.isText : Event → Bool
  | .text _ => true
  | .start _ _ _ | .stop _ => false

/-- No event of a tag is a text. -/
def Raw.IsSound (raw : Raw) : Prop := ∀ event ∈ raw.events, event.isText = false

theorem isSound_start {content : List Char} {opened : QName × Event} (h : startEvent content = .ok opened)
    (selfClosing : Option QName) : (Raw.start opened.2 selfClosing).IsSound := by
  obtain ⟨-, attributes, declarations, -, hevent⟩ := startEvent_eq_ok h
  rw [hevent]
  cases selfClosing <;> simp [Raw.IsSound, Raw.events, Event.isText]

theorem isSound_ofToken {token : Token} {raw : Raw} (h : Raw.ofToken token = .ok raw) : raw.IsSound := by
  cases token with
  | startTag content =>
    obtain ⟨opened, hopened, rfl⟩ := map_eq_ok h
    exact isSound_start hopened none
  | emptyTag content =>
    obtain ⟨opened, hopened, rfl⟩ := map_eq_ok h
    exact isSound_start hopened (some opened.1)
  | endTag name =>
    obtain rfl := Except.ok.inj h
    simp [Raw.IsSound, Raw.events, Event.isText]
  | text run =>
    obtain ⟨text, -, rfl⟩ := map_eq_ok h
    exact List.forall_mem_nil _
  | cdata run =>
    obtain rfl := Except.ok.inj h
    exact List.forall_mem_nil _
  | reference name =>
    rw [Raw.ofToken] at h
    split at h
    · obtain rfl := Except.ok.inj h
      exact List.forall_mem_nil _
    · cases h
  | other =>
    obtain rfl := Except.ok.inj h
    exact List.forall_mem_nil _

theorem isSound_rawsOf (items : List Placed) : ∀ raw ∈ rawsOf items, raw.IsSound := by
  induction items with
  | nil => exact List.forall_mem_nil _
  | cons item items ih =>
    rw [rawsOf]
    split
    · exact List.forall_mem_nil _
    · next raw hraw => exact List.forall_mem_cons.mpr ⟨isSound_ofToken hraw, ih⟩

/-- All texts of a document are trimmed, and none is empty. -/
theorem isTrimmed_reference (h : ∀ raw ∈ raws, raw.IsSound) : ∀ event ∈ reference raws, event.IsTrimmed := by
  intro event hevent
  obtain ⟨run, hrun, hevent⟩ := List.mem_flatMap.mp hevent
  rcases List.mem_append.mp hevent with hevent | hevent
  · obtain ⟨raw, hraw, hevent⟩ := List.mem_flatMap.mp hevent
    have hmem : raw ∈ raws := by
      rw [← List.flatten_splitBy (fun a b : Raw => !a.isTag && !b.isTag) raws]
      exact List.mem_flatten.mpr ⟨run, hrun, hraw⟩
    have htag := h raw hmem event hevent
    cases event with
    | text => cases htag
    | start => trivial
    | stop => trivial
  · obtain ⟨occurrence, hoccurrence, rfl⟩ := List.mem_map.mp hevent
    exact isTrimmed_flush _ 0 occurrence hoccurrence

/-- Of two events in a row, one is no text. -/
abbrev AreApart (events : List Event) : Prop := events.IsChain fun a b => (a.isText && b.isText) = false

theorem areApart_flushed (text : List Char) : AreApart (flushed text) := by
  unfold flushed flush
  split
  · exact .nil
  · exact .singleton _

/-- A tag stands between the text before it and what comes later. -/
theorem areApart_append {raw : Raw} (htag : raw.isTag = true) (hsound : raw.IsSound) {events : List Event}
    (h : AreApart events) : AreApart (flushed text ++ raw.events ++ events) := by
  have hevents : AreApart raw.events :=
    List.Pairwise.isChain (List.pairwise_of_forall_mem_list fun a ha b _ => by simp [hsound a ha])
  have hne := events_ne_nil htag
  rw [AreApart, List.append_assoc, List.isChain_append, List.isChain_append]
  refine ⟨areApart_flushed text, ⟨hevents, h, ?_⟩, ?_⟩
  · intro a ha b _
    simp [hsound a (List.mem_of_getLast? ha)]
  · intro a _ b hb
    rw [List.head?_append_of_ne_nil _ hne] at hb
    simp [hsound b (List.mem_of_head? hb)]

theorem areApart_settled (h : ∀ raw ∈ raws, raw.IsSound) (text : List Char) :
    AreApart ((settled text raws).1 ++ flushed (settled text raws).2) := by
  induction raws generalizing text with
  | nil => exact areApart_flushed text
  | cons raw raws ih =>
    obtain ⟨hraw, hraws⟩ := List.forall_mem_cons.mp h
    rw [settled]
    split
    · next htag =>
      rw [List.append_assoc]
      exact areApart_append htag hraw (ih hraws [])
    · exact ih hraws _

/-! ## A reader between two calls -/

/-- The events of tokens, and how reading them ends, if there is a text before. -/
def readingFrom (ending : Ending) (text : List Char) : List Placed → Reading
  | [] =>
    match ending with
    | .done pos => ⟨flush text pos, ending⟩
    | .failed _ => ⟨[], ending⟩
  | (token, pos) :: items =>
    match Raw.ofToken token with
    | .error cause => .fail pos cause
    | .ok raw =>
      let b := Buffer.feed { text } pos raw
      .after b.queued (readingFrom ending b.text items)

/-- What is delivered of a reading, call by call: its events, and then the failure if there is one. -/
def Reading.results (r : Reading) : List (Except Failure Occurrence) :=
  r.events.map .ok ++
    match r.ending with
    | .done _ => []
    | .failed f => [.error f]

theorem Reading.results_after (events : List Occurrence) (later : Reading) :
    (Reading.after events later).results = events.map .ok ++ later.results := by
  rw [results, after, List.map_append, List.append_assoc]
  rfl

namespace Reader

/-- What a reader still has to deliver. -/
def left (r : Reader) : List (Except Failure Occurrence) :=
  r.buffer.queued.map .ok ++
    if r.buffer.done then [] else (readingFrom r.ending r.buffer.text r.items).results

theorem left_of_done {r : Reader} (h : r.buffer.done = true) : r.left = r.buffer.queued.map .ok := by
  rw [left, if_pos h, List.append_nil]

/-- Taking in a token does not change what is to be delivered. -/
theorem left_feed {ending : Ending} {b : Buffer} (hqueued : b.queued = []) (hdone : b.done = false) {token : Token}
    {raw : Raw} (hraw : Raw.ofToken token = .ok raw) (pos : Nat) (items : List Placed) :
    left ⟨items, ending, b.feed pos raw⟩ = left ⟨(token, pos) :: items, ending, b⟩ := by
  obtain ⟨text, queued, done⟩ := b
  obtain rfl : queued = [] := hqueued
  obtain rfl : done = false := hdone
  have hopen : (Buffer.feed { text } pos raw).done = false := by
    cases raw with
    | start event selfClosing => cases selfClosing <;> rfl
    | stop | text | skip => rfl
  rw [left, left, hopen, readingFrom, hraw]
  simp only [Reading.results_after]
  rfl

/-- A call takes the first of what is left, and leaves the others. -/
def Takes (r : Reader) (called : Option (Except Failure Occurrence) × Reader) : Prop :=
  called.1 = r.left.head? ∧ called.2.left = r.left.tail

/-- As long as events are ready, or if nothing more is to come, nothing is read. -/
theorem takes_of_ready (ending : Ending) {b : Buffer} (items : List Placed) (h : b.queued ≠ [] ∨ b.done = true) :
    Takes ⟨items, ending, b⟩ (advance ending b items) := by
  unfold advance
  split
  · next event queued hqueued =>
    rw [Takes, left, hqueued]
    exact ⟨rfl, rfl⟩
  · next hqueued =>
    have hdone : b.done = true := h.resolve_left (not_not_intro hqueued)
    rw [if_pos hdone, Takes, left_of_done hdone, hqueued]
    exact ⟨rfl, rfl⟩

/-- At the end, what was collected is delivered, or the failure. -/
theorem takes_at_end (ending : Ending) (text : List Char) :
    Takes ⟨[], ending, { text }⟩ (advance ending { text } []) := by
  cases ending with
  | failed f => exact ⟨rfl, rfl⟩
  | done pos =>
    have hleft : left ⟨[], .done pos, { text }⟩ = (flush text pos).map .ok := List.append_nil _
    have hqueued : (Buffer.flushText { text } pos).queued = flush text pos := rfl
    rw [Takes, hleft, advance, hqueued]
    cases flush text pos with
    | nil => exact ⟨rfl, rfl⟩
    | cons event queued => exact ⟨rfl, List.append_nil _⟩

theorem advance_takes (ending : Ending) (b : Buffer) (items : List Placed) :
    Takes ⟨items, ending, b⟩ (advance ending b items) := by
  induction items generalizing b with
  | nil =>
    obtain ⟨text, _ | ⟨event, queued⟩, _ | _⟩ := b
    · exact takes_at_end ending text
    · exact takes_of_ready ending [] (.inr rfl)
    · exact takes_of_ready ending [] (.inl (List.cons_ne_nil _ _))
    · exact takes_of_ready ending [] (.inr rfl)
  | cons item items ih =>
    obtain ⟨token, pos⟩ := item
    obtain ⟨text, _ | ⟨event, queued⟩, _ | _⟩ := b
    · cases hraw : Raw.ofToken token with
      | error cause =>
        have hleft : left ⟨(token, pos) :: items, ending, { text }⟩ = [.error ⟨⟨pos, cause⟩, pos⟩] := by
          rw [left, readingFrom, hraw]
          rfl
        rw [Takes, hleft, advance, hraw]
        exact ⟨rfl, rfl⟩
      | ok raw =>
        have hadvance : advance ending { text } ((token, pos) :: items) =
            advance ending (Buffer.feed { text } pos raw) items := by
          rw [advance, hraw]
          rfl
        rw [hadvance, Takes, ← left_feed rfl rfl hraw]
        exact ih _
    · exact takes_of_ready ending _ (.inr rfl)
    · exact takes_of_ready ending _ (.inl (List.cons_ne_nil _ _))
    · exact takes_of_ready ending _ (.inr rfl)

theorem next_takes (r : Reader) : Takes r r.next := advance_takes r.ending r.buffer r.items

/-- The calls deliver what is left one by one, and nothing after it. -/
theorem call_eq (r : Reader) (n : Nat) : r.call n = r.left[n]? := by
  induction n generalizing r with
  | zero => rw [call, (next_takes r).1, List.head?_eq_getElem?]
  | succ n ih => rw [call, ih, (next_takes r).2, List.getElem?_tail]

end Reader

/-! ## All calls -/

/-- What is delivered after a text: all events, or those up to the last tag and then the failure. -/
def delivered (text : List Char) (raws : List Raw) (failure? : Option Failure) : List (Except Failure Event) :=
  match failure? with
  | none => ((settled text raws).1 ++ flushed (settled text raws).2).map .ok
  | some f => (settled text raws).1.map .ok ++ [.error f]

theorem normalized_eq (ending : Ending) (items : List Placed) :
    normalized ending items = delivered [] (rawsOf items) (firstFailure? ending items) := by
  unfold normalized delivered
  cases firstFailure? ending items with
  | none => rw [reference_eq]
  | some f => rw [reference_rdropWhile]

/-- After a tag, the text begins anew. -/
theorem delivered_tag {raw : Raw} (h : raw.isTag = true) (text : List Char) (raws : List Raw)
    (failure? : Option Failure) :
    delivered text (raw :: raws) failure? =
      (flushed text ++ raw.events).map .ok ++ delivered [] raws failure? := by
  unfold delivered
  rw [settled, if_pos h]
  cases failure? <;> simp only [List.map_append, List.append_assoc]

theorem delivered_of_not_isTag {raw : Raw} (h : raw.isTag = false) (text : List Char) (raws : List Raw)
    (failure? : Option Failure) :
    delivered text (raw :: raws) failure? = delivered (text ++ raw.content) raws failure? := by
  unfold delivered
  rw [settled, h, if_neg Bool.false_ne_true]

/-- What a token adds to the events that are ready, and to the text. -/
theorem delivered_feed (text : List Char) (pos : Nat) (raw : Raw) (raws : List Raw) (failure? : Option Failure) :
    delivered text (raw :: raws) failure? =
      ((Buffer.feed { text } pos raw).queued.map Prod.fst).map .ok ++
        delivered (Buffer.feed { text } pos raw).text raws failure? := by
  cases raw with
  | start event selfClosing =>
    rw [delivered_tag rfl]
    cases selfClosing <;>
    simp [Buffer.feed, Buffer.flushText, Buffer.push, map_fst_flush, Raw.events]
  | stop name =>
    rw [delivered_tag rfl]
    simp [Buffer.feed, Buffer.flushText, Buffer.push, map_fst_flush, Raw.events]
  | text content => exact delivered_of_not_isTag rfl ..
  | skip =>
    rw [delivered_of_not_isTag rfl, Raw.content, List.append_nil]
    rfl

theorem map_results_readingFrom (ending : Ending) (text : List Char) (items : List Placed) :
    (readingFrom ending text items).results.map (Except.map Prod.fst) =
      delivered text (rawsOf items) (firstFailure? ending items) := by
  induction items generalizing text with
  | nil =>
    cases ending with
    | failed f => rfl
    | done pos =>
      rw [readingFrom, Reading.results, List.append_nil, List.map_map]
      show (flush text pos).map (Except.ok ∘ Prod.fst) = (flushed text).map Except.ok
      rw [← map_fst_flush text pos, List.map_map]
  | cons item items ih =>
    obtain ⟨token, pos⟩ := item
    rw [readingFrom, rawsOf, firstFailure?]
    cases hraw : Raw.ofToken token with
    | error cause => rfl
    | ok raw =>
      dsimp only
      rw [Reading.results_after, List.map_append, ih, List.map_map, delivered_feed text pos, List.map_map]
      rfl

/-! ## Texts that are scanned -/

/-- Text holds no reference: the scanner tells these apart. -/
def Token.IsPlain : Token → Prop
  | .text run => '&' ∉ run
  | .startTag _ | .emptyTag _ | .endTag _ | .cdata _ | .reference _ | .other => True

def State.IsPlain : State → Prop
  | .text run => '&' ∉ run
  | .reference _ _ | .markup _ | .tag _ _ _ | .instruction _ _ | .bang _ | .comment _ _ | .cdata _ _
  | .doctype _ _ _ => True

theorem plain_textToken {run : List Char} (h : '&' ∉ run) (stop : Nat) :
    ∀ item ∈ textToken run stop, item.1.IsPlain := by
  unfold textToken
  split
  · exact List.forall_mem_nil _
  · intro item hitem
    obtain rfl := List.mem_singleton.mp hitem
    show '&' ∉ run.reverse
    simpa using h

theorem plain_closeTag {opened opened' : List (List Char)} {start stop : Nat} {content : List Char}
    {state : State} {items : List Placed} (h : closeTag opened start stop content = .next state opened' items) :
    state.IsPlain ∧ ∀ item ∈ items, item.1.IsPlain := by
  have hstart : (State.text []).IsPlain := List.not_mem_nil
  unfold closeTag at h
  split at h
  · dsimp only at h
    split at h
    · cases h
    · split at h
      · cases h
        exact ⟨hstart, List.forall_mem_singleton.mpr trivial⟩
      · cases h
  · split at h <;>
    · cases h
      exact ⟨hstart, List.forall_mem_singleton.mpr trivial⟩

theorem plain_tagStep {opened opened' : List (List Char)} {start stop : Nat} {quote : Option Char}
    {content : List Char} {c : Char} {state : State} {items : List Placed}
    (h : tagStep opened start quote content c stop = .next state opened' items) :
    state.IsPlain ∧ ∀ item ∈ items, item.1.IsPlain := by
  unfold tagStep at h
  split at h
  · exact plain_closeTag h
  · cases h
    exact ⟨trivial, List.forall_mem_nil _⟩

theorem plain_step {opened opened' : List (List Char)} {pos : Nat} {state state' : State} {c : Char}
    {rest : List Char} {items : List Placed} (hstate : state.IsPlain)
    (h : step opened pos state c rest = .next state' opened' items) :
    state'.IsPlain ∧ ∀ item ∈ items, item.1.IsPlain := by
  cases state with
  | text run =>
    simp only [step] at h
    split at h
    · cases h
      exact ⟨trivial, plain_textToken hstate pos⟩
    split at h
    · cases h
      exact ⟨trivial, plain_textToken hstate pos⟩
    · next hamp =>
      cases h
      refine ⟨?_, List.forall_mem_nil _⟩
      exact fun hmem => (List.mem_cons.mp hmem).elim (Ne.symm hamp) hstate
  | tag start quote content => exact plain_tagStep h
  | markup start =>
    simp only [step] at h
    split at h
    · cases h
      exact ⟨trivial, List.forall_mem_nil _⟩
    split at h
    · cases h
      exact ⟨trivial, List.forall_mem_nil _⟩
    · exact plain_tagStep h
  | reference | instruction | bang | comment | cdata | doctype =>
    -- Whatever these complete is no text.
    simp only [step, closeDoctype] at h
    repeat' split at h
    all_goals cases h
    all_goals simp [State.IsPlain, Token.IsPlain]

theorem plain_scanFrom (opened : List (List Char)) (pos : Nat) {state : State} (hstate : state.IsPlain)
    (cs : List Char) : ∀ item ∈ (scanFrom opened pos state cs).items, item.1.IsPlain := by
  induction cs generalizing opened pos state with
  | nil =>
    rw [scanFrom]
    cases state with
    | text run => exact plain_textToken hstate pos
    | tag start quote content => cases quote <;> exact List.forall_mem_nil _
    | reference | markup | instruction | bang | comment | cdata | doctype => exact List.forall_mem_nil _
  | cons c rest ih =>
    rw [scanFrom]
    split
    · exact List.forall_mem_nil _
    · next hstep =>
      obtain ⟨hnext, hitems⟩ := plain_step hstate hstep
      intro item hitem
      rcases List.mem_append.mp hitem with hitem | hitem
      · exact hitems item hitem
      · exact ih _ _ hnext item hitem

theorem plain_scan (cs : List Char) : ∀ item ∈ (scan cs).items, item.1.IsPlain := by
  have hstart : (State.text []).IsPlain := List.not_mem_nil
  unfold scan
  split <;> exact plain_scanFrom _ _ hstart _

theorem readingFrom_cons {token : Token} {raw : Raw} (hraw : Raw.ofToken token = .ok raw) (ending : Ending)
    (text : List Char) (pos : Nat) (items : List Placed) :
    readingFrom ending text ((token, pos) :: items) =
      .after (Buffer.feed { text } pos raw).queued (readingFrom ending (Buffer.feed { text } pos raw).text items) := by
  rw [readingFrom, hraw]

/-- Without references in texts, tokens are read as they are reduced at once. -/
theorem readingFrom_eq_eventsFrom (ending : Ending) (text : List Char) {items : List Placed}
    (h : ∀ item ∈ items, item.1.IsPlain) : readingFrom ending text items = eventsFrom ending text items := by
  induction items generalizing text with
  | nil => rfl
  | cons item items ih =>
    obtain ⟨token, pos⟩ := item
    obtain ⟨htoken, hitems⟩ := List.forall_mem_cons.mp h
    cases token with
    | startTag content =>
      cases hstart : startEvent content with
      | error cause => rw [readingFrom, eventsFrom, Raw.ofToken, hstart]; rfl
      | ok opened =>
        have hraw : Raw.ofToken (.startTag content) = .ok (.start opened.2 none) := by rw [Raw.ofToken, hstart]; rfl
        rw [readingFrom_cons hraw, ih _ hitems, eventsFrom, hstart]
        rfl
    | emptyTag content =>
      cases hstart : startEvent content with
      | error cause => rw [readingFrom, eventsFrom, Raw.ofToken, hstart]; rfl
      | ok opened =>
        have hraw : Raw.ofToken (.emptyTag content) = .ok (.start opened.2 (some opened.1)) := by
          rw [Raw.ofToken, hstart]
          rfl
        rw [readingFrom_cons hraw, ih _ hitems, eventsFrom, hstart]
        simp [Buffer.feed, Buffer.flushText, Buffer.push]
    | endTag name =>
      rw [readingFrom_cons rfl, ih _ hitems, eventsFrom]
      rfl
    | text run =>
      have hraw : Raw.ofToken (.text run) = .ok (.text run) := by
        rw [Raw.ofToken, unescape, unescapeFrom_of_not_mem htoken]
        rfl
      rw [readingFrom_cons hraw, ih _ hitems, eventsFrom]
      rfl
    | cdata run =>
      rw [readingFrom_cons rfl, ih _ hitems, eventsFrom]
      rfl
    | reference name =>
      cases hname : resolveReference name with
      | none => rw [readingFrom, eventsFrom, Raw.ofToken, hname]
      | some c =>
        have hraw : Raw.ofToken (.reference name) = .ok (.text [c]) := by rw [Raw.ofToken, hname]
        rw [readingFrom_cons hraw, ih _ hitems, eventsFrom, hname]
        rfl
    | other =>
      rw [readingFrom_cons rfl, ih _ hitems, eventsFrom]
      rfl

/-! ## Readers -/

namespace Reader

theorem left_ofTokens (items : List Placed) (ending : Ending) :
    (ofTokens ⟨items, ending⟩).left = (readingFrom ending [] items).results := rfl

/-- Whatever tokens a reader has and however they end, its calls deliver the events that are told without order, and
nothing after them. If there is a failure, they deliver those up to the last tag before it, which no token behind
them could change, then the failure, and nothing after it. No text is empty or not trimmed, and no two follow each
other. A reader of a document delivers what all its tokens are reduced to at once. -/
theorem normalizes :
    (∀ (items : List Placed) (ending : Ending),
      (∀ n, ((ofTokens ⟨items, ending⟩).call n).map (Except.map Prod.fst) = (normalized ending items)[n]?) ∧
      (∀ more, reference ((rawsOf items).rdropWhile fun raw => !raw.isTag) <+: reference (rawsOf items ++ more)) ∧
      (∀ event ∈ reference (rawsOf items), event.IsTrimmed) ∧
      AreApart (reference (rawsOf items))) ∧
    ∀ (text : String) (n : Nat), (ofText text).call n = (read text).results[n]? := by
  refine ⟨fun items ending => ⟨fun n => ?_, ?_, ?_, ?_⟩, fun text n => ?_⟩
  · rw [call_eq, left_ofTokens, ← List.getElem?_map, map_results_readingFrom, normalized_eq]
  · exact reference_prefix (rawsOf items)
  · exact isTrimmed_reference (isSound_rawsOf items)
  · rw [reference_eq]
    exact areApart_settled (isSound_rawsOf items) []
  · rw [call_eq, ofText, left_ofTokens, readingFrom_eq_eventsFrom _ _ (plain_scan text.toList)]
    rfl

/-- A text in four parts between two tags, and a document that breaks off. -/
example :
    (List.range 6).map (ofText "<a> x<!-- -->&amp;<![CDATA[&lt;]]> <b/> y &z").call =
      [some (.ok (.start ⟨none, "a"⟩ [] [], 3)), some (.ok (.text "x&&lt;", 39)),
        some (.ok (.start ⟨none, "b"⟩ [] [], 39)), some (.ok (.stop ⟨none, "b"⟩, 39)),
        some (.error ⟨⟨42, .unclosedReference⟩, 44⟩), none] := by
  decide +kernel

end Reader

end Soap.Xml
