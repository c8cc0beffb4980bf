import Soap.Proofs.Xml.Name
import Soap.Xml.Event

/-!
# Reading on

What reading does with the next construct of a document, wherever it stands.
`Reads opened run cs events` says that `cs`, met inside the elements `opened` with the text `run`
behind the last tag, reads as `events`. There is one rule per construct, and each takes the
construct off the front of `cs`:

* a character of text, plain (`Reads.char`) or escaped (`Reads.escaped`), joins `run`;
* an instruction (`Reads.instruction`) leaves no trace;
* a tag (`Reads.startTag`, `Reads.endTag`) puts an event behind that of `run`.

Positions are quantified away: they say where a failure is, and there is none.
-/

namespace Soap.Xml

/-- The events of a reading that came to the end of its document. -/
def Reading.events? (r : Reading) : Option (List Event) :=
  match r.ending with
  | .done _ => some (r.events.map Prod.fst)
  | .failed _ => none

/-- Read `cs`, which stands at `pos` inside the elements `opened`, after the text `run`. -/
def readOn (opened : List (List Char)) (pos : Nat) (run cs : List Char) : Reading :=
  let tokens := scanFrom opened pos (.text []) cs
  eventsFrom tokens.ending run tokens.items

/-- Inside the elements `opened` and after the text `run`, `cs` reads as `events`. -/
def Reads (opened : List (List Char)) (run cs : List Char) (events : List Event) : Prop :=
  ∀ pos, (readOn opened pos run cs).events? = some events

/-- The event of the text that was collected since the last tag. -/
def flushed (run : List Char) : List Event := (flush run 0).map Prod.fst

/-! ## Text -/

theorem map_fst_flush (run : List Char) (pos : Nat) :
    (flush run pos).map Prod.fst = flushed run := by
  unfold flushed flush
  split <;> rfl

@[simp] theorem flushed_nil : flushed [] = [] := rfl

/-- Events in front of a reading are in front of its events. -/
theorem Reading.events?_after (events : List Occurrence) (later : Reading) :
    (Reading.after events later).events? = later.events?.map (events.map Prod.fst ++ ·) := by
  unfold Reading.events? Reading.after
  cases later.ending <;> simp

/-- A token of text joins the run. -/
theorem eventsFrom_textToken (ending : Ending) (run pending : List Char) (stop : Nat)
    (rest : List Placed) :
    eventsFrom ending run (textToken pending stop ++ rest) =
      eventsFrom ending (run ++ pending.reverse) rest := by
  cases pending with
  | nil => simp [textToken]
  | cons c more => simp [textToken, eventsFrom]

/-- Scanning goes on in the state that a character leads to. -/
theorem scanFrom_cons {opened opened' : List (List Char)} {pos : Nat} {state state' : State}
    {c : Char} {rest : List Char} {items : List Placed}
    (h : step opened pos state c rest = .next state' opened' items) :
    scanFrom opened pos state (c :: rest) =
      { items := items ++ (scanFrom opened' (pos + c.utf8Size) state' rest).items
        ending := (scanFrom opened' (pos + c.utf8Size) state' rest).ending } := by
  simp only [scanFrom, h]

theorem step_text_lt (opened : List (List Char)) (pos : Nat) (p rest : List Char) :
    step opened pos (.text p) '<' rest = .next (.markup pos) opened (textToken p pos) := by
  simp [step]

theorem step_text_amp (opened : List (List Char)) (pos : Nat) (p rest : List Char) :
    step opened pos (.text p) '&' rest = .next (.reference pos []) opened (textToken p pos) := by
  simp [step]

theorem step_text_char (opened : List (List Char)) (pos : Nat) (p rest : List Char) {c : Char}
    (hlt : c ≠ '<') (hamp : c ≠ '&') :
    step opened pos (.text p) c rest = .next (.text (c :: p)) opened [] := by
  simp [step, hlt, hamp]

/-- Text that was scanned and not yet handed over counts like text that was. -/
theorem eventsFrom_pending (opened : List (List Char)) (run pending cs : List Char) (pos : Nat) :
    eventsFrom (scanFrom opened pos (.text pending) cs).ending run
        (scanFrom opened pos (.text pending) cs).items =
      readOn opened pos (run ++ pending.reverse) cs := by
  induction cs generalizing run pending pos with
  | nil =>
    simp only [readOn, scanFrom, finish]
    rw [← List.append_nil (textToken pending pos), eventsFrom_textToken]
    simp [textToken]
  | cons c rest ih =>
    -- Markup hands the pending text over on both sides; any other character joins it on both.
    by_cases hlt : c = '<'
    · subst hlt
      rw [readOn, scanFrom_cons (step_text_lt ..), scanFrom_cons (step_text_lt ..)]
      simp only [eventsFrom_textToken, List.reverse_nil, List.append_nil]
    by_cases hamp : c = '&'
    · subst hamp
      rw [readOn, scanFrom_cons (step_text_amp ..), scanFrom_cons (step_text_amp ..)]
      simp only [eventsFrom_textToken, List.reverse_nil, List.append_nil]
    · rw [readOn, scanFrom_cons (step_text_char _ _ _ _ hlt hamp),
        scanFrom_cons (step_text_char _ _ _ _ hlt hamp)]
      simp only [List.nil_append]
      rw [ih run (c :: pending), ih (run ++ pending.reverse) [c]]
      simp

/-- A character that is no markup is text. -/
theorem Reads.char {opened : List (List Char)} {run cs : List Char} {events : List Event} {c : Char}
    (hlt : c ≠ '<') (hamp : c ≠ '&') (h : Reads opened (run ++ [c]) cs events) :
    Reads opened run (c :: cs) events := by
  intro pos
  rw [readOn, scanFrom_cons (step_text_char _ _ _ _ hlt hamp)]
  simp only [List.nil_append]
  rw [eventsFrom_pending]
  exact h _

/-- At the end of the document, what was collected is the last event. -/
theorem Reads.done (opened : List (List Char)) (run : List Char) :
    Reads opened run [] (flushed run) := by
  intro pos
  simp [readOn, scanFrom, finish, textToken, eventsFrom, Reading.events?, map_fst_flush]

/-! ## References -/

/-- The characters of a reference's name are collected up to the semicolon. -/
theorem scanFrom_reference (opened : List (List Char)) (start : Nat) (read name rest : List Char)
    (hname : ∀ c ∈ name, c ≠ ';' ∧ c ≠ '&' ∧ c ≠ '<') (pos : Nat) :
    ∃ stop pos', scanFrom opened pos (.reference start read) (name ++ ';' :: rest) =
      { items := (.reference (read.reverse ++ name), stop) :: (scanFrom opened pos' (.text []) rest).items
        ending := (scanFrom opened pos' (.text []) rest).ending } := by
  induction name generalizing read pos with
  | nil =>
    have hstep : step opened pos (.reference start read) ';' rest =
        .next (.text []) opened [(.reference read.reverse, pos + ';'.utf8Size)] := by simp [step]
    refine ⟨pos + ';'.utf8Size, pos + ';'.utf8Size, ?_⟩
    rw [List.nil_append, scanFrom_cons hstep]
    simp
  | cons c more ih =>
    obtain ⟨hsemi, hamp, hlt⟩ := hname c (by simp)
    have hstep : step opened pos (.reference start read) c (more ++ ';' :: rest) =
        .next (.reference start (c :: read)) opened [] := by simp [step, hsemi, hamp, hlt]
    obtain ⟨stop, pos', hmore⟩ :=
      ih (c :: read) (fun d hd => hname d (by simp [hd])) (pos + c.utf8Size)
    refine ⟨stop, pos', ?_⟩
    rw [List.cons_append, scanFrom_cons hstep, hmore]
    simp

/-- A reference to a character is text. -/
theorem Reads.reference {opened : List (List Char)} {run cs : List Char} {events : List Event}
    (name : List Char) {c : Char}
    (hname : name.all (fun d => d != ';' && d != '&' && d != '<') = true)
    (hc : resolveReference name = some c) (h : Reads opened (run ++ [c]) cs events) :
    Reads opened run ('&' :: name ++ ';' :: cs) events := by
  intro pos
  have hplain : ∀ d ∈ name, d ≠ ';' ∧ d ≠ '&' ∧ d ≠ '<' := by simpa [and_assoc] using hname
  obtain ⟨stop, pos', hscan⟩ := scanFrom_reference opened pos [] name cs hplain (pos + '&'.utf8Size)
  rw [readOn, List.cons_append, scanFrom_cons (step_text_amp ..), hscan]
  simp only [eventsFrom_textToken, eventsFrom, List.reverse_nil, List.append_nil, List.nil_append,
    hc]
  exact h pos'

/-- A character reads back from its escaped form. -/
theorem Reads.escaped {opened : List (List Char)} {run cs : List Char} {events : List Event}
    (c : Char) (h : Reads opened (run ++ [c]) cs events) :
    Reads opened run (escapeChar c ++ cs) events := by
  unfold escapeChar
  split
  · next hc => exact Reads.reference "lt".toList (by decide) (by rw [hc]; decide) h
  split
  · next hc => exact Reads.reference "gt".toList (by decide) (by rw [hc]; decide) h
  split
  · next hc => exact Reads.reference "amp".toList (by decide) (by rw [hc]; decide) h
  split
  · next hc => exact Reads.reference "apos".toList (by decide) (by rw [hc]; decide) h
  split
  · next hc => exact Reads.reference "quot".toList (by decide) (by rw [hc]; decide) h
  · next hlt _ hamp _ _ => exact Reads.char hlt hamp h

/-- A text reads back from its escaped form. -/
theorem Reads.text {opened : List (List Char)} {run cs : List Char} {events : List Event}
    (content : List Char) (h : Reads opened (run ++ content) cs events) :
    Reads opened run (content.flatMap escapeChar ++ cs) events := by
  induction content generalizing run with
  | nil => simpa using h
  | cons c rest ih =>
    rw [List.flatMap_cons, List.append_assoc]
    exact Reads.escaped c (ih (by simpa using h))

/-! ## Documents -/

/-- A document without a byte order mark is read from its first character on. -/
theorem read_eq_readOn {text : String} (hmark : text.toList.head? ≠ some '\ufeff') :
    read text = readOn [] 0 [] text.toList := by
  unfold read scan
  split
  · next heq => exact absurd (by rw [heq]; rfl) hmark
  · rfl

/-- It is read as what it reads as. -/
theorem events?_read {text : String} {events : List Event} (h : Reads [] [] text.toList events)
    (hmark : text.toList.head? ≠ some '\ufeff') : (read text).events? = some events := by
  rw [read_eq_readOn hmark]
  exact h 0

end Soap.Xml
