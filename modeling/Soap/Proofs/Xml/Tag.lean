import Soap.Proofs.Xml.Attribute
import Soap.Proofs.Xml.Reading

/-!
# Reading tags

A tag runs to the first `>` outside quotes. `StaysInTag` says that a text does not hold it; names
and quoted values do not, so a start tag is read whole, with its attributes (`Reads.startTag`), and
an end tag closes the innermost element (`Reads.endTag`).
-/

namespace Soap.Xml

/-! ## Up to the closing bracket -/

/-- No character of the text, read in a tag with the given quote open, closes the tag. -/
def StaysInTag : (quote : Option Char) → List Char → Prop
  | _, [] => True
  | quote, c :: rest => ¬ (quote = none ∧ c = '>') ∧ StaysInTag (quoteStep quote c) rest

theorem staysInTag_append (quote : Option Char) (a b : List Char) :
    StaysInTag quote (a ++ b) ↔ StaysInTag quote a ∧ StaysInTag (a.foldl quoteStep quote) b := by
  induction a generalizing quote with
  | nil => simp [StaysInTag]
  | cons c rest ih => simp [StaysInTag, ih, and_assoc]

/-- Characters that neither quote nor close anything leave the quotation as it is. -/
theorem foldl_quoteStep_of_plain {cs : List Char} (h : ∀ c ∈ cs, c ≠ '\'' ∧ c ≠ '"' ∧ c ≠ '>') :
    cs.foldl quoteStep none = none ∧ StaysInTag none cs := by
  induction cs with
  | nil => exact ⟨rfl, trivial⟩
  | cons c rest ih =>
    obtain ⟨h1, h2, h3⟩ := h c (by simp)
    have hstep : quoteStep none c = none := by simp [quoteStep, h1, h2]
    have hrest := ih fun d hd => h d (by simp [hd])
    refine ⟨by rw [List.foldl_cons, hstep]; exact hrest.1, ?_, by rw [hstep]; exact hrest.2⟩
    simp [h3]

/-- Between double quotes, only a double quote is noticed. -/
theorem foldl_quoteStep_of_quoted {cs : List Char} (h : '"' ∉ cs) :
    cs.foldl quoteStep (some '"') = some '"' ∧ StaysInTag (some '"') cs := by
  induction cs with
  | nil => exact ⟨rfl, trivial⟩
  | cons c rest ih =>
    have hc : c ≠ '"' := fun e => h (by simp [e])
    have hstep : quoteStep (some '"') c = some '"' := by simp [quoteStep, hc]
    have hrest := ih fun hm => h (by simp [hm])
    exact ⟨by rw [List.foldl_cons, hstep]; exact hrest.1, by simp, by rw [hstep]; exact hrest.2⟩

/-- What stays in a tag is collected. -/
theorem scanFrom_tag (opened : List (List Char)) (start : Nat) {quote : Option Char}
    {cs : List Char} (h : StaysInTag quote cs) (content rest : List Char) (pos : Nat) :
    ∃ pos', scanFrom opened pos (.tag start quote content) (cs ++ rest) =
      scanFrom opened pos'
        (.tag start (cs.foldl quoteStep quote) (cs.reverse ++ content)) rest := by
  induction cs generalizing quote content pos with
  | nil => exact ⟨pos, rfl⟩
  | cons c more ih =>
    obtain ⟨hc, hmore⟩ := h
    obtain ⟨pos', hscan⟩ := ih hmore (c :: content) (pos + c.utf8Size)
    have hstep : step opened pos (.tag start quote content) c (more ++ rest) =
        .next (.tag start (quoteStep quote c) (c :: content)) opened [] := by
      simp only [step, tagStep, if_neg hc]
    refine ⟨pos', ?_⟩
    rw [List.cons_append, scanFrom_cons hstep, hscan]
    simp

/-- What follows a `<` is collected as a tag, unless it is markup of another kind. -/
theorem scanFrom_markup_begun (opened : List (List Char)) (start : Nat) (first : Char) (more : List Char)
    (hbang : first ≠ '!') (hmark : first ≠ '?') (hstays : StaysInTag none (first :: more)) (rest : List Char)
    (pos : Nat) :
    ∃ pos', scanFrom opened pos (.markup start) (first :: more ++ rest) =
      scanFrom opened pos' (.tag start ((first :: more).foldl quoteStep none) (first :: more).reverse) rest := by
  have hopen : first ≠ '>' := fun e => hstays.1 ⟨rfl, e⟩
  have hfirst : step opened pos (.markup start) first (more ++ rest) =
      .next (.tag start (quoteStep none first) [first]) opened [] := by
    simp [step, tagStep, hbang, hmark, hopen]
  obtain ⟨pos', hscan⟩ := scanFrom_tag opened start hstays.2 [first] rest (pos + first.utf8Size)
  refine ⟨pos', ?_⟩
  rw [List.cons_append, scanFrom_cons hfirst, hscan, List.foldl_cons, List.reverse_cons]
  simp only [List.nil_append]

/-- A tag is scanned to its closing bracket, where it is one token. -/
theorem scanFrom_markup (opened : List (List Char)) {opened' : List (List Char)} (start : Nat) (first : Char)
    (more : List Char) {token : Token} (hbang : first ≠ '!') (hmark : first ≠ '?')
    (hstays : StaysInTag none (first :: more)) (hclosed : (first :: more).foldl quoteStep none = none)
    (hclose : ∀ stop, closeTag opened start stop (first :: more) =
      .next (.text []) opened' [(token, stop)])
    (rest : List Char) (pos : Nat) :
    ∃ stop, scanFrom opened pos (.markup start) (first :: more ++ '>' :: rest) =
      { items := (token, stop) :: (scanFrom opened' stop (.text []) rest).items
        ending := (scanFrom opened' stop (.text []) rest).ending } := by
  obtain ⟨pos', hscan⟩ := scanFrom_markup_begun opened start first more hbang hmark hstays ('>' :: rest) pos
  have hlast : step opened pos' (.tag start none (first :: more).reverse) '>' rest =
      .next (.text []) opened' [(token, pos' + '>'.utf8Size)] := by
    simpa [step, tagStep] using hclose _
  refine ⟨pos' + '>'.utf8Size, ?_⟩
  rw [hscan, hclosed, scanFrom_cons hlast]
  simp

/-! ## End tags -/

theorem endName_of_last {name : List Char} (h : ∀ c ∈ name, isSpace c = false) :
    endName name = name := by
  unfold endName
  have hdrop : name.reverse.dropWhile isSpace = name.reverse := by
    cases hr : name.reverse with
    | nil => rfl
    | cons c more =>
      have hc : c ∈ name := List.mem_reverse.mp (by simp [hr])
      simp [h c hc]
  rw [hdrop]
  cases hr : name.reverse with
  | nil => rfl
  | cons c more => simp [← hr]

/-- The characters of a tag stay in it, and open no quote. -/
theorem IsTag.quotes {tag : List Char} (h : IsTag tag) :
    tag.foldl quoteStep none = none ∧ StaysInTag none tag :=
  foldl_quoteStep_of_plain fun c hc =>
    have hne := ne_special_of_isTagChar (h.chars c hc)
    ⟨hne '\'' (by decide), hne '"' (by decide), hne '>' (by decide)⟩

/-- A token that becomes one event puts it behind the event of the text before it. -/
theorem events?_of_event {opened : List (List Char)} {run cs : List Char} {events : List Event}
    (event : Event) (pos : Nat) (h : Reads opened [] cs events) :
    (Reading.after (flush run pos ++ [(event, pos)]) (readOn opened pos [] cs)).events? =
      some (flushed run ++ event :: events) := by
  rw [Reading.events?_after, h pos]
  simp [map_fst_flush]

/-- The end tag of the innermost element closes it. -/
theorem Reads.endTag {opened : List (List Char)} {tag cs : List Char} {events : List Event}
    (htag : IsTag tag) (run : List Char) (h : Reads opened [] cs events) :
    Reads (tag :: opened) run ('<' :: '/' :: tag ++ '>' :: cs)
      (flushed run ++ .stop (QName.parse (String.ofList tag)) :: events) := by
  intro pos
  obtain ⟨hclosed, hstays⟩ := htag.quotes
  have hslash : quoteStep none '/' = none := by decide
  have hname : endName tag = tag :=
    endName_of_last fun c hc => isSpace_of_isTagChar (htag.chars c hc)
  have hclose : ∀ stop, closeTag (tag :: opened) pos stop ('/' :: tag) =
      .next (.text []) opened [(.endTag tag, stop)] := fun stop => by simp [closeTag, hname]
  obtain ⟨stop, hscan⟩ := scanFrom_markup (tag :: opened) pos '/' tag (by decide) (by decide)
    ⟨by simp, by rw [hslash]; exact hstays⟩ (by rw [List.foldl_cons, hslash, hclosed]) hclose cs
    (pos + '<'.utf8Size)
  rw [readOn, List.cons_append, scanFrom_cons (step_text_lt ..), hscan]
  simp only [eventsFrom_textToken, List.reverse_nil, List.append_nil, eventsFrom]
  exact events?_of_event _ stop h

/-- A written attribute opens and closes a quotation. -/
theorem quotes_attributeChars {a : String × String} (hname : IsTag a.1.toList)
    (hvalue : '"' ∉ a.2.toList) :
    (attributeChars a).foldl quoteStep none = none ∧ StaysInTag none (attributeChars a) := by
  have hname' := hname.quotes
  have hvalue' := foldl_quoteStep_of_quoted hvalue
  have hblank : quoteStep none ' ' = none := by decide
  have hequals : quoteStep none '=' = none := by decide
  have hopen : quoteStep none '"' = some '"' := by decide
  have hclose : quoteStep (some '"') '"' = none := by decide
  constructor
  · simp [attributeChars, List.foldl_append, hname'.1, hvalue'.1, hblank, hequals, hopen, hclose]
  · simp [attributeChars, StaysInTag, staysInTag_append, hname'.1, hname'.2, hvalue'.1, hvalue'.2,
      hblank, hequals, hopen]

theorem quotes_attributes {attributes : List (String × String)} (hnames : ∀ a ∈ attributes, IsTag a.1.toList)
    (hvalues : ∀ a ∈ attributes, '"' ∉ a.2.toList) :
    (attributes.flatMap attributeChars).foldl quoteStep none = none ∧
      StaysInTag none (attributes.flatMap attributeChars) := by
  induction attributes with
  | nil => exact ⟨rfl, trivial⟩
  | cons a rest ih =>
    obtain ⟨hname, hrestNames⟩ := List.forall_mem_cons.mp hnames
    obtain ⟨hvalue, hrestValues⟩ := List.forall_mem_cons.mp hvalues
    have ha := quotes_attributeChars hname hvalue
    have hrest := ih hrestNames hrestValues
    rw [List.flatMap_cons, List.foldl_append, staysInTag_append, ha.1]
    exact ⟨hrest.1, ha.2, hrest.2⟩

/-! ## Start tags -/

/-- The event of a start tag with the given attributes. -/
def openEvent (tag : String) (attributes : List (String × String)) : Event :=
  .start (QName.parse tag) (filed attributes).1 (filed attributes).2

/-- A name in a tag ends before a blank. -/
theorem startName_append {tag rest : List Char} (htag : IsTag tag) (hrest : ∀ c ∈ rest.head?, isSpace c = true) :
    startName (tag ++ rest) = tag := by
  have hplain : ∀ c ∈ tag, (!isSpace c) = true := fun c hc => by
    simp [isSpace_of_isTagChar (htag.chars c hc)]
  unfold startName Text.before
  rw [List.takeWhile_append_of_pos hplain]
  cases rest with
  | nil => simp
  | cons c more => simp [hrest c rfl]

theorem startName_written {tag : List Char} (htag : IsTag tag)
    (attributes : List (String × String)) :
    startName (tag ++ attributes.flatMap attributeChars) = tag := by
  apply startName_append htag
  cases attributes with
  | nil => simp
  | cons a rest => simp [attributeChars, isSpace]

theorem startEvent_written {tag : String} {attributes : List (String × String)}
    (htag : IsTag tag.toList) (h : AreReadable attributes) :
    startEvent (tag.toList ++ attributes.flatMap attributeChars) =
      .ok (QName.parse tag, openEvent tag attributes) := by
  have hraw : rawAttributes (tag.toList ++ attributes.flatMap attributeChars) =
      { items := attributes.map fun a => (a.1.toList, a.2.toList), error := none } := by
    simp only [rawAttributes, startName_written htag, List.drop_left]
    exact rawAttributesFrom_written h [] (fun _ _ => rfl) _
  have hfiled := fileAttributes_of_readable (fun a ha => (h.values a ha).2) ([], [])
  simp only [startEvent, startName_written htag, hraw, hfiled, String.ofList_toList]
  rfl

/-- Attributes end in a quote. -/
theorem getLast?_attributes {attributes : List (String × String)} (h : attributes ≠ []) :
    (attributes.flatMap attributeChars).getLast? = some '"' := by
  obtain ⟨init, a, rfl⟩ := (List.eq_nil_or_concat attributes).resolve_left h
  have ha : (attributeChars a).getLast? = some '"' := List.getLast?_concat
  rw [List.concat_eq_append, List.flatMap_append, List.flatMap_singleton, List.getLast?_append, ha]
  rfl

/-- A start tag is not taken for an end tag or for that of an empty element. -/
theorem closeTag_written (opened : List (List Char)) {tag : List Char} (htag : IsTag tag)
    (attributes : List (String × String)) (start stop : Nat) :
    closeTag opened start stop (tag ++ attributes.flatMap attributeChars) =
      .next (.text []) (tag :: opened)
        [(.startTag (tag ++ attributes.flatMap attributeChars), stop)] := by
  have hslash : ∀ c ∈ tag, c ≠ '/' := fun c hc =>
    ne_special_of_isTagChar (htag.chars c hc) '/' (by decide)
  -- It begins with a name, and ends in the name or in the quote of its last attribute.
  have hfirst : ∀ body, tag ++ attributes.flatMap attributeChars ≠ '/' :: body := by
    intro body e
    cases hcut : tag with
    | nil => exact htag.ne_nil hcut
    | cons c more =>
      rw [hcut, List.cons_append, List.cons.injEq] at e
      exact hslash c (by simp [hcut]) e.1
  have hlast : ∀ body, (tag ++ attributes.flatMap attributeChars).reverse ≠ '/' :: body := by
    intro body e
    have hget := congrArg List.head? e
    rw [List.head?_reverse, List.head?_cons, List.getLast?_append] at hget
    by_cases hnone : attributes = []
    · rw [hnone, List.flatMap_nil, List.getLast?_nil, Option.none_or] at hget
      exact hslash '/' (List.mem_of_getLast? hget) rfl
    · rw [getLast?_attributes hnone, Option.some_or] at hget
      cases hget
  have hname := startName_written htag attributes
  unfold closeTag
  split
  · next body e => exact absurd e (hfirst body)
  · split
    · next body e => exact absurd e (hlast body)
    · rw [hname]

/-- A tag with quoted attributes is scanned whole, and what it says decides how the reading goes on. -/
theorem readOn_startTag (opened : List (List Char)) {tag : List Char} {attributes : List (String × String)}
    (htag : IsTag tag) (hnames : ∀ a ∈ attributes, IsTag a.1.toList) (hvalues : ∀ a ∈ attributes, '"' ∉ a.2.toList)
    (run cs : List Char) (pos : Nat) :
    ∃ stop, readOn opened pos run ('<' :: (tag ++ attributes.flatMap attributeChars) ++ '>' :: cs) =
      match startEvent (tag ++ attributes.flatMap attributeChars) with
      | .error cause => Reading.fail stop cause
      | .ok (_, event) => Reading.after (flush run stop ++ [(event, stop)]) (readOn (tag :: opened) stop [] cs) := by
  obtain ⟨hclosed, hstays⟩ := htag.quotes
  obtain ⟨hclosed', hstays'⟩ := quotes_attributes hnames hvalues
  have hclose := closeTag_written opened htag attributes pos
  -- The first character is read before it is clear that this is a tag.
  cases hcut : tag with
  | nil => exact absurd hcut htag.ne_nil
  | cons first more =>
    have hne := ne_special_of_isTagChar (htag.chars first (by simp [hcut]))
    rw [hcut] at hclosed hstays hclose
    obtain ⟨stop, hscan⟩ :=
      scanFrom_markup opened pos first (more ++ attributes.flatMap attributeChars)
      (hne '!' (by decide)) (hne '?' (by decide))
      (by rw [← List.cons_append, staysInTag_append, hclosed]; exact ⟨hstays, hstays'⟩)
      (by rw [← List.cons_append, List.foldl_append, hclosed, hclosed']) hclose cs (pos + '<'.utf8Size)
    rw [← List.cons_append] at hscan
    refine ⟨stop, ?_⟩
    rw [readOn, List.cons_append, scanFrom_cons (step_text_lt ..), hscan]
    simp only [eventsFrom_textToken, List.reverse_nil, List.append_nil, eventsFrom]
    rfl

/-- A start tag opens an element. -/
theorem Reads.startTag {opened : List (List Char)} {tag : String}
    {attributes : List (String × String)} {cs : List Char} {events : List Event}
    (htag : IsTag tag.toList) (hatt : AreReadable attributes) (run : List Char)
    (h : Reads (tag.toList :: opened) [] cs events) :
    Reads opened run ('<' :: (tag.toList ++ attributes.flatMap attributeChars) ++ '>' :: cs)
      (flushed run ++ openEvent tag attributes :: events) := by
  intro pos
  obtain ⟨stop, hread⟩ :=
    readOn_startTag opened htag hatt.names (fun a ha => (hatt.values a ha).1) run cs pos
  rw [hread, startEvent_written htag hatt]
  exact events?_of_event _ stop h

/-! ## Instructions -/

/-- What stands in an instruction is collected up to its end. -/
theorem scanFrom_instruction (opened : List (List Char)) (start : Nat) {body : List Char}
    (h : '>' ∉ body) (read rest : List Char) (hread : read ≠ []) (pos : Nat) :
    ∃ stop, scanFrom opened pos (.instruction start read) (body ++ '?' :: '>' :: rest) =
      { items := (.other, stop) :: (scanFrom opened stop (.text []) rest).items
        ending := (scanFrom opened stop (.text []) rest).ending } := by
  induction body generalizing read pos with
  | nil =>
    have hmark : step opened pos (.instruction start read) '?' ('>' :: rest) =
        .next (.instruction start ('?' :: read)) opened [] := by simp [step]
    have hclose : step opened (pos + '?'.utf8Size) (.instruction start ('?' :: read)) '>' rest =
        .next (.text []) opened [(.other, pos + '?'.utf8Size + '>'.utf8Size)] := by
      cases read with
      | nil => exact absurd rfl hread
      | cons => simp [step]
    refine ⟨pos + '?'.utf8Size + '>'.utf8Size, ?_⟩
    rw [List.nil_append, scanFrom_cons hmark, scanFrom_cons hclose]
    simp
  | cons c more ih =>
    have hc : c ≠ '>' := fun e => h (by simp [e])
    have hstep : step opened pos (.instruction start read) c (more ++ '?' :: '>' :: rest) =
        .next (.instruction start (c :: read)) opened [] := by simp [step, hc]
    obtain ⟨stop, hmore⟩ := ih (fun hm => h (by simp [hm])) (c :: read) (by simp) (pos + c.utf8Size)
    exact ⟨stop, by rw [List.cons_append, scanFrom_cons hstep, hmore]; simp⟩

/-- Behind an instruction the reading goes on as before it. -/
theorem readOn_instruction (opened : List (List Char)) {body : List Char} (hbody : '>' ∉ body) (run cs : List Char)
    (pos : Nat) : ∃ stop, readOn opened pos run ('<' :: '?' :: body ++ '?' :: '>' :: cs) = readOn opened stop run cs := by
  have hmark : step opened (pos + '<'.utf8Size) (.markup pos) '?' (body ++ '?' :: '>' :: cs) =
      .next (.instruction pos ['?']) opened [] := by simp [step]
  obtain ⟨stop, hscan⟩ := scanFrom_instruction opened pos hbody ['?'] cs (by simp)
    (pos + '<'.utf8Size + '?'.utf8Size)
  refine ⟨stop, ?_⟩
  rw [readOn, List.cons_append, List.cons_append, scanFrom_cons (step_text_lt ..),
    scanFrom_cons hmark, hscan]
  simp only [eventsFrom_textToken, List.reverse_nil, List.append_nil, List.nil_append, eventsFrom]
  rfl

/-- An instruction is passed over. -/
theorem Reads.instruction {opened : List (List Char)} {body run cs : List Char}
    {events : List Event} (hbody : '>' ∉ body) (h : Reads opened run cs events) :
    Reads opened run ('<' :: '?' :: body ++ '?' :: '>' :: cs) events := by
  intro pos
  obtain ⟨stop, hread⟩ := readOn_instruction opened hbody run cs pos
  rw [hread]
  exact h stop

end Soap.Xml
