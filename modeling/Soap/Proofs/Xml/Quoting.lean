import Soap.Proofs.OrderedMap
import Soap.Proofs.Text.Split
import Soap.Proofs.Xml.Nesting
import Soap.Proofs.Xml.Tag

/-!
# Values that are not escaped

A value that is written between double quotes as it is, is read up to the first quote in it, and the references in
what is read are replaced. Neither makes it longer, so a declaration that is read as it was written holds no quote
and no reference (`declared_of_startEvent`, `unescape_eq_self_iff`).
-/

namespace Soap.Xml

/-! ## References -/

/-- Replacing references does not make a text longer. -/
theorem length_le_of_unescapeFrom {total pos : Nat} {entity? : Option (Nat × List Char)} {cs out : List Char}
    (h : unescapeFrom total pos entity? cs = .ok out) : out.length ≤ cs.length := by
  induction cs generalizing pos entity? out with
  | nil =>
    cases entity? with
    | none =>
      obtain rfl := Except.ok.inj h
      exact Nat.le_refl _
    | some => cases h
  | cons c rest ih =>
    cases entity? with
    | none =>
      rw [unescapeFrom] at h
      split at h
      · exact Nat.le_succ_of_le (ih h)
      · obtain ⟨later, hlater, rfl⟩ := map_eq_ok h
        exact Nat.succ_le_succ (ih hlater)
    | some entity =>
      obtain ⟨start, name⟩ := entity
      rw [unescapeFrom] at h
      split at h
      · cases h
      split at h
      · obtain ⟨d, -, h⟩ := bind_eq_ok h
        obtain ⟨later, hlater, h⟩ := bind_eq_ok h
        obtain rfl := Except.ok.inj h
        exact Nat.succ_le_succ (ih hlater)
      · exact Nat.le_succ_of_le (ih h)

/-- Only a text without references stands for itself. -/
theorem not_mem_of_unescapeFrom_eq_self {total pos : Nat} {cs : List Char}
    (h : unescapeFrom total pos none cs = .ok cs) : '&' ∉ cs := by
  induction cs generalizing pos with
  | nil => simp
  | cons c rest ih =>
    rw [unescapeFrom] at h
    split at h
    · have hlength := length_le_of_unescapeFrom h
      rw [List.length_cons] at hlength
      omega
    · next hc =>
      obtain ⟨later, hlater, heq⟩ := map_eq_ok h
      obtain rfl := (List.cons.inj heq).2
      simpa [Ne.symm hc] using ih hlater

theorem unescape_eq_self_iff {cs : List Char} : unescape cs = .ok cs ↔ '&' ∉ cs :=
  ⟨not_mem_of_unescapeFrom_eq_self, fun h => unescapeFrom_of_not_mem h ..⟩

/-! ## Keys -/

/-- The key whose value is being read. -/
def AttributeState.key? : AttributeState → Option (List Char)
  | .afterEquals name | .value name _ _ => some name
  | .between | .key _ _ | .afterKey _ _ => none

/-- No key is read again. -/
theorem rawAttributesFrom_new (seen : List (List Char × Nat)) (pos : Nat) (state : AttributeState) (cs : List Char) :
    ∀ item ∈ (rawAttributesFrom seen pos state cs).items,
      OrderedMap.get? seen item.1 = none ∨ state.key? = some item.1 := by
  induction cs generalizing seen pos state with
  | nil => cases state <;> simp [rawAttributesFrom]
  | cons c rest ih =>
    have hequals : ∀ {start name next}, keyState seen start name = .ok next →
        ∀ item ∈ (rawAttributesFrom ((name, start) :: seen) (pos + c.utf8Size) next rest).items,
          OrderedMap.get? seen item.1 = none := by
      intro start name next hnext item hitem
      unfold keyState at hnext
      split at hnext
      · cases hnext
      · next hname =>
        obtain rfl := Except.ok.inj hnext
        rcases ih _ _ _ item hitem with hitem | hkey
        · rw [OrderedMap.get?] at hitem
          split at hitem
          · cases hitem
          · exact hitem
        · obtain rfl := Option.some.inj hkey
          exact hname
    intro item hitem
    cases state with
    | between =>
      rw [rawAttributesFrom] at hitem
      split at hitem
      · exact ih _ _ .between item hitem
      · exact ih _ _ (.key pos [c]) item hitem
    | key start name =>
      rw [rawAttributesFrom] at hitem
      split at hitem
      · dsimp only at hitem
        split at hitem
        · cases hitem
        · next hnext => exact .inl (hequals hnext item hitem)
      split at hitem
      · exact ih _ _ (.afterKey start name) item hitem
      · exact ih _ _ (.key start (c :: name)) item hitem
    | afterKey start name =>
      rw [rawAttributesFrom] at hitem
      split at hitem
      · exact ih _ _ (.afterKey start name) item hitem
      split at hitem
      · dsimp only at hitem
        split at hitem
        · cases hitem
        · next hnext => exact .inl (hequals hnext item hitem)
      · cases hitem
    | afterEquals name =>
      rw [rawAttributesFrom] at hitem
      split at hitem
      · exact ih _ _ (.afterEquals name) item hitem
      split at hitem
      · exact ih _ _ (.value name c []) item hitem
      · cases hitem
    | value name quote run =>
      rw [rawAttributesFrom] at hitem
      split at hitem
      · rcases List.mem_cons.mp hitem with rfl | hitem
        · exact .inr rfl
        · exact .inl ((ih _ _ .between item hitem).resolve_right (by simp [AttributeState.key?]))
      · exact ih _ _ (.value name quote (c :: run)) item hitem

/-- Of attributes whose values are quoted nothing else is read than these. -/
theorem key_of_mem_rawAttributesFrom {attributes : List (String × String)} (hnames : ∀ a ∈ attributes, IsTag a.1.toList)
    (hvalues : ∀ a ∈ attributes, '"' ∉ a.2.toList) (seen : List (List Char × Nat)) (pos : Nat) :
    ∀ item ∈ (rawAttributesFrom seen pos .between (attributes.flatMap attributeChars)).items,
      ∃ a ∈ attributes, item.1 = a.1.toList := by
  induction attributes generalizing seen pos with
  | nil => simp [rawAttributesFrom]
  | cons a rest ih =>
    obtain ⟨hname, hrestNames⟩ := List.forall_mem_cons.mp hnames
    obtain ⟨hvalue, hrestValues⟩ := List.forall_mem_cons.mp hvalues
    rw [List.flatMap_cons]
    cases hseen : OrderedMap.get? seen a.1.toList with
    | some previous =>
      rw [rawAttributesFrom_known hname (by simp [hseen])]
      simp
    | none =>
      obtain ⟨start, pos', hread⟩ := rawAttributesFrom_attribute hname hvalue hseen (rest.flatMap attributeChars) pos
      rw [hread]
      intro item hitem
      rcases List.mem_cons.mp hitem with rfl | hitem
      · exact ⟨a, List.mem_cons_self, rfl⟩
      · obtain ⟨b, hb, hkey⟩ := ih hrestNames hrestValues _ _ item hitem
        exact ⟨b, List.mem_cons_of_mem _ hb, hkey⟩

/-! ## Filing -/

theorem fileAttributes_cons (item : List Char × List Char) (rest : List (List Char × List Char))
    (attributes declarations : OrderedMap String String) :
    fileAttributes (item :: rest) attributes declarations = (unescape item.2).bind fun value =>
      fileAttributes rest (fileAttribute attributes declarations item.1 value).1
        (fileAttribute attributes declarations item.1 value).2 := rfl

theorem fileAttributes_append (raw more : List (List Char × List Char))
    (attributes declarations : OrderedMap String String) :
    fileAttributes (raw ++ more) attributes declarations =
      (fileAttributes raw attributes declarations).bind fun m => fileAttributes more m.1 m.2 := by
  induction raw generalizing attributes declarations with
  | nil => rfl
  | cons item rest ih =>
    rw [List.cons_append, fileAttributes_cons, fileAttributes_cons]
    cases unescape item.2 with
    | error => rfl
    | ok value => exact ih _ _

variable {attributes declarations attributes' declarations' : OrderedMap String String} {name : String}

theorem fileAttribute_declaration (name : String) (value : List Char) :
    fileAttribute attributes declarations ("xmlns:" ++ name).toList value =
      (attributes, declarations.insert name (String.ofList value)) := by
  have hkey : "xmlns:".toList ++ name.toList ≠ "xmlns".toList := by simp
  rw [String.toList_append, fileAttribute, if_neg hkey, Text.afterLead?_append]
  simp only [String.ofList_toList]

/-- Declarations leave the attributes as they are. -/
theorem fileAttributes_of_declarations {raw : List (List Char × List Char)}
    (hraw : ∀ item ∈ raw, ∃ name : String, item.1 = ("xmlns:" ++ name).toList)
    (h : fileAttributes raw attributes declarations = .ok (attributes', declarations')) : attributes' = attributes := by
  induction raw generalizing declarations with
  | nil => exact (Prod.mk.inj (Except.ok.inj h)).1.symm
  | cons item rest ih =>
    obtain ⟨⟨name, hname⟩, hrest⟩ := List.forall_mem_cons.mp hraw
    rw [fileAttributes_cons] at h
    obtain ⟨value, -, h⟩ := bind_eq_ok h
    rw [hname, fileAttribute_declaration] at h
    exact ih hrest h

/-- An attribute that does not declare a prefix leaves its namespace as it is. -/
theorem get?_fileAttribute_of_ne (hname : name ≠ "") {key : List Char} (hkey : key ≠ ("xmlns:" ++ name).toList)
    (value : List Char) :
    (fileAttribute attributes declarations key value).2.get? name = declarations.get? name := by
  rw [fileAttribute]
  split
  · exact OrderedMap.get?_insert_of_ne _ _ (Ne.symm hname)
  split
  · next found hfound =>
    refine OrderedMap.get?_insert_of_ne _ _ ?_
    rintro rfl
    apply hkey
    simp [Text.afterLead?_eq_some.mp hfound, String.toList_append]
  · rfl

theorem get?_fileAttributes_of_ne (hname : name ≠ "") {raw : List (List Char × List Char)}
    (hraw : ∀ item ∈ raw, item.1 ≠ ("xmlns:" ++ name).toList)
    (h : fileAttributes raw attributes declarations = .ok (attributes', declarations')) :
    declarations'.get? name = declarations.get? name := by
  induction raw generalizing attributes declarations with
  | nil =>
    obtain rfl := (Prod.mk.inj (Except.ok.inj h)).2
    rfl
  | cons item rest ih =>
    rw [fileAttributes_cons] at h
    obtain ⟨value, -, h⟩ := bind_eq_ok h
    obtain ⟨hitem, hrest⟩ := List.forall_mem_cons.mp hraw
    rw [ih hrest h, get?_fileAttribute_of_ne hname hitem]

/-- A prefix that is declared once is filed with the value of its declaration, its references replaced. -/
theorem get?_fileAttributes_declared (hname : name ≠ "") {raw later : List (List Char × List Char)}
    {value : List Char} (hlater : ∀ item ∈ later, item.1 ≠ ("xmlns:" ++ name).toList)
    (h : fileAttributes (raw ++ (("xmlns:" ++ name).toList, value) :: later) attributes declarations =
      .ok (attributes', declarations')) :
    ∃ text, unescape value = .ok text ∧ declarations'.get? name = some (String.ofList text) := by
  rw [fileAttributes_append] at h
  obtain ⟨m, -, h⟩ := bind_eq_ok h
  rw [fileAttributes_cons] at h
  obtain ⟨text, htext, h⟩ := bind_eq_ok h
  refine ⟨text, htext, ?_⟩
  rw [get?_fileAttributes_of_ne hname hlater h, fileAttribute_declaration]
  exact OrderedMap.get?_insert_self ..

/-! ## Tags -/

variable {tag rest : List Char} {before : List (String × String)} {value : String}

/-- A tag that begins with quoted attributes, the last of which declares a prefix, declares for it what the value
stands for, whatever follows. -/
theorem declared_of_startEvent (htag : IsTag tag) (hname : name ≠ "")
    (h : AreQuoted (before ++ [("xmlns:" ++ name, value)])) {q q' : QName}
    (hevent : startEvent (tag ++ ((before ++ [("xmlns:" ++ name, value)]).flatMap attributeChars ++ rest)) =
      .ok (q, .start q' attributes declarations)) :
    ∃ text, unescape value.toList = .ok text ∧ declarations.get? name = some (String.ofList text) := by
  let written := before ++ [("xmlns:" ++ name, value)]
  have hblank : ∀ c ∈ (written.flatMap attributeChars ++ rest).head?, isSpace c = true := by
    cases hbefore : before <;> simp [written, hbefore, attributeChars, isSpace]
  obtain ⟨-, _, _, hfiled, hstart⟩ := startEvent_eq_ok hevent
  obtain ⟨-, rfl, rfl⟩ := Event.start.inj hstart
  rw [rawAttributes, startName_append htag hblank, List.drop_left] at hfiled
  obtain ⟨seen, pos, hread, hseen⟩ := rawAttributesFrom_quoted h [] (fun _ _ => rfl) rest (Utf8.length tag)
  rw [hread, List.map_append, List.append_assoc] at hfiled
  refine get?_fileAttributes_declared hname (fun item hitem => ?_) hfiled
  have hnew := (rawAttributesFrom_new seen pos .between rest item hitem).resolve_right (by simp [AttributeState.key?])
  exact ((hseen _ hnew).2 _ (List.mem_append_right _ (List.mem_singleton_self _))).symm

/-- A tag whose attributes all declare prefixes opens an element without attributes of its own, if it can be read. -/
theorem startEvent_declarations (htag : IsTag tag) {attributes : List (String × String)}
    (hnames : ∀ a ∈ attributes, IsTag a.1.toList) (hvalues : ∀ a ∈ attributes, '"' ∉ a.2.toList)
    (hdeclare : ∀ a ∈ attributes, ∃ name, a.1 = "xmlns:" ++ name) {q : QName} {event : Event}
    (hevent : startEvent (tag ++ attributes.flatMap attributeChars) = .ok (q, event)) :
    ∃ declarations, event = .start (QName.parse (String.ofList tag)) [] declarations := by
  obtain ⟨rfl, filed, declarations, hfiled, rfl⟩ := startEvent_eq_ok hevent
  rw [rawAttributes, startName_written htag, List.drop_left] at hfiled
  have hnone : filed = [] := by
    apply fileAttributes_of_declarations (fun item hitem => ?_) hfiled
    obtain ⟨a, ha, hkey⟩ := key_of_mem_rawAttributesFrom hnames hvalues [] _ item hitem
    obtain ⟨name, hname⟩ := hdeclare a ha
    exact ⟨name, by rw [hkey, hname]⟩
  rw [startName_written htag, hnone]
  exact ⟨declarations, rfl⟩

/-! ## The first event -/

/-- A tag that is complete begins with the part of it that is known, if that ends in a quote. -/
theorem closeTag_begun (opened : List (List Char)) (start stop : Nat) {base : List Char}
    (hfirst : base.head? ≠ some '/') (hlast : base.getLast? = some '"') (more : List Char) :
    ∃ tail opened', closeTag opened start stop (base ++ more) =
        .next (.text []) opened' [(.startTag (base ++ tail), stop)] ∨
      closeTag opened start stop (base ++ more) = .next (.text []) opened' [(.emptyTag (base ++ tail), stop)] := by
  obtain ⟨init, rfl⟩ := List.getLast?_eq_some_iff.mp hlast
  unfold closeTag
  split
  · next body hbody =>
    cases init <;> simp_all
  split
  · next body hbody =>
    -- The slash stands behind the quote.
    cases hmore : more.reverse with
    | nil =>
      rw [List.reverse_append, hmore] at hbody
      simp at hbody
    | cons c tail =>
      rw [List.reverse_append, hmore, List.cons_append, List.cons.injEq] at hbody
      refine ⟨tail.reverse, opened, .inr ?_⟩
      rw [← hbody.2, List.reverse_append, List.reverse_reverse]
  · exact ⟨more, _, .inl rfl⟩

/-- What is scanned inside of a tag is cut off, or it comes to a tag that begins with what is known of it. -/
theorem scanFrom_begun (opened : List (List Char)) (start : Nat) {base : List Char}
    (hfirst : base.head? ≠ some '/') (hlast : base.getLast? = some '"') (quote : Option Char) (more cs : List Char)
    (pos : Nat) :
    (scanFrom opened pos (.tag start quote (base ++ more).reverse) cs).items = [] ∨
    ∃ tail stop later,
      (scanFrom opened pos (.tag start quote (base ++ more).reverse) cs).items =
          (.startTag (base ++ tail), stop) :: later ∨
        (scanFrom opened pos (.tag start quote (base ++ more).reverse) cs).items =
          (.emptyTag (base ++ tail), stop) :: later := by
  induction cs generalizing quote more pos with
  | nil => cases quote <;> exact .inl rfl
  | cons c rest ih =>
    by_cases hclose : quote = none ∧ c = '>'
    · have hstep : step opened pos (.tag start quote (base ++ more).reverse) c rest =
          closeTag opened start (pos + c.utf8Size) (base ++ more) := by
        simp only [step, tagStep, if_pos hclose, List.reverse_reverse]
      right
      obtain ⟨tail, opened', htag | htag⟩ := closeTag_begun opened start (pos + c.utf8Size) hfirst hlast more
      · rw [scanFrom_cons (hstep.trans htag)]
        exact ⟨tail, _, _, .inl rfl⟩
      · rw [scanFrom_cons (hstep.trans htag)]
        exact ⟨tail, _, _, .inr rfl⟩
    · have hstep : step opened pos (.tag start quote (base ++ more).reverse) c rest =
          .next (.tag start (quoteStep quote c) (base ++ (more ++ [c])).reverse) opened [] := by
        simp [step, tagStep, hclose]
      rw [scanFrom_cons hstep]
      exact ih _ _ _

theorem events_of_nothing (ending : Ending) : (eventsFrom ending [] []).events = [] := by
  cases ending <;> rfl

/-- A tag that opens an element gives the first event, or none is given. -/
theorem startEvent_of_opening {ending : Ending} {token : Token} {content : List Char} {stop : Nat}
    (htoken : token = .startTag content ∨ token = .emptyTag content) {items : List Placed} {event : Occurrence}
    {later : List Occurrence} (h : (eventsFrom ending [] ((token, stop) :: items)).events = event :: later) :
    ∃ q, startEvent content = .ok (q, event.1) := by
  rcases htoken with rfl | rfl <;>
  · rw [eventsFrom] at h
    cases hstart : startEvent content with
    | error => rw [hstart] at h; cases h
    | ok opened =>
      rw [hstart] at h
      exact ⟨opened.1, by rw [← (List.cons.inj h).1]⟩

/-- If there is an event, it is that of a tag that begins with the attributes that are known. -/
theorem startEvent_of_events {opened : List (List Char)} {pos : Nat} {attributes : List (String × String)}
    (htag : IsTag tag) (h : AreQuoted attributes) (hne : attributes ≠ []) {event : Occurrence} {later : List Occurrence}
    (hevents : (readOn opened pos [] ('<' :: (tag ++ attributes.flatMap attributeChars ++ rest))).events =
      event :: later) :
    ∃ tail q, startEvent (tag ++ attributes.flatMap attributeChars ++ tail) = .ok (q, event.1) := by
  obtain ⟨hclosed, hstays⟩ := htag.quotes
  have hbase : StaysInTag none (tag ++ attributes.flatMap attributeChars) := by
    rw [staysInTag_append, hclosed]
    exact ⟨hstays, (quotes_attributes h.names h.values).2⟩
  have hlast : (tag ++ attributes.flatMap attributeChars).getLast? = some '"' := by
    rw [List.getLast?_append, getLast?_attributes hne, Option.some_or]
  generalize hknown : tag ++ attributes.flatMap attributeChars = base at *
  cases hcut : tag with
  | nil => exact absurd hcut htag.ne_nil
  | cons first more =>
    have hspecial := ne_special_of_isTagChar (htag.chars first (by simp [hcut]))
    obtain ⟨known, rfl⟩ : ∃ known, base = first :: known := ⟨_, by rw [← hknown, hcut, List.cons_append]⟩
    have hslash : (first :: known).head? ≠ some '/' := fun e => hspecial '/' (by decide) (Option.some.inj e)
    obtain ⟨pos', hscan⟩ := scanFrom_markup_begun opened pos first known (hspecial '!' (by decide))
      (hspecial '?' (by decide)) hbase rest (pos + '<'.utf8Size)
    rw [readOn, scanFrom_cons (step_text_lt ..), hscan] at hevents
    have hitems := scanFrom_begun opened pos hslash hlast ((first :: known).foldl quoteStep none) [] rest pos'
    rw [List.append_nil] at hitems
    simp only [eventsFrom_textToken, List.reverse_nil, List.append_nil] at hevents
    rcases hitems with hitems | ⟨tail, stop, later', hitems⟩
    · rw [hitems] at hevents
      cases (events_of_nothing _).symm.trans hevents
    · refine ⟨tail, ?_⟩
      rcases hitems with hitems | hitems <;> rw [hitems] at hevents
      · exact startEvent_of_opening (.inl rfl) hevents
      · exact startEvent_of_opening (.inr rfl) hevents

/-- The tag of an empty element is complete at its slash. -/
theorem closeTag_empty (opened : List (List Char)) (htag : IsTag tag) (content : List Char) (start stop : Nat) :
    closeTag opened start stop (tag ++ content ++ ['/']) =
      .next (.text []) opened [(.emptyTag (tag ++ content), stop)] := by
  cases hcut : tag with
  | nil => exact absurd hcut htag.ne_nil
  | cons first more =>
    have hslash := ne_special_of_isTagChar (htag.chars first (by simp [hcut])) '/' (by decide)
    unfold closeTag
    split
    · next body hbody => exact absurd (List.cons.inj hbody).1 hslash
    split
    · next body hbody =>
      rw [List.reverse_append, List.reverse_singleton, List.singleton_append, List.cons.injEq] at hbody
      rw [← hbody.2, List.reverse_reverse]
    · next hbody => exact absurd (List.reverse_concat ..) (hbody _)

/-- A written tag opens an element, with a slash at its end or without. -/
theorem closeTag_opening (opened : List (List Char)) (htag : IsTag tag) (attributes : List (String × String))
    {slash : List Char} (hslash : slash = [] ∨ slash = ['/']) (start : Nat) :
    ∃ opened' token,
      (∀ stop, closeTag opened start stop (tag ++ attributes.flatMap attributeChars ++ slash) =
        .next (.text []) opened' [(token, stop)]) ∧
      (token = .startTag (tag ++ attributes.flatMap attributeChars) ∨
        token = .emptyTag (tag ++ attributes.flatMap attributeChars)) := by
  rcases hslash with rfl | rfl
  · refine ⟨tag :: opened, _, fun stop => ?_, .inl rfl⟩
    rw [List.append_nil]
    exact closeTag_written opened htag attributes start stop
  · exact ⟨opened, _, fun stop => closeTag_empty opened htag _ start stop, .inr rfl⟩

theorem quotes_opening {attributes : List (String × String)} (htag : IsTag tag) (h : AreQuoted attributes)
    {slash : List Char} (hslash : slash = [] ∨ slash = ['/']) :
    (tag ++ attributes.flatMap attributeChars ++ slash).foldl quoteStep none = none ∧
      StaysInTag none (tag ++ attributes.flatMap attributeChars ++ slash) := by
  obtain ⟨hclosed, hstays⟩ := htag.quotes
  obtain ⟨hclosed', hstays'⟩ := quotes_attributes h.names h.values
  have hend : slash.foldl quoteStep none = none ∧ StaysInTag none slash := by
    rcases hslash with rfl | rfl <;> exact foldl_quoteStep_of_plain (by simp)
  rw [List.foldl_append, List.foldl_append, staysInTag_append, staysInTag_append, List.foldl_append, hclosed, hclosed']
  exact ⟨hend.1, ⟨hstays, hstays'⟩, hend.2⟩

/-- The first event of a text that begins with a written tag, of an empty element or not, is the one of the tag. -/
theorem events_of_written {opened : List (List Char)} {pos : Nat} {tag : String} {attributes : List (String × String)}
    (htag : IsTag tag.toList) (h : AreReadable attributes) {slash : List Char} (hslash : slash = [] ∨ slash = ['/'])
    (rest : List Char) :
    ∃ stop later,
      (readOn opened pos [] ('<' :: (tag.toList ++ attributes.flatMap attributeChars ++ slash ++ '>' :: rest))).events =
        (openEvent tag attributes, stop) :: later := by
  have hevent := startEvent_written htag h
  obtain ⟨opened', token, hclose, htoken⟩ := closeTag_opening opened htag attributes hslash pos
  obtain ⟨hclosed, hstays⟩ := quotes_opening htag h.areQuoted hslash
  generalize hknown : tag.toList ++ attributes.flatMap attributeChars = known at *
  cases hcut : tag.toList with
  | nil => exact absurd hcut htag.ne_nil
  | cons first more =>
    have hspecial := ne_special_of_isTagChar (htag.chars first (by simp [hcut]))
    obtain ⟨content, hcontent⟩ : ∃ content, known ++ slash = first :: content :=
      ⟨_, by rw [← hknown, hcut, List.cons_append, List.cons_append]⟩
    rw [hcontent] at hclose hclosed hstays ⊢
    obtain ⟨stop, hscan⟩ := scanFrom_markup opened pos first content (hspecial '!' (by decide))
      (hspecial '?' (by decide)) hstays hclosed hclose rest (pos + '<'.utf8Size)
    rw [readOn, scanFrom_cons (step_text_lt ..), hscan]
    simp only [eventsFrom_textToken, List.reverse_nil, List.append_nil]
    rcases htoken with rfl | rfl <;>
    · rw [eventsFrom, hevent]
      exact ⟨stop, _, rfl⟩

end Soap.Xml
