import Soap.Proofs.Namespace.Bijection
import Soap.Proofs.Xml.Quoting

/-!
# Declarations that read back

A table writes its declarations as attributes, with the URIs as they are. An element that is written with them is
read with exactly these declarations, in their order, just if no URI holds a double quote or an ampersand
(`NamespaceTable.IsReachable.reads_back_iff`). A URI is read up to the first quote in it, and the references in it
are replaced: neither leaves what it was.
-/

namespace Soap

open Xml

/-- The first thing that is read is an element, and it has these declarations. -/
def Xml.Reading.Declares (r : Reading) (declarations : OrderedMap String String) : Prop :=
  ∃ name attributes stop later, r.events = (.start name attributes declarations, stop) :: later

/-- A URI up to the first quote in it. -/
def beforeQuote (uri : String) : String := String.ofList (Text.before (· == '"') uri.toList)

/-! ## What is read of a URI -/

theorem quote_not_mem_beforeQuote (uri : String) : '"' ∉ (beforeQuote uri).toList := by
  rw [beforeQuote, String.toList_ofList, Text.before]
  intro hmem
  simpa using List.mem_takeWhile_imp hmem

/-- A URI that is not longer when its quotes are cut off has none. -/
theorem beforeQuote_eq_self {uri : String} (h : uri.toList.length ≤ (beforeQuote uri).toList.length) :
    beforeQuote uri = uri := by
  rw [← String.toList_inj]
  refine List.IsPrefix.eq_of_length_le ?_ h
  rw [beforeQuote, String.toList_ofList]
  exact List.takeWhile_prefix _

/-- An attribute begins with the one that has its value up to the quote. -/
theorem attributeChars_beforeQuote (key value : String) :
    ∃ rest, attributeChars (key, value) = attributeChars (key, beforeQuote value) ++ rest := by
  have hsplit : value.toList = (beforeQuote value).toList ++ value.toList.dropWhile (fun c => !(c == '"')) := by
    rw [beforeQuote, String.toList_ofList, Text.before, List.takeWhile_append_dropWhile]
  cases hrest : value.toList.dropWhile (fun c => !(c == '"')) with
  | nil =>
    rw [hrest, List.append_nil] at hsplit
    exact ⟨[], by rw [attributeChars, hsplit, List.append_nil]; rfl⟩
  | cons c more =>
    have hquote : c = '"' := by
      have hhead := List.head?_dropWhile_not (fun c => !(c == '"')) value.toList
      rw [hrest] at hhead
      simpa using hhead
    rw [hrest, hquote] at hsplit
    refine ⟨more ++ ['"'], ?_⟩
    rw [attributeChars, hsplit, attributeChars]
    simp

namespace NamespaceTable

/-! ## Declarations as attributes -/

variable {entries : List (String × String)}

theorem isTag_declaring (h : ∀ entry ∈ entries, isLocalName entry.1 = true) :
    ∀ a ∈ declaring entries, IsTag a.1.toList := by
  intro a ha
  obtain ⟨entry, hentry, rfl⟩ := List.mem_map.mp ha
  exact isTag_declaration (h entry hentry)

theorem areQuoted_declaring (hnames : ∀ entry ∈ entries, isLocalName entry.1 = true)
    (hnodup : (entries.map Prod.fst).Nodup) (hvalues : ∀ entry ∈ entries, '"' ∉ entry.2.toList) :
    AreQuoted (declaring entries) where
  names := isTag_declaring hnames
  values a ha := by
    obtain ⟨entry, hentry, rfl⟩ := List.mem_map.mp ha
    exact hvalues entry hentry
  nodup := nodup_declaring hnodup

theorem areReadable_declaring (hnames : ∀ entry ∈ entries, isLocalName entry.1 = true)
    (hnodup : (entries.map Prod.fst).Nodup) (hplain : ∀ entry ∈ entries, IsPlainUri entry.2) :
    AreReadable (declaring entries) where
  names := isTag_declaring hnames
  values a ha := by
    obtain ⟨entry, hentry, rfl⟩ := List.mem_map.mp ha
    exact hplain entry hentry
  nodup := nodup_declaring hnodup

/-- Different prefixes are filed in their order. -/
theorem filed_declaring (hnodup : (entries.map Prod.fst).Nodup) : filed (declaring entries) = ([], entries) := by
  suffices h : ∀ filed : OrderedMap String String, ((filed ++ entries).map Prod.fst).Nodup →
      (declaring entries).foldl (fun m a => fileAttribute m.1 m.2 a.1.toList a.2.toList) ([], filed) =
        ([], filed ++ entries) from
    h [] hnodup
  clear hnodup
  induction entries with
  | nil => simp [declaring]
  | cons entry rest ih =>
    intro filed hnodup
    have hnew : entry.1 ∉ filed.keys := by
      rw [List.map_append, List.nodup_append] at hnodup
      exact fun hmem => hnodup.2.2 _ hmem _ (by simp) rfl
    rw [declaring, List.map_cons, List.foldl_cons, fileAttribute_declaration, OrderedMap.insert_of_not_mem hnew]
    have hlater := ih (filed ++ [entry]) (by simpa using hnodup)
    simpa [declaring] using hlater

/-! ## Reading them -/

/-- If what is read of an element are its declarations, then a URI is plain as soon as those before it are. -/
theorem plain_of_events {tag : List Char} (htag : IsTag tag) {before after : List (String × String)}
    {name uri : String} (hentries : entries = before ++ (name, uri) :: after)
    (hnames : ∀ entry ∈ entries, isLocalName entry.1 = true) (hnodup : (entries.map Prod.fst).Nodup)
    (hplain : ∀ entry ∈ before, IsPlainUri entry.2) {rest : List Char} {q : QName}
    {attributes : OrderedMap String String} {stop : Nat} {later : List Occurrence}
    (hevents : (readOn [] 0 [] ('<' :: (tag ++ (declaring entries).flatMap attributeChars ++ rest))).events =
      (.start q attributes entries, stop) :: later) :
    IsPlainUri uri := by
  let known := before ++ [(name, beforeQuote uri)]
  have hlocal : isLocalName name = true := hnames (name, uri) (by simp [hentries])
  have hknown : AreQuoted (declaring known) := by
    apply areQuoted_declaring
    · intro entry hentry
      rcases List.mem_append.mp hentry with hentry | hentry
      · exact hnames entry (by simp [hentries, hentry])
      · obtain rfl := List.mem_singleton.mp hentry
        exact hlocal
    · refine hnodup.sublist ?_
      simp [known, hentries]
    · intro entry hentry
      rcases List.mem_append.mp hentry with hentry | hentry
      · exact (hplain entry hentry).1
      · obtain rfl := List.mem_singleton.mp hentry
        exact quote_not_mem_beforeQuote uri
  -- What is written begins with the URI up to its quote.
  obtain ⟨cut, hcut⟩ := attributeChars_beforeQuote ("xmlns:" ++ name) uri
  have hwritten : tag ++ (declaring entries).flatMap attributeChars ++ rest =
      tag ++ (declaring known).flatMap attributeChars ++
        (cut ++ (declaring after).flatMap attributeChars ++ rest) := by
    simp [hentries, known, declaring, hcut]
  rw [hwritten] at hevents
  have hne : declaring known ≠ [] := by simp [known, declaring]
  obtain ⟨tail, q', hstart⟩ := startEvent_of_events htag hknown hne hevents
  have hname : name ≠ "" := by
    rintro rfl
    exact absurd hlocal (by decide)
  rw [List.append_assoc] at hstart
  have hquoted : declaring known = declaring before ++ [("xmlns:" ++ name, beforeQuote uri)] := List.map_append
  rw [hquoted] at hknown hstart
  obtain ⟨text, hvalue, hget⟩ := declared_of_startEvent htag hname hknown hstart
  have huri : text = uri.toList := by
    have hbound : OrderedMap.get? entries name = some uri := OrderedMap.get?_of_mem hnodup (by simp [hentries])
    rw [Option.some.inj (hbound.symm.trans hget), String.toList_ofList]
  subst huri
  have hself := beforeQuote_eq_self (length_le_of_unescapeFrom hvalue)
  refine ⟨?_, ?_⟩
  · rw [← hself]
    exact quote_not_mem_beforeQuote uri
  · rw [hself] at hvalue
    exact unescape_eq_self_iff.mp hvalue

/-- If what is read of an element are its declarations, then every URI is plain. -/
theorem plain_of_declares {tag : List Char} (htag : IsTag tag) (hnames : ∀ entry ∈ entries, isLocalName entry.1 = true)
    (hnodup : (entries.map Prod.fst).Nodup) {rest : List Char}
    (h : (readOn [] 0 [] ('<' :: (tag ++ (declaring entries).flatMap attributeChars ++ rest))).Declares entries) :
    ∀ entry ∈ entries, IsPlainUri entry.2 := by
  obtain ⟨q, attributes, stop, later, hevents⟩ := h
  by_contra hsome
  -- The first one that is not plain is not read as it is.
  cases hfind : entries.find? (fun entry => ¬ IsPlainUri entry.2) with
  | none => exact hsome fun entry hentry => by simpa using List.find?_eq_none.mp hfind entry hentry
  | some entry =>
    obtain ⟨hbad, before, after, hentries, hbefore⟩ := List.find?_eq_some_iff_append.mp hfind
    have hplain := plain_of_events htag hentries hnames hnodup (by simpa using hbefore) hevents
    exact absurd hplain (by simpa using hbad)

/-! ## Tables -/

variable {t : NamespaceTable}

/-- No prefix is handed out for two namespaces at a time. -/
theorem IsReachable.nodup_used (h : t.IsReachable) : t.used.keys.Nodup := by
  induction h with
  | empty => exact List.nodup_nil
  | ofDeclarations declarations =>
    rw [(ofDeclarations_fresh declarations).1]
    exact List.nodup_nil
  | add _ _ _ ih => exact ih
  | handsOut _ hstep ih =>
    rw [hstep.isHanded.used]
    exact OrderedMap.nodup_insert ih _ _
  | withMinter _ _ ih => exact ih

/-- What is written with the declarations of a table. -/
theorem read_toAttributes (t : NamespaceTable) (tag rest : String) :
    read ("<" ++ tag ++ t.toAttributes ++ rest) =
      readOn [] 0 [] ('<' :: (tag.toList ++ (declaring t.declarations).flatMap attributeChars ++ rest.toList)) := by
  have htext : ("<" ++ tag ++ t.toAttributes ++ rest).toList =
      '<' :: (tag.toList ++ (declaring t.declarations).flatMap attributeChars ++ rest.toList) := by
    simp [String.toList_append, toAttributes_eq_renderAttributes, toList_renderAttributes]
  rw [read_eq_readOn (by rw [htext, List.head?_cons]; decide), htext]

/-- Plain declarations are read as they are written. -/
theorem read_of_plain (hnodup : (t.declarations.map Prod.fst).Nodup)
    (hnames : ∀ entry ∈ t.declarations, isLocalName entry.1 = true)
    (hplain : ∀ entry ∈ t.declarations, IsPlainUri entry.2) {tag close : String} (htag : IsTag tag.toList)
    (hclose : close = ">" ∨ close = "/>") (rest : String) :
    ∃ stop later, (read ("<" ++ tag ++ t.toAttributes ++ (close ++ rest))).events =
      (.start (QName.parse tag) [] t.declarations, stop) :: later := by
  obtain ⟨slash, hslash, hclose⟩ : ∃ slash, (slash = [] ∨ slash = ['/']) ∧ close.toList = slash ++ ['>'] := by
    rcases hclose with rfl | rfl
    · exact ⟨[], .inl rfl, rfl⟩
    · exact ⟨['/'], .inr rfl, rfl⟩
  have hreadable := areReadable_declaring hnames hnodup hplain
  obtain ⟨stop, later, hevents⟩ := events_of_written htag hreadable hslash rest.toList
  refine ⟨stop, later, ?_⟩
  rw [openEvent, filed_declaring hnodup] at hevents
  rw [read_toAttributes, String.toList_append, hclose]
  simpa using hevents

/-- An element that is written with the declarations of a table, its prefixes being names, is read with exactly
these, in their order and with their URIs, just if these are plain. It is then read as an element of this name
without further attributes, whatever follows its tag, and whether that is of an empty element or not. -/
theorem IsReachable.reads_back_iff (h : t.IsReachable) (hnames : ∀ entry ∈ t.declarations, isLocalName entry.1 = true)
    {tag close : String} (htag : IsTag tag.toList) (hclose : close = ">" ∨ close = "/>") (rest : String) :
    ((read ("<" ++ tag ++ t.toAttributes ++ (close ++ rest))).Declares t.declarations ↔
      ∀ entry ∈ t.declarations, IsPlainUri entry.2) ∧
    ((∀ entry ∈ t.declarations, IsPlainUri entry.2) →
      (read ("<" ++ tag ++ t.toAttributes ++ (close ++ rest))).events.head?.map Prod.fst =
        some (.start (QName.parse tag) [] t.declarations)) := by
  have hnodup := nodup_declarations h.nodup_used
  refine ⟨⟨fun hdeclares => ?_, fun hplain => ?_⟩, fun hplain => ?_⟩
  · rw [read_toAttributes] at hdeclares
    exact plain_of_declares htag hnames hnodup hdeclares
  · obtain ⟨stop, later, hevents⟩ := read_of_plain hnodup hnames hplain htag hclose rest
    exact ⟨_, _, stop, later, hevents⟩
  · obtain ⟨stop, later, hevents⟩ := read_of_plain hnodup hnames hplain htag hclose rest
    rw [hevents]
    rfl

/-! ### Orders by query -/

/-- A table that was asked for the prefix of a namespace. -/
def askedFor (uri : String) : NamespaceTable := (empty.prefixFor uri (some "q")).2

theorem isReachable_askedFor (uri : String) : (askedFor uri).IsReachable :=
  .handsOut .empty (handsOut_prefixFor (le_refl 1) uri (some "q"))

theorem reads_back_query :
    (askedFor "http://shop/orders?a=1").IsReachable ∧
    (∀ entry ∈ (askedFor "http://shop/orders?a=1").declarations, isLocalName entry.1 = true) ∧
    IsTag "q:orders".toList ∧
    (read ("<" ++ "q:orders" ++ (askedFor "http://shop/orders?a=1").toAttributes ++ (">" ++ "</q:orders>"))).Declares
      [("q", "http://shop/orders?a=1")] := by
  have hreachable := isReachable_askedFor "http://shop/orders?a=1"
  have hnames : ∀ entry ∈ (askedFor "http://shop/orders?a=1").declarations, isLocalName entry.1 = true := by decide
  have htag : IsTag "q:orders".toList := by decide
  refine ⟨hreachable, hnames, htag, ?_⟩
  exact (IsReachable.reads_back_iff hreachable hnames htag (.inl rfl) "</q:orders>").1.mpr (by decide)

/-- Three namespaces whose declarations do not read back, though their prefix is a name: an ampersand is no
reference, a reference is replaced, and a quote ends the value. -/
theorem not_reads_back_query :
    (askedFor "http://shop/orders?a=1&b=2").IsReachable ∧
    (askedFor "http://shop/orders?a=1&b=2").declarations = [("q", "http://shop/orders?a=1&b=2")] ∧
    (read ("<" ++ "q:orders" ++ (askedFor "http://shop/orders?a=1&b=2").toAttributes ++ "></q:orders>")).events = [] ∧
    (read ("<" ++ "q:orders" ++ (askedFor "http://shop/orders?a=1&amp;b=2").toAttributes ++ "></q:orders>")).Declares
      [("q", "http://shop/orders?a=1&b=2")] ∧
    (read ("<" ++ "q:orders" ++ (askedFor "urn:\"shop\"").toAttributes ++ "></q:orders>")).events = [] := by
  refine ⟨isReachable_askedFor _, by decide, by decide +kernel, ⟨_, _, _, _, rfl⟩, by decide +kernel⟩

end NamespaceTable

end Soap
