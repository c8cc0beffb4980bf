import Soap.Proofs.Xml.Name
import Soap.Xml.Event
import Soap.Xml.Markup

/-!
# Reading attributes

Attributes that the library writes are read as they are written (`rawAttributesFrom_written`), and
each is then filed under the attributes proper or the declarations of namespaces (`filed`).
-/

namespace Soap.Xml

/-- Attributes that are read as they are written: their names are names and differ, and no value
holds a double quote or a reference. -/
structure AreReadable (attributes : List (String × String)) : Prop where
  names : ∀ a ∈ attributes, IsTag a.1.toList
  values : ∀ a ∈ attributes, '"' ∉ a.2.toList ∧ '&' ∉ a.2.toList
  nodup : (attributes.map Prod.fst).Nodup

instance (attributes : List (String × String)) : Decidable (AreReadable attributes) :=
  decidable_of_iff
    ((∀ a ∈ attributes, IsTag a.1.toList) ∧ (∀ a ∈ attributes, '"' ∉ a.2.toList ∧ '&' ∉ a.2.toList) ∧
      (attributes.map Prod.fst).Nodup)
    ⟨fun h => ⟨h.1, h.2.1, h.2.2⟩, fun h => ⟨h.1, h.2, h.3⟩⟩

/-- Attributes that are read as such: their names are names and differ, and no value holds a double quote. -/
structure AreQuoted (attributes : List (String × String)) : Prop where
  names : ∀ a ∈ attributes, IsTag a.1.toList
  values : ∀ a ∈ attributes, '"' ∉ a.2.toList
  nodup : (attributes.map Prod.fst).Nodup

theorem AreReadable.areQuoted {attributes : List (String × String)} (h : AreReadable attributes) :
    AreQuoted attributes :=
  ⟨h.names, fun a ha => (h.values a ha).1, h.nodup⟩

theorem AreQuoted.tail {a : String × String} {attributes : List (String × String)} (h : AreQuoted (a :: attributes)) :
    AreQuoted attributes where
  names b hb := h.names b (List.mem_cons_of_mem a hb)
  values b hb := h.values b (List.mem_cons_of_mem a hb)
  nodup := (List.nodup_cons.mp h.nodup).2

/-- An attribute behind a blank. -/
def attributeChars (a : String × String) : List Char :=
  ' ' :: a.1.toList ++ '=' :: '"' :: a.2.toList ++ ['"']

theorem toList_foldl_append (texts : List String) (start : String) :
    (texts.foldl (· ++ ·) start).toList = start.toList ++ texts.flatMap String.toList := by
  induction texts generalizing start with
  | nil => simp
  | cons t rest ih => simp [ih, String.toList_append]

theorem toList_renderAttributes (attributes : List (String × String)) :
    (Markup.renderAttributes attributes).toList = attributes.flatMap attributeChars := by
  have hone : ∀ a : String × String, (" " ++ a.1 ++ "=\"" ++ a.2 ++ "\"").toList =
    attributeChars a := by
    intro a
    simp [attributeChars, String.toList_append]
  rw [Markup.renderAttributes, String.join, toList_foldl_append, List.flatMap_map]
  simp only [hone, String.toList_empty, List.nil_append]

/-- The characters of a key are collected. -/
theorem rawAttributesFrom_key (seen : List (List Char × Nat)) (start : Nat) {cs : List Char}
    (h : ∀ c ∈ cs, c ≠ '=' ∧ isSpace c = false) (read rest : List Char) (pos : Nat) :
    ∃ pos', rawAttributesFrom seen pos (.key start read) (cs ++ rest) =
      rawAttributesFrom seen pos' (.key start (cs.reverse ++ read)) rest := by
  induction cs generalizing read pos with
  | nil => exact ⟨pos, rfl⟩
  | cons c more ih =>
    obtain ⟨hequals, hspace⟩ := h c (by simp)
    obtain ⟨pos', hmore⟩ := ih (fun d hd => h d (by simp [hd])) (c :: read) (pos + c.utf8Size)
    refine ⟨pos', ?_⟩
    rw [List.cons_append, rawAttributesFrom]
    simp [hequals, hspace, hmore]

/-- The characters of a value are collected up to its quote. -/
theorem rawAttributesFrom_value (seen : List (List Char × Nat)) (name : List Char) {cs : List Char}
    (h : '"' ∉ cs) (run rest : List Char) (pos : Nat) :
    ∃ pos', rawAttributesFrom seen pos (.value name '"' run) (cs ++ '"' :: rest) =
      { items := (name, run.reverse ++ cs) :: (rawAttributesFrom seen pos' .between rest).items
        error := (rawAttributesFrom seen pos' .between rest).error } := by
  induction cs generalizing run pos with
  | nil => exact ⟨pos + '"'.utf8Size, by simp [rawAttributesFrom]⟩
  | cons c more ih =>
    have hc : c ≠ '"' := fun e => h (by simp [e])
    obtain ⟨pos', hmore⟩ := ih (fun hm => h (by simp [hm])) (c :: run) (pos + c.utf8Size)
    refine ⟨pos', ?_⟩
    rw [List.cons_append, rawAttributesFrom]
    simp [hc, hmore]

/-- The name of an attribute is read up to the sign that the value comes behind. -/
theorem rawAttributesFrom_name {name : List Char} (hname : IsTag name) (seen : List (List Char × Nat))
    (rest : List Char) (pos : Nat) :
    ∃ start pos', rawAttributesFrom seen pos .between (' ' :: name ++ '=' :: rest) =
      match keyState seen start name with
      | .error e => ⟨[], some e⟩
      | .ok state => rawAttributesFrom ((name, start) :: seen) pos' state rest := by
  have hchars : ∀ c ∈ name, c ≠ '=' ∧ isSpace c = false := fun c hc =>
    ⟨ne_special_of_isTagChar (hname.chars c hc) '=' (by decide), isSpace_of_isTagChar (hname.chars c hc)⟩
  cases hkey : name with
  | nil => exact absurd hkey hname.ne_nil
  | cons first more =>
    rw [hkey] at hchars
    let start := pos + ' '.utf8Size
    obtain ⟨pos', hmore⟩ := rawAttributesFrom_key seen start (fun c hc => hchars c (List.mem_cons_of_mem _ hc)) [first]
      ('=' :: rest) (start + first.utf8Size)
    refine ⟨start, pos' + '='.utf8Size, ?_⟩
    calc rawAttributesFrom seen pos .between (' ' :: first :: more ++ '=' :: rest)
      _ = rawAttributesFrom seen (start + first.utf8Size) (.key start [first]) (more ++ '=' :: rest) := by
          rw [List.cons_append, List.cons_append, rawAttributesFrom, if_pos (by decide), rawAttributesFrom, if_neg]
          simp [(hchars first (by simp)).2]
      _ = _ := by
          rw [hmore, rawAttributesFrom, if_pos rfl, List.reverse_append, List.reverse_reverse]
          rfl

/-- A written attribute is read, and its key is known from then on. -/
theorem rawAttributesFrom_attribute {a : String × String} (hname : IsTag a.1.toList)
    (hvalue : '"' ∉ a.2.toList) {seen : List (List Char × Nat)}
    (hnew : OrderedMap.get? seen a.1.toList = none) (rest : List Char) (pos : Nat) :
    ∃ start pos', rawAttributesFrom seen pos .between (attributeChars a ++ rest) =
      { items := (a.1.toList, a.2.toList) ::
          (rawAttributesFrom ((a.1.toList, start) :: seen) pos' .between rest).items
        error := (rawAttributesFrom ((a.1.toList, start) :: seen) pos' .between rest).error } := by
  obtain ⟨start, pos₁, hequals⟩ := rawAttributesFrom_name hname seen ('"' :: a.2.toList ++ '"' :: rest) pos
  obtain ⟨pos₂, hquoted⟩ := rawAttributesFrom_value ((a.1.toList, start) :: seen) a.1.toList hvalue [] rest
    (pos₁ + '"'.utf8Size)
  refine ⟨start, pos₂, ?_⟩
  calc rawAttributesFrom seen pos .between (attributeChars a ++ rest)
    _ = rawAttributesFrom seen pos .between (' ' :: a.1.toList ++ '=' :: ('"' :: a.2.toList ++ '"' :: rest)) := by
        simp [attributeChars]
    _ = rawAttributesFrom ((a.1.toList, start) :: seen) pos₁ (.afterEquals a.1.toList)
          ('"' :: a.2.toList ++ '"' :: rest) := by
        rw [hequals, keyState, hnew]
    _ = rawAttributesFrom ((a.1.toList, start) :: seen) (pos₁ + '"'.utf8Size) (.value a.1.toList '"' [])
          (a.2.toList ++ '"' :: rest) := by
        rw [List.cons_append, rawAttributesFrom, if_neg (by decide), if_pos (by simp)]
    _ = _ := by rw [hquoted]; rfl

/-- Where an attribute has a key that is known, the reading ends. -/
theorem rawAttributesFrom_known {a : String × String} (hname : IsTag a.1.toList) {seen : List (List Char × Nat)}
    (hknown : OrderedMap.get? seen a.1.toList ≠ none) (rest : List Char) (pos : Nat) :
    (rawAttributesFrom seen pos .between (attributeChars a ++ rest)).items = [] := by
  obtain ⟨previous, hprevious⟩ := Option.ne_none_iff_exists'.mp hknown
  obtain ⟨start, pos', hequals⟩ := rawAttributesFrom_name hname seen ('"' :: a.2.toList ++ '"' :: rest) pos
  have hchars : attributeChars a ++ rest = ' ' :: a.1.toList ++ '=' :: ('"' :: a.2.toList ++ '"' :: rest) := by
    simp [attributeChars]
  rw [hchars, hequals, keyState, hprevious]

/-- Quoted attributes are read one by one, whatever follows, and their keys are known from then on. -/
theorem rawAttributesFrom_quoted {attributes : List (String × String)} (h : AreQuoted attributes)
    (seen : List (List Char × Nat)) (hnew : ∀ a ∈ attributes, OrderedMap.get? seen a.1.toList = none)
    (rest : List Char) (pos : Nat) :
    ∃ seen' pos', rawAttributesFrom seen pos .between (attributes.flatMap attributeChars ++ rest) =
        { items := attributes.map (fun a => (a.1.toList, a.2.toList)) ++
            (rawAttributesFrom seen' pos' .between rest).items
          error := (rawAttributesFrom seen' pos' .between rest).error } ∧
      ∀ key, OrderedMap.get? seen' key = none →
        OrderedMap.get? seen key = none ∧ ∀ a ∈ attributes, a.1.toList ≠ key := by
  induction attributes generalizing seen pos with
  | nil => exact ⟨seen, pos, rfl, fun key hkey => ⟨hkey, nofun⟩⟩
  | cons a more ih =>
    have hfirst := List.nodup_cons.mp h.nodup
    obtain ⟨start, pos', ha⟩ := rawAttributesFrom_attribute (h.names a (by simp)) (h.values a (by simp))
      (hnew a (by simp)) (more.flatMap attributeChars ++ rest) pos
    -- The key that is known now is not that of a later attribute.
    have hlater : ∀ b ∈ more, OrderedMap.get? ((a.1.toList, start) :: seen) b.1.toList = none := by
      intro b hb
      have hne : a.1.toList ≠ b.1.toList := fun e =>
        hfirst.1 (List.mem_map.mpr ⟨b, hb, (String.toList_inj.mp e).symm⟩)
      simp [OrderedMap.get?, hne, hnew b (by simp [hb])]
    obtain ⟨seen', pos'', hmore, hseen⟩ := ih h.tail _ hlater pos'
    refine ⟨seen', pos'', ?_, ?_⟩
    · rw [List.flatMap_cons, List.append_assoc, ha, hmore]
      rfl
    · intro key hkey
      obtain ⟨hboth, hkeys⟩ := hseen key hkey
      rw [OrderedMap.get?] at hboth
      split at hboth
      · cases hboth
      · next hne => exact ⟨hboth, List.forall_mem_cons.mpr ⟨hne, hkeys⟩⟩

/-- Written attributes are read as they are; no key was seen before. -/
theorem rawAttributesFrom_written {attributes : List (String × String)} (h : AreReadable attributes)
    (seen : List (List Char × Nat))
    (hnew : ∀ a ∈ attributes, OrderedMap.get? seen a.1.toList = none) (pos : Nat) :
    rawAttributesFrom seen pos .between (attributes.flatMap attributeChars) =
      { items := attributes.map fun a => (a.1.toList, a.2.toList), error := none } := by
  obtain ⟨seen', pos', hread, -⟩ := rawAttributesFrom_quoted h.areQuoted seen hnew [] pos
  rw [List.append_nil] at hread
  rw [hread]
  simp [rawAttributesFrom]

/-- A value without references stands for itself. -/
theorem unescapeFrom_of_not_mem {cs : List Char} (h : '&' ∉ cs) (total pos : Nat) :
    unescapeFrom total pos none cs = .ok cs := by
  induction cs generalizing pos with
  | nil => rfl
  | cons c rest ih =>
    have hc : c ≠ '&' := fun e => h (by simp [e])
    simp [unescapeFrom, hc, ih (fun hm => h (by simp [hm])), Except.map]

/-- Attributes by what they are, as they are filed one after the other. -/
def filed (attributes : List (String × String)) :
    OrderedMap String String × OrderedMap String String :=
  attributes.foldl (fun m a => fileAttribute m.1 m.2 a.1.toList a.2.toList) ([], [])

theorem fileAttributes_of_readable {attributes : List (String × String)}
    (h : ∀ a ∈ attributes, '&' ∉ a.2.toList)
    (m : OrderedMap String String × OrderedMap String String) :
    fileAttributes (attributes.map fun a => (a.1.toList, a.2.toList)) m.1 m.2 =
      .ok (attributes.foldl (fun m a => fileAttribute m.1 m.2 a.1.toList a.2.toList) m) := by
  induction attributes generalizing m with
  | nil => rfl
  | cons a rest ih =>
    have hvalue : unescape a.2.toList = .ok a.2.toList :=
      unescapeFrom_of_not_mem (h a (by simp)) ..
    simp only [List.map_cons, fileAttributes, hvalue, List.foldl_cons]
    exact ih (fun b hb => h b (by simp [hb])) _

/-- Declarations of namespaces leave no attributes. -/
theorem filed_of_declarations {attributes : List (String × String)}
    (h : ∀ a ∈ attributes, ∃ name, a.1 = "xmlns:" ++ name) : (filed attributes).1 = [] := by
  have hstep : ∀ m : OrderedMap String String × OrderedMap String String, m.1 = [] →
      (attributes.foldl (fun m a => fileAttribute m.1 m.2 a.1.toList a.2.toList) m).1 = [] := by
    induction attributes with
    | nil => exact fun _ hm => hm
    | cons a rest ih =>
      intro m hm
      obtain ⟨name, hname⟩ := h a (by simp)
      refine ih (fun b hb => h b (by simp [hb])) _ ?_
      have hne : "xmlns:".toList ++ name.toList ≠ "xmlns".toList := by simp
      show (fileAttribute m.1 m.2 a.1.toList a.2.toList).1 = []
      rw [hname, String.toList_append, fileAttribute, if_neg hne, Text.afterLead?_append]
      exact hm
  exact hstep _ rfl

end Soap.Xml
