import Soap.OrderedMap

/-!
# More on insertion-ordered maps

Entries and keys of maps after a change, and maps whose values know their keys (`IsKeyedBy`): those
that are built by inserting records under their names.
-/

namespace Soap

namespace OrderedMap

variable {κ : Type} {α : Type u} {β : Type v} [DecidableEq κ]

theorem mem_insert {m : OrderedMap κ α} {k : κ} {v : α} {e : κ × α} (h : e ∈ m.insert k v) :
    e = (k, v) ∨ e ∈ m := by
  induction m with
  | nil => exact .inl (by simpa [insert] using h)
  | cons first rest ih =>
    obtain ⟨k', v'⟩ := first
    simp only [insert] at h
    split at h
    · next hk =>
      rcases List.mem_cons.mp h with rfl | h
      · exact .inl (by rw [hk])
      · exact .inr (List.mem_cons_of_mem _ h)
    · rcases List.mem_cons.mp h with rfl | h
      · exact .inr (by simp)
      · exact (ih h).imp_right (List.mem_cons_of_mem _)

theorem mem_insert_of_ne {m : OrderedMap κ α} {k : κ} {e : κ × α} (h : e ∈ m) (hne : e.1 ≠ k) (v : α) :
    e ∈ m.insert k v := by
  induction m with
  | nil => cases h
  | cons first rest ih =>
    obtain ⟨k', w⟩ := first
    rw [insert]
    split
    · next hk =>
      rcases List.mem_cons.mp h with rfl | h
      · exact absurd hk hne
      · exact List.mem_cons_of_mem _ h
    · rcases List.mem_cons.mp h with rfl | h
      · exact List.mem_cons_self
      · exact List.mem_cons_of_mem _ (ih h)

/-- An entry of a map is the only one under its key. -/
theorem filter_key_of_mem {m : OrderedMap κ α} {k : κ} {v : α} (h : (m.map Prod.fst).Nodup) (hmem : (k, v) ∈ m) :
    (m.filter fun e => e.1 == k) = [(k, v)] := by
  induction m with
  | nil => cases hmem
  | cons first rest ih =>
    rw [List.map_cons, List.nodup_cons] at h
    rw [List.filter_cons]
    rcases List.mem_cons.mp hmem with rfl | hmem
    · have hothers : (rest.filter fun e => e.1 == k) = [] := by
        rw [List.filter_eq_nil_iff]
        intro e he heq
        exact h.1 (List.mem_map.mpr ⟨e, he, eq_of_beq heq⟩)
      simp [hothers]
    · have hne : (first.1 == k) = false := by
        rw [beq_eq_false_iff_ne]
        rintro rfl
        exact h.1 (List.mem_map.mpr ⟨_, hmem, rfl⟩)
      simpa [hne] using ih h.2 hmem

/-! ## New keys -/

theorem insert_of_not_mem {m : OrderedMap κ α} {k : κ} (h : k ∉ m.keys) (v : α) :
    m.insert k v = m ++ [(k, v)] := by
  induction m with
  | nil => rfl
  | cons first rest ih =>
    obtain ⟨k', w⟩ := first
    rw [keys_cons, List.mem_cons, not_or] at h
    rw [insert, if_neg fun e => h.1 e.symm, ih h.2, List.cons_append]

theorem get?_append_self {m : OrderedMap κ α} {k : κ} (h : k ∉ m.keys) (v : α) :
    get? (m ++ [(k, v)]) k = some v := by
  rw [← insert_of_not_mem h, get?_insert_self]

theorem insert_append_self {m : OrderedMap κ α} {k : κ} (h : k ∉ m.keys) (v w : α) :
    insert (m ++ [(k, v)]) k w = m ++ [(k, w)] := by
  induction m with
  | nil => simp [insert]
  | cons first rest ih =>
    obtain ⟨k', x⟩ := first
    rw [keys_cons, List.mem_cons, not_or] at h
    rw [List.cons_append, insert, if_neg fun e => h.1 e.symm, ih h.2, List.cons_append]

omit [DecidableEq κ] in
theorem keys_append (a b : OrderedMap κ α) : keys (a ++ b) = keys a ++ keys b := List.map_append

/-! ## Entries and look-ups -/

theorem get?_of_mem {m : OrderedMap κ α} (h : m.keys.Nodup) {k : κ} {v : α} (hm : (k, v) ∈ m) :
    m.get? k = some v := by
  induction m with
  | nil => cases hm
  | cons first rest ih =>
    obtain ⟨k', w⟩ := first
    rw [keys_cons, List.nodup_cons] at h
    rcases List.mem_cons.mp hm with e | hm
    · obtain ⟨rfl, rfl⟩ := Prod.mk.inj e
      exact if_pos rfl
    · have hne : k' ≠ k := fun e => h.1 (e ▸ List.mem_map.mpr ⟨_, hm, rfl⟩)
      rw [get?, if_neg hne, ih h.2 hm]

theorem get?_mapValues (f : α → β) (m : OrderedMap κ α) (k : κ) :
    (m.mapValues f).get? k = (m.get? k).map f := by
  induction m with
  | nil => rfl
  | cons first rest ih =>
    obtain ⟨k', w⟩ := first
    show (if k' = k then some (f w) else get? (mapValues f rest) k) = _
    rw [get?]
    split
    · rfl
    · exact ih

theorem insert_mapValues (f : α → β) (m : OrderedMap κ α) (k : κ) (v : α) :
    (m.mapValues f).insert k (f v) = (m.insert k v).mapValues f := by
  induction m with
  | nil => rfl
  | cons first rest ih =>
    obtain ⟨k', w⟩ := first
    show (if k' = k then (k', f v) :: mapValues f rest else (k', f w) :: insert (mapValues f rest) k (f v)) = _
    rw [insert, ih]
    split <;> rfl

omit [DecidableEq κ] in
theorem mapValues_mapValues {γ : Type u} (f : α → β) (g : β → γ) (m : OrderedMap κ α) :
    (m.mapValues f).mapValues g = m.mapValues fun v => g (f v) := List.map_map

omit [DecidableEq κ] in
theorem mem_mapValues {f : α → β} {m : OrderedMap κ α} {k : κ} {w : β}
    (h : (k, w) ∈ m.mapValues f) : ∃ v, (k, v) ∈ m ∧ f v = w := by
  obtain ⟨⟨k', v⟩, hv, e⟩ := List.mem_map.mp h
  obtain ⟨rfl, rfl⟩ := Prod.mk.inj e
  exact ⟨v, hv, rfl⟩

theorem mem_extend {m other : OrderedMap κ α} {e : κ × α} (h : e ∈ m.extend other) :
    e ∈ m ∨ e ∈ other := by
  induction other generalizing m with
  | nil => exact .inl h
  | cons first rest ih =>
    rcases ih h with h | h
    · rcases mem_insert h with rfl | h
      · exact .inr (by simp)
      · exact .inl h
    · exact .inr (List.mem_cons_of_mem _ h)

theorem mem_ofList {entries : List (κ × α)} {e : κ × α} (h : e ∈ ofList entries) : e ∈ entries :=
  (mem_extend h).resolve_left (by simp)

theorem mem_keys_extend {m other : OrderedMap κ α} {k : κ} :
    k ∈ (m.extend other).keys ↔ k ∈ m.keys ∨ k ∈ other.keys := by
  induction other generalizing m with
  | nil => simp [extend]
  | cons first rest ih =>
    show k ∈ ((m.insert first.1 first.2).extend rest).keys ↔ _
    rw [ih, keys_insert, keys_cons, List.mem_cons]
    split
    · next hmem => exact ⟨fun h => h.imp_right .inr, by rintro (h | rfl | h) <;> simp_all⟩
    · rw [List.mem_append, List.mem_singleton]
      exact or_assoc

theorem mem_keys_ofList {entries : List (κ × α)} {k : κ} :
    k ∈ (ofList entries).keys ↔ k ∈ entries.map Prod.fst := by
  rw [ofList, mem_keys_extend]
  simp [keys]

/-- A key that stands for one value has this value. -/
theorem get?_ofList_of_unique {entries : List (κ × α)} {k : κ} {v : α} (h : (k, v) ∈ entries)
    (hunique : ∀ e ∈ entries, e.1 = k → e.2 = v) : (ofList entries).get? k = some v := by
  have hkey : k ∈ (ofList entries).keys := mem_keys_ofList.mpr (List.mem_map.mpr ⟨_, h, rfl⟩)
  obtain ⟨w, hw⟩ := Option.isSome_iff_exists.mp (get?_isSome_iff.mpr hkey)
  have hvalue : w = v := hunique _ (mem_ofList (mem_of_get? hw)) rfl
  rw [hw, hvalue]

/-- Where every key stands for one value, the entries may be listed in any order and more than once. -/
theorem get?_ofList_congr {a b : List (κ × α)} (hmem : ∀ e, e ∈ a ↔ e ∈ b)
    (hunique : ∀ e ∈ a, ∀ e' ∈ a, e.1 = e'.1 → e.2 = e'.2) (k : κ) : (ofList a).get? k = (ofList b).get? k := by
  by_cases hk : k ∈ a.map Prod.fst
  · obtain ⟨⟨k, v⟩, hv, rfl⟩ := List.mem_map.mp hk
    rw [get?_ofList_of_unique hv fun e he hkey => hunique e he _ hv hkey,
      get?_ofList_of_unique ((hmem _).mp hv) fun e he hkey => hunique e ((hmem e).mpr he) _ hv hkey]
  · have hk' : k ∉ b.map Prod.fst := fun h => by
      obtain ⟨e, he, rfl⟩ := List.mem_map.mp h
      exact hk (List.mem_map_of_mem ((hmem e).mpr he))
    rw [get?_eq_none_iff.mpr (mt mem_keys_ofList.mp hk), get?_eq_none_iff.mpr (mt mem_keys_ofList.mp hk')]

theorem get?_append (a b : OrderedMap κ α) (k : κ) : get? (a ++ b) k = (a.get? k <|> b.get? k) := by
  induction a with
  | nil => rfl
  | cons first rest ih =>
    obtain ⟨k', v⟩ := first
    rw [List.cons_append, get?, get?]
    split
    · rfl
    · exact ih

theorem extend_append (m a b : OrderedMap κ α) : m.extend (a ++ b) = (m.extend a).extend b :=
  List.foldl_append

theorem get?_extend (m entries : OrderedMap κ α) (k : κ) :
    (m.extend entries).get? k = (get? entries.reverse k <|> m.get? k) := by
  induction entries generalizing m with
  | nil => rfl
  | cons first rest ih =>
    obtain ⟨k', v⟩ := first
    show ((m.insert k' v).extend rest).get? k = _
    rw [ih, get?_insert, List.reverse_cons, get?_append, get?, get?_nil]
    cases get? rest.reverse k with
    | some w => rfl
    | none =>
      show (if k' = k then some v else m.get? k) = ((if k' = k then some v else none) <|> m.get? k)
      split <;> rfl

/-- A key that is listed is listed for the last time somewhere. -/
theorem exists_last {entries : OrderedMap κ α} {k : κ} (h : k ∈ entries.keys) :
    ∃ before v after, entries = before ++ (k, v) :: after ∧ k ∉ keys after := by
  induction entries with
  | nil => cases h
  | cons first rest ih =>
    by_cases hrest : k ∈ keys rest
    · obtain ⟨before, v, after, rfl, hafter⟩ := ih hrest
      exact ⟨first :: before, v, after, rfl, hafter⟩
    · obtain ⟨k', v⟩ := first
      obtain rfl : k = k' := (List.mem_cons.mp h).resolve_right hrest
      exact ⟨[], v, rest, rfl, hrest⟩

theorem get?_reverse_of_last (before : OrderedMap κ α) {after : OrderedMap κ α} {k : κ} (v : α)
    (h : k ∉ keys after) : get? (before ++ (k, v) :: after).reverse k = some v := by
  have hafter : get? after.reverse k = none := by
    rw [get?_eq_none_iff, keys, List.map_reverse, List.mem_reverse]
    exact h
  rw [List.reverse_append, List.reverse_cons, get?_append, get?_append, hafter, get?, if_pos rfl]
  rfl

/-- Of several entries for a key the last counts. -/
theorem get?_ofList (entries : List (κ × α)) (k : κ) :
    (ofList entries).get? k = get? entries.reverse k := by
  rw [ofList, get?_extend, get?_nil, Option.orElse_eq_orElse, Option.orElse_eq_or, Option.or_none]

/-- Later entries for other keys do not matter. -/
theorem get?_ofList_append_of_not_mem (a : List (κ × α)) {b : List (κ × α)} {k : κ}
    (h : k ∉ b.map Prod.fst) : (ofList (a ++ b)).get? k = (ofList a).get? k := by
  have hb : get? b.reverse k = none := by
    rw [get?_eq_none_iff, keys, List.map_reverse, List.mem_reverse]
    exact h
  rw [get?_ofList, get?_ofList, List.reverse_append, get?_append, hb]
  rfl

/-- Where no key is listed twice, the order of the entries does not matter. -/
theorem get?_ofList_eq_some_iff {entries : List (κ × α)} (h : (entries.map Prod.fst).Nodup) {k : κ} {v : α} :
    (ofList entries).get? k = some v ↔ (k, v) ∈ entries := by
  constructor
  · intro hget
    exact mem_ofList (mem_of_get? hget)
  · intro hmem
    apply get?_ofList_of_unique hmem
    rintro ⟨k', v'⟩ hmem' rfl
    have hget := get?_of_mem h hmem
    rw [get?_of_mem h hmem'] at hget
    exact Option.some.inj hget

/-- Looking up among entries that are computed is a search for what they are computed from. -/
theorem get?_filterMap {γ : Type v} (entries : List γ) (key? : γ → Option κ) (value : γ → α) (k : κ) :
    get? (entries.filterMap fun e => (key? e).map fun key => (key, value e)) k =
      (entries.find? fun e => decide (key? e = some k)).map value := by
  induction entries with
  | nil => rfl
  | cons first rest ih =>
    rw [List.find?_cons]
    cases hkey : key? first with
    | none =>
      rw [List.filterMap_cons_none (by rw [hkey, Option.map_none]), ih]
      rfl
    | some key =>
      rw [List.filterMap_cons_some (by rw [hkey, Option.map_some]), get?, ih]
      by_cases h : key = k
      · rw [if_pos h, h, decide_eq_true rfl]
        rfl
      · rw [if_neg h, decide_eq_false fun e => h (Option.some.inj e)]

theorem get?_map {γ : Type v} (entries : List γ) (key : γ → κ) (value : γ → α) (k : κ) :
    get? (entries.map fun e => (key e, value e)) k = (entries.find? fun e => decide (key e = k)).map value := by
  have hsearch := get?_filterMap entries (fun e => some (key e)) value k
  simp only [Option.map_some, List.filterMap_eq_map', Option.some.injEq] at hsearch
  exact hsearch

omit [DecidableEq κ] in
/-- Entries that keep their keys are no more than they were. -/
theorem nodup_filterMap {m : OrderedMap κ α} (h : m.keys.Nodup) {f : κ × α → Option (κ × β)}
    (hf : ∀ e e', f e = some e' → e'.1 = e.1) : keys (m.filterMap f) |>.Nodup := by
  refine h.sublist ?_
  induction m with
  | nil => exact List.Sublist.refl []
  | cons first rest ih =>
    rw [keys_cons, List.nodup_cons] at h
    cases he : f first with
    | none =>
      rw [List.filterMap_cons_none he]
      exact (ih h.2).cons _
    | some e' =>
      rw [List.filterMap_cons_some he, keys_cons, keys_cons, hf first e' he]
      exact (ih h.2).cons_cons _

omit [DecidableEq κ] in
/-- Entries that all stay, under their keys. -/
theorem keys_filterMap {m : OrderedMap κ α} {f : κ × α → Option (κ × β)}
    (hf : ∀ e ∈ m, ∃ w, f e = some (e.1, w)) : keys (m.filterMap f) = m.keys := by
  induction m with
  | nil => rfl
  | cons first rest ih =>
    obtain ⟨w, hw⟩ := hf first (by simp)
    rw [List.filterMap_cons_some hw, keys_cons, keys_cons, ih fun e he => hf e (by simp [he])]

/-- The first value is the one under its key. -/
theorem get?_of_head? {m : OrderedMap κ α} {v : α} (h : m.values.head? = some v) :
    ∃ k, m.get? k = some v := by
  cases m with
  | nil => cases h
  | cons first rest =>
    obtain rfl := Option.some.inj h
    exact ⟨first.1, if_pos rfl⟩

/-! ## Keys that are listed once -/

theorem extend_of_nodup {m entries : OrderedMap κ α} (h : (keys (m ++ entries)).Nodup) :
    m.extend entries = m ++ entries := by
  induction entries generalizing m with
  | nil => exact (List.append_nil m).symm
  | cons first rest ih =>
    have hnew : first.1 ∉ m.keys := by
      rw [keys_append, List.nodup_append] at h
      exact fun hmem => h.2.2 _ hmem _ List.mem_cons_self rfl
    have hsplit : m ++ first :: rest = m.insert first.1 first.2 ++ rest := by
      rw [insert_of_not_mem hnew, List.append_assoc]
      rfl
    rw [hsplit] at h ⊢
    exact ih h

theorem ofList_of_nodup {entries : List (κ × α)} (h : (keys entries).Nodup) : ofList entries = entries :=
  extend_of_nodup h

/-- Where no key is listed twice, it does not matter from which end one looks. -/
theorem get?_reverse_of_nodup {m : OrderedMap κ α} (h : m.keys.Nodup) (k : κ) :
    get? (List.reverse m) k = m.get? k := by
  rw [← get?_ofList, ofList_of_nodup h]

theorem modify_of_not_mem {m : OrderedMap κ α} {k : κ} (h : k ∉ m.keys) (f : α → α) : m.modify f k = m := by
  induction m with
  | nil => rfl
  | cons first rest ih =>
    rw [keys_cons, List.mem_cons, not_or] at h
    rw [modify, if_neg (Ne.symm h.1), ih h.2]

/-- Changing the value of a key leaves the others alone. -/
theorem modify_eq_map {m : OrderedMap κ α} (h : m.keys.Nodup) (f : α → α) (k : κ) :
    m.modify f k = m.map fun e => (e.1, if e.1 = k then f e.2 else e.2) := by
  induction m with
  | nil => rfl
  | cons first rest ih =>
    obtain ⟨k', v⟩ := first
    rw [keys_cons, List.nodup_cons] at h
    by_cases hk : k' = k
    · subst hk
      have hrest : rest.map (fun e => (e.1, if e.1 = k' then f e.2 else e.2)) = rest := by
        rw [← ih h.2, modify_of_not_mem h.1]
      rw [modify, if_pos rfl, List.map_cons, if_pos rfl, hrest]
    · rw [modify, if_neg hk, List.map_cons, if_neg hk, ih h.2]

theorem erase_of_not_mem {m : OrderedMap κ α} {k : κ} (h : k ∉ m.keys) : m.erase k = m := by
  induction m with
  | nil => rfl
  | cons first rest ih =>
    rw [keys_cons, List.mem_cons, not_or] at h
    rw [erase, if_neg (Ne.symm h.1), ih h.2]

/-- Removing a key leaves the entries of all others, in their order. -/
theorem erase_eq_filter {m : OrderedMap κ α} (h : m.keys.Nodup) (k : κ) : m.erase k = m.filter fun e => e.1 != k := by
  induction m with
  | nil => rfl
  | cons first rest ih =>
    obtain ⟨k', v⟩ := first
    rw [keys_cons, List.nodup_cons] at h
    by_cases hk : k' = k
    · subst hk
      rw [erase, if_pos rfl, List.filter_cons_of_neg (by simp), ← ih h.2, erase_of_not_mem h.1]
    · rw [erase, if_neg hk, List.filter_cons_of_pos (by simpa using hk), ih h.2]

/-! ## Functions of keys -/

/-- A map that is given by a function of its keys. -/
theorem get?_map_of_mem {keys : List κ} (f : κ → α) {k : κ} (h : k ∈ keys) :
    get? (keys.map fun key => (key, f key)) k = some (f k) := by
  induction keys with
  | nil => cases h
  | cons first rest ih =>
    rw [List.map_cons, get?]
    by_cases hfirst : first = k
    · rw [if_pos hfirst, hfirst]
    · rw [if_neg hfirst, ih ((List.mem_cons.mp h).resolve_left fun e => hfirst e.symm)]

/-- A known key takes its new value in its place. -/
theorem insert_map_of_mem {keys : List κ} (hnodup : keys.Nodup) (f : κ → α) {k : κ} (h : k ∈ keys)
    (v : α) :
    insert (keys.map fun key => (key, f key)) k v =
      keys.map fun key => (key, if key = k then v else f key) := by
  induction keys with
  | nil => cases h
  | cons first rest ih =>
    rw [List.nodup_cons] at hnodup
    rw [List.map_cons, List.map_cons, insert]
    by_cases hfirst : first = k
    · rw [if_pos hfirst, hfirst, if_pos rfl]
      congr 1
      refine List.map_congr_left fun key hkey => ?_
      rw [if_neg fun e => hnodup.1 (by rwa [hfirst, ← e])]
    · rw [if_neg hfirst, if_neg hfirst,
        ih hnodup.2 ((List.mem_cons.mp h).resolve_left fun e => hfirst e.symm)]

/-! ## Values that know their keys -/

/-- No key is listed twice, and each value is filed under its own name. -/
structure IsKeyedBy (name : α → κ) (m : OrderedMap κ α) : Prop where
  nodup : m.keys.Nodup
  name_eq : ∀ e ∈ m, name e.2 = e.1

omit [DecidableEq κ] in
theorem IsKeyedBy.nil (name : α → κ) : IsKeyedBy name [] := ⟨by simp, by simp⟩

theorem IsKeyedBy.insert {name : α → κ} {m : OrderedMap κ α} (h : IsKeyedBy name m) (v : α) :
    IsKeyedBy name (m.insert (name v) v) where
  nodup := nodup_insert h.nodup _ _
  name_eq e he := by
    rcases mem_insert he with rfl | he
    · rfl
    · exact h.name_eq e he

/-- Records filed under their names are keyed by them. -/
theorem IsKeyedBy.ofList (name : α → κ) (values : List α) :
    IsKeyedBy name (ofList (values.map fun v => (name v, v))) where
  nodup := nodup_ofList _
  name_eq e he := by
    obtain ⟨v, -, rfl⟩ := List.mem_map.mp (mem_ofList he)
    rfl

omit [DecidableEq κ] in
theorem IsKeyedBy.mapValues {name : α → κ} {m : OrderedMap κ α} (h : IsKeyedBy name m)
    (name' : β → κ) {f : α → β} (hf : ∀ v, name' (f v) = name v) :
    IsKeyedBy name' (m.mapValues f) where
  nodup := by
    rw [keys_mapValues]
    exact h.nodup
  name_eq e he := by
    obtain ⟨v, hv, e'⟩ := mem_mapValues he
    rw [← e', hf, h.name_eq _ hv]

theorem IsKeyedBy.get?_name {name : α → κ} {m : OrderedMap κ α} (h : IsKeyedBy name m) {k : κ}
    {v : α} (hv : m.get? k = some v) : m.get? (name v) = some v := by
  have hname : name v = k := h.name_eq _ (mem_of_get? hv)
  rwa [hname]

omit [DecidableEq κ] in
/-- A map of records lists their names. -/
theorem IsKeyedBy.mapValues_eq {name : α → κ} {m : OrderedMap κ α} (h : IsKeyedBy name m) (f : α → β) :
    m.mapValues f = m.values.map fun v => (name v, f v) := by
  rw [OrderedMap.mapValues, OrderedMap.values, List.map_map]
  refine List.map_congr_left fun e he => ?_
  rw [Function.comp_apply, h.name_eq e he]

/-- Filing what is made of the records under their names changes no key. -/
theorem IsKeyedBy.foldl_insert {name : α → κ} {m : OrderedMap κ α} (h : IsKeyedBy name m) (f : α → β) :
    m.values.foldl (fun acc v => OrderedMap.insert acc (name v) (f v)) [] = m.mapValues f := by
  have hnodup : (m.mapValues f).keys.Nodup := by
    rw [keys_mapValues]
    exact h.nodup
  rw [← ofList_of_nodup hnodup, h.mapValues_eq, OrderedMap.ofList, extend, List.foldl_map]

end OrderedMap

end Soap
