import Soap.Envelope.Decoder
import Soap.Proofs.Value.Complete
import Soap.Proofs.Value.Scalar
import Soap.Proofs.Xml.Name

/-!
# Values that fit a description

`Fits leaf s v` says that `v` has the shape that `s` describes, as far as a reader can tell: a
repeatable field holds a list and any other field holds a list only if it has two items or more;
what is empty can be told from what it is not; and the scalars are as `leaf` says. There are two
such readers. Documents are read by their types (`Conforms`); the parameters of a call stay text
(`FitsUntyped`).
-/

namespace Soap

open Xml (isLocalName)

mutual

/-- The value fits the description `s`. -/
def Fits (leaf : Option Description → Value → Prop) (s : Option Description) : Value → Prop
  | .null | .list _ => False
  | .object fields =>
    (fields.map Prod.fst).Nodup ∧ (∀ key ∈ fields.map Prod.fst, isLocalName key = true) ∧
      (fields = [] → s.any Description.isLeaf = false) ∧ FieldsFit leaf s fields
  | v@(.string _) | v@(.int _) | v@(.float _) | v@(.bool _) | v@(.dateTime _) => leaf s v

/-- Each field fits what `s` says of its key. -/
def FieldsFit (leaf : Option Description → Value → Prop) (s : Option Description) :
    List (String × Value) → Prop
  | [] => True
  | (key, v) :: rest =>
    (match v with
      | .list items =>
        (if s.any (·.isRepeated key) then items ≠ [] else 2 ≤ items.length) ∧
          ItemsFit leaf (s.bind (·.child? key)) items
      | v => s.any (·.isRepeated key) = false ∧ Fits leaf (s.bind (·.child? key)) v) ∧
    FieldsFit leaf s rest

/-- Each item fits the description `s`. -/
def ItemsFit (leaf : Option Description → Value → Prop) (s : Option Description) : List Value → Prop
  | [] => True
  | item :: rest => Fits leaf s item ∧ ItemsFit leaf s rest

end

/-- The value fits what `s` says of the key: a list by its items, any other value by itself. -/
def FieldFits (leaf : Option Description → Value → Prop) (s : Option Description) (key : String) :
    Value → Prop
  | .list items =>
    (if s.any (·.isRepeated key) then items ≠ [] else 2 ≤ items.length) ∧
      ItemsFit leaf (s.bind (·.child? key)) items
  | v => s.any (·.isRepeated key) = false ∧ Fits leaf (s.bind (·.child? key)) v

theorem fieldsFit_cons {leaf : Option Description → Value → Prop} {s : Option Description}
    {key : String} {v : Value} {rest : List (String × Value)} :
    FieldsFit leaf s ((key, v) :: rest) ↔ FieldFits leaf s key v ∧ FieldsFit leaf s rest := by
  cases v <;> rfl

/-! ## Leaves -/

/-- A scalar of the kind that the description declares. -/
def IsTypedLeaf (s : Option Description) : Value → Prop
  | .int _ => s.bind Description.scalarKind? = some .integer
  | .bool _ => s.bind Description.scalarKind? = some .boolean
  | .dateTime t => s.bind Description.scalarKind? = some .dateTime ∧ 0 ≤ t.year ∧ t.year ≤ 9999
  | .string text =>
    Text.trim text = text ∧
      (s.bind Description.scalarKind? = none ∨ s.bind Description.scalarKind? = some .text) ∧
      (text = "" → s.any Description.isLeaf = true)
  | .null | .float _ | .list _ | .object _ => False

/-- A scalar of any kind. -/
def IsUntypedLeaf (s : Option Description) : Value → Prop
  | .int _ | .bool _ | .float _ | .dateTime _ => True
  | .string text => Text.trim text = text ∧ (text = "" → s.any Description.isLeaf = true)
  | .null | .list _ | .object _ => False

/-- The value conforms to the description: it fits, and its scalars are of the declared kinds. -/
def Conforms (s : Option Description) (v : Value) : Prop := Fits IsTypedLeaf s v

/-- The value fits the description, whatever the kinds of its scalars. -/
def FitsUntyped (s : Option Description) (v : Value) : Prop := Fits IsUntypedLeaf s v

/-- What the text of an element with the description `s` is read as. -/
def leafKind (typed : Bool) (s : Option Description) : ScalarKind :=
  if typed then (s.bind Description.scalarKind?).getD .text else .text

/-- What an element holds that was closed after the text `text` and nothing else. -/
def readText (typed : Bool) (s : Option Description) (text : String) : Partial :=
  (match Text.trimChars text.toList with
    | [] => Partial.empty
    | trimmed => .scalar (.coerce (leafKind typed s) (String.ofList trimmed))).close
    (s.any Description.isLeaf)

/-- Scalars that `leaf` admits are read back from their texts, changed by `f`. -/
def ReadBack (typed : Bool) (leaf : Option Description → Value → Prop) (f : Value → Value) : Prop :=
  ∀ s v, leaf s v → ∃ text, v.scalarText? = some text ∧ readText typed s text = .ofValue (f v)

/-- What a text is read as is a scalar. -/
theorem ofValue_coerce (kind : ScalarKind) (text : String) :
    Partial.ofValue (.coerce kind text) = .scalar (.coerce kind text) := by
  cases kind with
  | integer => cases h : Text.leadingInt64? text.toList <;> simp [Value.coerce, h, Partial.ofValue]
  | dateTime => cases h : Timestamp.parse? text <;> simp [Value.coerce, h, Partial.ofValue]
  | boolean | text => rfl

/-- An element with one text is complete. -/
theorem exists_readText (typed : Bool) (s : Option Description) (text : String) :
    ∃ u, readText typed s text = .ofValue u := by
  unfold readText
  split
  · cases s.any Description.isLeaf with
    | true => exact ⟨.string "", rfl⟩
    | false => exact ⟨.object [], rfl⟩
  · exact ⟨_, (ofValue_coerce _ _).symm⟩

/-- A trimmed text is read by its kind, if there is anything of it. -/
theorem readText_of_ne_empty {typed : Bool} {s : Option Description} {text : String} (hne : text ≠ "")
    (htrim : Text.trim text = text) : readText typed s text = .scalar (.coerce (leafKind typed s) text) := by
  have hchars : Text.trimChars text.toList = text.toList := by
    rw [← String.toList_inj, Text.trim, String.toList_ofList] at htrim
    exact htrim
  unfold readText
  rw [hchars]
  split
  · next hnil => exact absurd (String.toList_inj.mp hnil) hne
  · rw [Partial.close, String.ofList_toList]
    exact fun h => by cases h

/-- A solid text is read as it is. -/
theorem readText_of_isSolid {typed : Bool} {s : Option Description} {text : String}
    (h : IsSolid text.toList) :
    readText typed s text = .scalar (.coerce (leafKind typed s) text) := by
  apply readText_of_ne_empty
  · rintro rfl
    exact h.ne_nil rfl
  · rw [Text.trim, h.trimChars, String.ofList_toList]

/-- A trimmed string is read as it is where text is expected, if it is told from nothing. -/
theorem readText_of_trim {typed : Bool} {s : Option Description} {text : String}
    (htrim : Text.trim text = text) (hkind : leafKind typed s = .text)
    (hleaf : text = "" → s.any Description.isLeaf = true) :
    readText typed s text = .scalar (.string text) := by
  by_cases hempty : text = ""
  · show Partial.close _ _ = _
    rw [hleaf hempty, hempty]
    rfl
  · rw [readText_of_ne_empty hempty htrim, hkind, Value.coerce_text]

section

variable {typed : Bool} {s : Option Description}

/-- An integer is read back where integers are expected. -/
theorem readText_int (h : leafKind typed s = .integer) (n : Int64) :
    readText typed s (toString n.toInt) = .scalar (.int n) := by
  rw [readText_of_isSolid (Value.isSolid_scalarText (v := .int n) rfl rfl), h, Value.coerce_int]

/-- A truth value is read back where truth values are expected. -/
theorem readText_bool (h : leafKind typed s = .boolean) (b : Bool) :
    readText typed s (if b then "true" else "false") = .scalar (.bool b) := by
  rw [readText_of_isSolid (Value.isSolid_scalarText (v := .bool b) rfl rfl), h, Value.coerce_bool]

/-- A timestamp is read back where timestamps are expected. -/
theorem readText_dateTime (h : leafKind typed s = .dateTime) {t : Timestamp} (ht : 0 ≤ t.year ∧ t.year ≤ 9999) :
    readText typed s t.render = .scalar (.dateTime t) := by
  rw [readText_of_isSolid (Value.isSolid_scalarText (v := .dateTime t) rfl rfl), h, Value.coerce_dateTime ht]

end

/-- Typed leaves are read back as they are. -/
theorem readBack_typed : ReadBack true IsTypedLeaf id := by
  intro s v hv
  have hkind : ∀ {kind}, s.bind Description.scalarKind? = some kind → leafKind true s = kind := by
    intro kind h
    simp [leafKind, h]
  cases v with
  | int n => exact ⟨_, rfl, readText_int (hkind hv) n⟩
  | bool b => exact ⟨_, rfl, readText_bool (hkind hv) b⟩
  | dateTime t => exact ⟨_, rfl, readText_dateTime (hkind hv.1) hv.2⟩
  | string text =>
    obtain ⟨htrim, hkind, hleaf⟩ := hv
    have htext : leafKind true s = .text := by rcases hkind with h | h <;> simp [leafKind, h]
    exact ⟨text, rfl, readText_of_trim htrim htext hleaf⟩
  | null | float _ | list _ | object _ => cases hv

/-! ## Other leaves -/

section Mono

variable {leaf leaf' : Option Description → Value → Prop} {P : Option Description → Prop}

mutual

/-- What fits goes on to fit if every leaf it may have is admitted. `P` holds of the descriptions
that are met. -/
theorem Fits.mono (hchild : ∀ s key, P s → P (s.bind (·.child? key)))
    (hleaf : ∀ s v, P s → leaf s v → leaf' s v) {s : Option Description} (hs : P s) {v : Value}
    (h : Fits leaf s v) : Fits leaf' s v := by
  match v with
  | .null | .list _ => exact h.elim
  | .string _ | .int _ | .float _ | .bool _ | .dateTime _ => exact hleaf s _ hs h
  | .object fields => exact ⟨h.1, h.2.1, h.2.2.1, FieldsFit.mono hchild hleaf hs h.2.2.2⟩

theorem FieldsFit.mono (hchild : ∀ s key, P s → P (s.bind (·.child? key)))
    (hleaf : ∀ s v, P s → leaf s v → leaf' s v) {s : Option Description} (hs : P s)
    {fields : List (String × Value)} (h : FieldsFit leaf s fields) : FieldsFit leaf' s fields := by
  match fields with
  | [] => trivial
  | (key, v) :: rest =>
    obtain ⟨hfield, hrest⟩ := fieldsFit_cons.mp h
    refine fieldsFit_cons.mpr ⟨?_, FieldsFit.mono hchild hleaf hs hrest⟩
    match v with
    | .list items => exact ⟨hfield.1, ItemsFit.mono hchild hleaf (hchild s key hs) hfield.2⟩
    | .null | .object _ | .string _ | .int _ | .float _ | .bool _ | .dateTime _ =>
      exact ⟨hfield.1, Fits.mono hchild hleaf (hchild s key hs) hfield.2⟩

theorem ItemsFit.mono (hchild : ∀ s key, P s → P (s.bind (·.child? key)))
    (hleaf : ∀ s v, P s → leaf s v → leaf' s v) {s : Option Description} (hs : P s)
    {items : List Value} (h : ItemsFit leaf s items) : ItemsFit leaf' s items := by
  match items with
  | [] => trivial
  | item :: rest => exact ⟨Fits.mono hchild hleaf hs h.1, ItemsFit.mono hchild hleaf hs h.2⟩

end

end Mono

/-- Leaves whose texts are kept. -/
def IsKeptLeaf (typed : Bool) (s : Option Description) (v : Value) : Prop :=
  IsUntypedLeaf s v ∧ leafKind typed s = .text

/-- Leaves whose texts are kept are read back as their texts. -/
theorem readBack_kept (typed : Bool) : ReadBack typed (IsKeptLeaf typed) Value.asText := by
  intro s v ⟨hv, hkind⟩
  -- A string is trimmed by assumption; the texts of all other scalars hold no blanks.
  have hsolid : ∀ {text}, v.scalarText? = some text → v.string? = none →
      ∃ text, v.scalarText? = some text ∧ readText typed s text = .ofValue v.asText := by
    intro text htext hstring
    refine ⟨text, htext, ?_⟩
    rw [readText_of_isSolid (Value.isSolid_scalarText htext hstring), hkind, Value.asText, htext]
    rfl
  cases v with
  | int _ | bool _ | float _ | dateTime _ => exact hsolid rfl rfl
  | string text => exact ⟨text, rfl, readText_of_trim hv.1 hkind hv.2⟩
  | null | list _ | object _ => cases hv

/-- Without types, every text is kept. -/
theorem FitsUntyped.kept {s : Option Description} {v : Value} (h : FitsUntyped s v) :
    Fits (IsKeptLeaf false) s v :=
  Fits.mono (P := fun _ => True) (fun _ _ _ => trivial) (fun _ _ _ hv => ⟨hv, rfl⟩) trivial h

/-- Where nothing is described, every text is kept. -/
theorem FitsUntyped.kept_of_absent {v : Value} (h : FitsUntyped (some .absent) v) :
    Fits (IsKeptLeaf true) (some .absent) v := by
  -- Nothing is said of the children of what is absent.
  refine Fits.mono (P := fun s => s = none ∨ s = some .absent) ?_ ?_ (.inr rfl) h
  · rintro s key (rfl | rfl) <;> exact .inl rfl
  · rintro s v (rfl | rfl) hv <;> exact ⟨hv, rfl⟩

end Soap
