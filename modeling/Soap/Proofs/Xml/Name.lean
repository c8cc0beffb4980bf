import Soap.Xml.Token

/-!
# Names

The names of elements, attributes and prefixes, as the grammar of XML gives them, less the colon
that joins a prefix to a name. A tag is written with such a name, with or without a prefix; none of
its characters means anything else in markup (`ne_special_of_isTagChar`).
-/

namespace Soap.Xml

/-- Does the code point `n` lie in one of the closed intervals? -/
def inIntervals (intervals : List (Nat × Nat)) (n : Nat) : Bool :=
  intervals.any fun interval => interval.1 ≤ n && n ≤ interval.2

/-- May a name begin with `c`? -/
def isNameStart (c : Char) : Bool :=
  inIntervals
    [(0x41, 0x5a), (0x5f, 0x5f), (0x61, 0x7a), (0xc0, 0xd6), (0xd8, 0xf6), (0xf8, 0x2ff),
      (0x370, 0x37d), (0x37f, 0x1fff), (0x200c, 0x200d), (0x2070, 0x218f), (0x2c00, 0x2fef),
      (0x3001, 0xd7ff), (0xf900, 0xfdcf), (0xfdf0, 0xfffd), (0x10000, 0xeffff)] c.toNat

/-- May a name go on with `c`? -/
def isNameChar (c : Char) : Bool :=
  isNameStart c ||
    inIntervals [(0x2d, 0x2e), (0x30, 0x39), (0xb7, 0xb7), (0x300, 0x36f), (0x203f, 0x2040)] c.toNat

/-- Is `name` a name without a colon? -/
def isLocalName (name : String) : Bool :=
  match name.toList with
  | [] => false
  | first :: rest => isNameStart first && rest.all isNameChar

/-- A character of a name with or without a prefix. -/
def isTagChar (c : Char) : Bool := isNameChar c || c == ':'

/-- A text that can stand in a tag as its name, and cannot be taken for anything else there. -/
structure IsTag (tag : List Char) : Prop where
  ne_nil : tag ≠ []
  chars : ∀ c ∈ tag, isTagChar c = true

instance (tag : List Char) : Decidable (IsTag tag) :=
  decidable_of_iff (tag ≠ [] ∧ tag.all isTagChar = true)
    ⟨fun h => ⟨h.1, List.all_eq_true.mp h.2⟩, fun h => ⟨h.1, List.all_eq_true.mpr h.2⟩⟩

/-! ## Names in tags -/

theorem isLocalName_ne_nil {name : String} (h : isLocalName name = true) : name.toList ≠ [] := by
  intro hnil
  simp [isLocalName, hnil] at h

theorem isNameChar_of_isLocalName {name : String} (h : isLocalName name = true) :
    ∀ c ∈ name.toList, isNameChar c = true := by
  intro c hc
  unfold isLocalName at h
  cases hl : name.toList with
  | nil => rw [hl] at hc; cases hc
  | cons first rest =>
    simp only [hl, Bool.and_eq_true, List.all_eq_true] at h
    rw [hl] at hc
    rcases List.mem_cons.mp hc with rfl | hc
    · simp [isNameChar, h.1]
    · exact h.2 c hc

theorem ne_colon_of_isNameChar {c : Char} (h : isNameChar c = true) : c ≠ ':' := by
  rintro rfl
  exact absurd h (by decide)

/-- A name is a tag. -/
theorem IsTag.ofName {name : String} (h : isLocalName name = true) : IsTag name.toList where
  ne_nil := isLocalName_ne_nil h
  chars c hc := by simp [isTagChar, isNameChar_of_isLocalName h c hc]

/-- A name behind a prefix is a tag. -/
theorem IsTag.ofQualified {space name : String} (hs : isLocalName space = true)
    (hn : isLocalName name = true) : IsTag (space ++ ":" ++ name).toList where
  ne_nil := by simp
  chars c hc := by
    simp only [String.toList_append, List.mem_append] at hc
    rcases hc with (hc | hc) | hc
    · exact (IsTag.ofName hs).chars c hc
    · have : c = ':' := by simpa using hc
      simp [this, isTagChar]
    · exact (IsTag.ofName hn).chars c hc

/-! ## What a character of a tag is not -/

/-- The characters that mean something in markup. -/
def specialChars : List Char := " \t\n\r<>/\"'=!?&".toList

/-- No character of a tag means anything else. -/
theorem ne_special_of_isTagChar {c : Char} (h : isTagChar c = true) :
    ∀ d ∈ specialChars, c ≠ d := by
  rintro d hd rfl
  have hall : specialChars.all (!isTagChar ·) = true := by decide
  have hnot := List.all_eq_true.mp hall c hd
  rw [h] at hnot
  cases hnot

theorem isSpace_of_isTagChar {c : Char} (h : isTagChar c = true) : isSpace c = false := by
  have hne := ne_special_of_isTagChar h
  simp [isSpace, hne ' ' (by decide), hne '\t' (by decide), hne '\n' (by decide),
    hne '\r' (by decide)]

end Soap.Xml
