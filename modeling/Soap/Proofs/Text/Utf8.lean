import Soap.Text.Utf8

/-!
# Bytes of texts

The bytes of a text read back as the text, by the strict reading (`Utf8.decode_encode`) and by the
lenient one (`Utf8.decodeLossy_encode`). A character is a leading byte, whose range tells how many
bytes follow, and bytes of six bits each.
-/

namespace Soap.Utf8

/-! ## One byte -/

theorem piecesFrom_complete {index : Nat} {b : UInt8} {c : Char}
    (h : Lead.ofByte index b = .complete c) (rest : List UInt8) :
    piecesFrom index none (b :: rest) = .ok c :: piecesFrom (index + 1) none rest := by
  simp [piecesFrom, h]

theorem piecesFrom_begins {index : Nat} {b : UInt8} {p : Partial}
    (h : Lead.ofByte index b = .begins p) (rest : List UInt8) :
    piecesFrom index none (b :: rest) = piecesFrom (index + 1) (some p) rest := by
  simp [piecesFrom, h]

/-- A byte in bounds goes on with the character. -/
theorem piecesFrom_more {p : Partial} (index : Nat) {b : UInt8} (hlow : p.low ≤ b.toNat)
    (hhigh : b.toNat ≤ p.high) (hmissing : p.missing ≠ 1) (rest : List UInt8) :
    piecesFrom index (some p) (b :: rest) =
      piecesFrom (index + 1)
        (some ⟨p.start, p.read + 1, p.missing - 1, 0x80, 0xbf, p.bits * 64 + (b.toNat - 0x80)⟩) rest := by
  simp [piecesFrom, hlow, hhigh, hmissing]

/-- The last byte in bounds ends it. -/
theorem piecesFrom_last {p : Partial} (index : Nat) {b : UInt8} (hlow : p.low ≤ b.toNat)
    (hhigh : b.toNat ≤ p.high) (hmissing : p.missing = 1) (rest : List UInt8) :
    piecesFrom index (some p) (b :: rest) =
      .ok (Char.ofNat (p.bits * 64 + (b.toNat - 0x80))) :: piecesFrom (index + 1) none rest := by
  simp [piecesFrom, hlow, hhigh, hmissing]

theorem toNat_ofNat {n : Nat} (h : n < 256) : (UInt8.ofNat n).toNat = n := by
  rw [UInt8.toNat_ofNat', Nat.mod_eq_of_lt h]

/-! ## One character -/

variable (index : Nat) (rest : List UInt8) {v : Nat}

theorem piecesFrom_one (h : v ≤ 0x7f) :
    piecesFrom index none (UInt8.ofNat v :: rest) =
      .ok (Char.ofNat v) :: piecesFrom (index + 1) none rest := by
  have hn : (UInt8.ofNat v).toNat = v := toNat_ofNat (by omega)
  refine piecesFrom_complete ?_ rest
  rw [Lead.ofByte, hn, if_pos (by omega)]

theorem piecesFrom_two (hlow : 0x7f < v) (hhigh : v ≤ 0x7ff) :
    piecesFrom index none
      (UInt8.ofNat (v / 64 % 0x20 + 0xc0) :: UInt8.ofNat (v % 0x40 + 0x80) :: rest) =
      .ok (Char.ofNat v) :: piecesFrom (index + 2) none rest := by
  have h0 : (UInt8.ofNat (v / 64 % 0x20 + 0xc0)).toNat = v / 64 + 0xc0 := by
    rw [toNat_ofNat (by omega)]
    omega
  have h1 : (UInt8.ofNat (v % 0x40 + 0x80)).toNat = v % 0x40 + 0x80 := toNat_ofNat (by omega)
  have hlead : Lead.ofByte index (UInt8.ofNat (v / 64 % 0x20 + 0xc0)) =
      .begins ⟨index, 1, 1, 0x80, 0xbf, v / 64⟩ := by
    rw [Lead.ofByte, h0, if_neg (by omega), if_neg (by omega), if_pos (by omega)]
    simp
  rw [piecesFrom_begins hlead,
    piecesFrom_last (index + 1) (by rw [h1]; simp) (by rw [h1]; simp; omega) rfl, h1]
  have hbits : v / 64 * 64 + (v % 0x40 + 0x80 - 0x80) = v := by omega
  rw [hbits]

theorem piecesFrom_three (hlow : 0x7ff < v) (hhigh : v ≤ 0xffff)
    (hvalid : v < 0xd800 ∨ 0xdfff < v) :
    piecesFrom index none
        (UInt8.ofNat (v / 4096 % 0x10 + 0xe0) :: UInt8.ofNat (v / 64 % 0x40 + 0x80) ::
          UInt8.ofNat (v % 0x40 + 0x80) :: rest) =
      .ok (Char.ofNat v) :: piecesFrom (index + 3) none rest := by
  have h0 : (UInt8.ofNat (v / 4096 % 0x10 + 0xe0)).toNat = v / 4096 + 0xe0 := by
    rw [toNat_ofNat (by omega)]
    omega
  have h1 : (UInt8.ofNat (v / 64 % 0x40 + 0x80)).toNat = v / 64 % 0x40 + 0x80 :=
    toNat_ofNat (by omega)
  have h2 : (UInt8.ofNat (v % 0x40 + 0x80)).toNat = v % 0x40 + 0x80 := toNat_ofNat (by omega)
  -- The bounds of the second byte depend on the first.
  obtain ⟨low, high, hlead, hl, hh⟩ : ∃ low high,
      Lead.ofByte index (UInt8.ofNat (v / 4096 % 0x10 + 0xe0)) =
        .begins ⟨index, 1, 2, low, high, v / 4096⟩ ∧
      low ≤ v / 64 % 0x40 + 0x80 ∧ v / 64 % 0x40 + 0x80 ≤ high := by
    rw [Lead.ofByte, h0, if_neg (by omega), if_neg (by omega), if_neg (by omega)]
    by_cases hzero : v / 4096 + 0xe0 = 0xe0
    · rw [if_pos hzero]
      have hv : v / 4096 = 0 := by omega
      exact ⟨0xa0, 0xbf, by rw [hv], by omega, by omega⟩
    rw [if_neg hzero]
    by_cases hsurrogate : v / 4096 + 0xe0 = 0xed
    · rw [if_pos hsurrogate]
      have hv : v / 4096 = 0xd := by omega
      exact ⟨0x80, 0x9f, by rw [hv], by omega, by omega⟩
    · rw [if_neg hsurrogate, if_pos (by omega)]
      exact ⟨0x80, 0xbf, by simp, by omega, by omega⟩
  rw [piecesFrom_begins hlead,
    piecesFrom_more (index + 1) (by rw [h1]; exact hl) (by rw [h1]; exact hh) (by simp),
    piecesFrom_last (index + 2) (by rw [h2]; simp) (by rw [h2]; simp; omega) rfl, h1, h2]
  have hbits : (v / 4096 * 64 + (v / 64 % 0x40 + 0x80 - 0x80)) * 64 + (v % 0x40 + 0x80 - 0x80) =
    v := by omega
  rw [hbits]

theorem piecesFrom_four (hlow : 0xffff < v) (hhigh : v < 0x110000) :
    piecesFrom index none
        (UInt8.ofNat (v / 262144 % 0x08 + 0xf0) :: UInt8.ofNat (v / 4096 % 0x40 + 0x80) ::
          UInt8.ofNat (v / 64 % 0x40 + 0x80) :: UInt8.ofNat (v % 0x40 + 0x80) :: rest) =
      .ok (Char.ofNat v) :: piecesFrom (index + 4) none rest := by
  have h0 : (UInt8.ofNat (v / 262144 % 0x08 + 0xf0)).toNat = v / 262144 + 0xf0 := by
    rw [toNat_ofNat (by omega)]
    omega
  have h1 : (UInt8.ofNat (v / 4096 % 0x40 + 0x80)).toNat = v / 4096 % 0x40 + 0x80 :=
    toNat_ofNat (by omega)
  have h2 : (UInt8.ofNat (v / 64 % 0x40 + 0x80)).toNat = v / 64 % 0x40 + 0x80 :=
    toNat_ofNat (by omega)
  have h3 : (UInt8.ofNat (v % 0x40 + 0x80)).toNat = v % 0x40 + 0x80 := toNat_ofNat (by omega)
  -- So do they here, where no character above U+10FFFF is spelt.
  obtain ⟨low, high, hlead, hl, hh⟩ : ∃ low high,
      Lead.ofByte index (UInt8.ofNat (v / 262144 % 0x08 + 0xf0)) =
        .begins ⟨index, 1, 3, low, high, v / 262144⟩ ∧
      low ≤ v / 4096 % 0x40 + 0x80 ∧ v / 4096 % 0x40 + 0x80 ≤ high := by
    rw [Lead.ofByte, h0, if_neg (by omega), if_neg (by omega), if_neg (by omega), if_neg (by omega),
      if_neg (by omega), if_neg (by omega)]
    by_cases hzero : v / 262144 + 0xf0 = 0xf0
    · rw [if_pos hzero]
      have hv : v / 262144 = 0 := by omega
      exact ⟨0x90, 0xbf, by rw [hv], by omega, by omega⟩
    rw [if_neg hzero]
    by_cases hinner : v / 262144 + 0xf0 < 0xf4
    · rw [if_pos hinner]
      exact ⟨0x80, 0xbf, by simp, by omega, by omega⟩
    · have hv : v / 262144 = 4 := by omega
      rw [if_neg hinner, if_pos (by omega)]
      exact ⟨0x80, 0x8f, by rw [hv], by omega, by omega⟩
  rw [piecesFrom_begins hlead,
    piecesFrom_more (index + 1) (by rw [h1]; exact hl) (by rw [h1]; exact hh) (by simp),
    piecesFrom_more (index + 2) (by rw [h2]; simp) (by rw [h2]; simp; omega) (by simp),
    piecesFrom_last (index + 3) (by rw [h3]; simp) (by rw [h3]; simp; omega) rfl, h1, h2, h3]
  have hbits : ((v / 262144 * 64 + (v / 4096 % 0x40 + 0x80 - 0x80)) * 64 +
      (v / 64 % 0x40 + 0x80 - 0x80)) * 64 + (v % 0x40 + 0x80 - 0x80) = v := by omega
  rw [hbits]

/-- The bytes of a character are read as the character. -/
theorem piecesFrom_encodeChar (c : Char) :
    piecesFrom index none (String.utf8EncodeChar c ++ rest) =
      .ok c :: piecesFrom (index + (String.utf8EncodeChar c).length) none rest := by
  have hc : Char.ofNat c.val.toNat = c := Char.ofNat_toNat c
  have hvalid : c.val.toNat < 0xd800 ∨ 0xdfff < c.val.toNat ∧ c.val.toNat < 0x110000 := c.valid
  unfold String.utf8EncodeChar
  dsimp only
  split
  · next h => rw [List.singleton_append, piecesFrom_one index rest h, hc]; rfl
  split
  · next h1 h2 =>
    rw [List.cons_append, List.singleton_append, piecesFrom_two index rest (by omega) h2, hc]
    rfl
  split
  · next h1 h2 h3 =>
    rw [List.cons_append, List.cons_append, List.singleton_append,
      piecesFrom_three index rest (by omega) h3 (by omega), hc]
    rfl
  · next h1 h2 h3 =>
    rw [List.cons_append, List.cons_append, List.cons_append, List.singleton_append,
      piecesFrom_four index rest (by omega) (by omega), hc]
    rfl

/-! ## Whole texts -/

theorem piecesFrom_encode (cs : List Char) :
    piecesFrom index none (cs.flatMap String.utf8EncodeChar) = cs.map .ok := by
  induction cs generalizing index with
  | nil => rfl
  | cons c rest ih => rw [List.flatMap_cons, piecesFrom_encodeChar, ih, List.map_cons]

/-- A text reads back from its bytes. -/
theorem decode_encode (s : String) : decode (encode s) = .ok s := by
  have hpieces : pieces (encode s) = s.toList.map .ok := piecesFrom_encode 0 s.toList
  have hall : ∀ cs : List Char, (cs.map Except.ok : List Piece).mapM id = .ok cs := by
    intro cs
    induction cs with
    | nil => rfl
    | cons c rest ih =>
      rw [List.map_cons, List.mapM_cons, ih]
      rfl
  rw [decode, hpieces, hall]
  exact congrArg Except.ok String.ofList_toList

/-- Lenient reading does nothing else. -/
theorem decodeLossy_encode (s : String) : decodeLossy (encode s) = s := by
  have hpieces : pieces (encode s) = s.toList.map .ok := piecesFrom_encode 0 s.toList
  rw [decodeLossy, hpieces, List.map_map]
  simp [Function.comp_def]

end Soap.Utf8
