import Typings.Text.Utf8

/-!
# Encoded text is decoded again

The bytes of a character start a sequence of the right length, and the bytes that follow lie within
the bounds that this sequence sets for them.
-/

namespace Typings.Text

variable {offset : Nat} {b : UInt8} {p : Pending} {rest : List UInt8}

/-! ## Steps of decoding -/

theorem decodeFrom_ascii (h : b.toNat < 0x80) :
    decodeFrom offset none (b :: rest) =
      (decodeFrom (offset + 1) none rest).map (Char.ofNat b.toNat :: ·) := by
  rw [decodeFrom, if_pos h]
  rfl

theorem decodeFrom_lead (h : 0x80 ≤ b.toNat) (hp : startSequence? offset b = some p) :
    decodeFrom offset none (b :: rest) = decodeFrom (offset + 1) (some p) rest := by
  rw [decodeFrom, if_neg (by omega), hp]

theorem decodeFrom_more {start code more least greatest : Nat} {lead : UInt8}
    (hl : least ≤ b.toNat) (hg : b.toNat ≤ greatest) :
    decodeFrom offset (some ⟨start, lead, code, more + 1, least, greatest⟩) (b :: rest) =
      decodeFrom (offset + 1)
        (some ⟨start, lead, 64 * code + (b.toNat - 0x80), more, 0x80, 0xbf⟩) rest := by
  rw [decodeFrom, if_pos ⟨hl, hg⟩]

theorem decodeFrom_last {start code least greatest : Nat} {lead : UInt8}
    (hl : least ≤ b.toNat) (hg : b.toNat ≤ greatest) :
    decodeFrom offset (some ⟨start, lead, code, 0, least, greatest⟩) (b :: rest) =
      (decodeFrom (offset + 1) none rest).map (Char.ofNat (64 * code + (b.toNat - 0x80)) :: ·) := by
  rw [decodeFrom, if_pos ⟨hl, hg⟩]
  rfl

/-! ## Sequences -/

theorem startSequence?_two (hl : 0xc2 ≤ b.toNat) (hg : b.toNat < 0xe0) :
    startSequence? offset b = some ⟨offset, b, b.toNat - 0xc0, 0, 0x80, 0xbf⟩ := by
  simp only [startSequence?]
  rw [if_neg (by omega), if_pos hg]

/-- Overlong forms and surrogates are kept out by the bounds of the second byte. -/
theorem startSequence?_three (hl : 0xe0 ≤ b.toNat) (hg : b.toNat < 0xf0) :
    startSequence? offset b = some ⟨offset, b, b.toNat - 0xe0, 1,
      if b.toNat = 0xe0 then 0xa0 else 0x80, if b.toNat = 0xed then 0x9f else 0xbf⟩ := by
  simp only [startSequence?]
  rw [if_neg (by omega), if_neg (by omega)]
  by_cases h0 : b.toNat = 0xe0
  · simp [h0]
  by_cases hd : b.toNat = 0xed
  · simp [hd]
  · simp [h0, hd, hg]

/-- Overlong forms and what is beyond the last code point are kept out in the same way. -/
theorem startSequence?_four (hl : 0xf0 ≤ b.toNat) (hg : b.toNat ≤ 0xf4) :
    startSequence? offset b = some ⟨offset, b, b.toNat - 0xf0, 2,
      if b.toNat = 0xf0 then 0x90 else 0x80, if b.toNat = 0xf4 then 0x8f else 0xbf⟩ := by
  simp only [startSequence?]
  rw [if_neg (by omega), if_neg (by omega), if_neg (by omega), if_neg (by omega),
    if_neg (by omega)]
  by_cases h0 : b.toNat = 0xf0
  · simp [h0]
  by_cases h4 : b.toNat = 0xf4
  · simp [h4]
  · have : b.toNat < 0xf4 := by omega
    simp [h0, h4, this]

/-! ## Characters -/

theorem toNat_ofNat_of_lt {n : Nat} (h : n < 256) : (UInt8.ofNat n).toNat = n := by
  simp only [UInt8.toNat_ofNat']
  omega

theorem char_not_surrogate (c : Char) :
    c.toNat < 0xd800 ∨ 0xe000 ≤ c.toNat ∧ c.toNat < 0x110000 := by
  have hv : c.val.toNat = c.toNat := rfl
  rcases c.valid with h | h
  · exact .inl h
  · right
    omega

theorem decodeFrom_encodeChar (offset : Nat) (c : Char) (rest : List UInt8) :
    ∃ next, decodeFrom offset none (String.utf8EncodeChar c ++ rest) =
      (decodeFrom next none rest).map (c :: ·) := by
  have hv : c.val.toNat = c.toNat := rfl
  have hc := char_not_surrogate c
  unfold String.utf8EncodeChar
  simp only [hv]
  split
  · have hb := toNat_ofNat_of_lt (n := c.toNat) (by omega)
    refine ⟨offset + 1, ?_⟩
    rw [List.singleton_append, decodeFrom_ascii (by omega), hb, Char.ofNat_toNat]
  split
  · have h0 := toNat_ofNat_of_lt (n := c.toNat / 64 % 32 + 192) (by omega)
    have h1 := toNat_ofNat_of_lt (n := c.toNat % 64 + 128) (by omega)
    refine ⟨offset + 2, ?_⟩
    rw [List.cons_append, List.singleton_append,
      decodeFrom_lead (by omega) (startSequence?_two (by omega) (by omega)),
      decodeFrom_last (by omega) (by omega), h0, h1,
      show 64 * (c.toNat / 64 % 32 + 192 - 0xc0) + (c.toNat % 64 + 128 - 0x80) = c.toNat by omega,
      Char.ofNat_toNat]
  split
  · have h0 := toNat_ofNat_of_lt (n := c.toNat / 4096 % 16 + 224) (by omega)
    have h1 := toNat_ofNat_of_lt (n := c.toNat / 64 % 64 + 128) (by omega)
    have h2 := toNat_ofNat_of_lt (n := c.toNat % 64 + 128) (by omega)
    refine ⟨offset + 3, ?_⟩
    rw [List.cons_append, List.cons_append, List.singleton_append,
      decodeFrom_lead (by omega) (startSequence?_three (by omega) (by omega)),
      decodeFrom_more (by split <;> omega) (by split <;> omega),
      decodeFrom_last (by omega) (by omega), h0, h1, h2,
      show 64 * (64 * (c.toNat / 4096 % 16 + 224 - 0xe0) + (c.toNat / 64 % 64 + 128 - 0x80))
        + (c.toNat % 64 + 128 - 0x80) = c.toNat by omega, Char.ofNat_toNat]
  · have h0 := toNat_ofNat_of_lt (n := c.toNat / 262144 % 8 + 240) (by omega)
    have h1 := toNat_ofNat_of_lt (n := c.toNat / 4096 % 64 + 128) (by omega)
    have h2 := toNat_ofNat_of_lt (n := c.toNat / 64 % 64 + 128) (by omega)
    have h3 := toNat_ofNat_of_lt (n := c.toNat % 64 + 128) (by omega)
    refine ⟨offset + 4, ?_⟩
    rw [List.cons_append, List.cons_append, List.cons_append, List.singleton_append,
      decodeFrom_lead (by omega) (startSequence?_four (by omega) (by omega)),
      decodeFrom_more (by split <;> omega) (by split <;> omega),
      decodeFrom_more (by omega) (by omega), decodeFrom_last (by omega) (by omega), h0, h1, h2, h3,
      show 64 * (64 * (64 * (c.toNat / 262144 % 8 + 240 - 0xf0) + (c.toNat / 4096 % 64 + 128 - 0x80))
        + (c.toNat / 64 % 64 + 128 - 0x80)) + (c.toNat % 64 + 128 - 0x80) = c.toNat by omega,
      Char.ofNat_toNat]

/-! ## Texts -/

theorem decodeFrom_encodeChars (offset : Nat) (cs : List Char) :
    decodeFrom offset none (cs.flatMap String.utf8EncodeChar) = .ok cs := by
  induction cs generalizing offset with
  | nil => rfl
  | cons c cs ih =>
      obtain ⟨next, h⟩ := decodeFrom_encodeChar offset c (cs.flatMap String.utf8EncodeChar)
      rw [List.flatMap_cons, h, ih]
      rfl

/-- The bytes of an array from an index on are listed behind those already listed. -/
theorem byteList_loop (bytes : ByteArray) (i : Nat) (listed : List UInt8) :
    ByteArray.toList.loop bytes i listed = listed.reverse ++ bytes.data.toList.drop i := by
  fun_induction ByteArray.toList.loop bytes i listed with
  | case1 i listed h ih =>
      have hi : i < bytes.data.toList.length := by simpa using h
      rw [ih, List.drop_eq_getElem_cons hi]
      simp [ByteArray.get!, h]
  | case2 i listed h =>
      have hi : bytes.data.toList.length ≤ i := by simpa using h
      rw [List.drop_eq_nil_of_le hi, List.append_nil]

theorem encodeUtf8_eq (text : String) :
    encodeUtf8 text = text.toList.flatMap String.utf8EncodeChar := by
  have ht : text.toUTF8 = text.toList.utf8Encode := by
    rw [String.toUTF8_eq_toByteArray, ← String.toByteArray_ofList, String.ofList_toList]
  rw [encodeUtf8, ht, ByteArray.toList, byteList_loop]
  exact List.toList_data_toByteArray

theorem decodeUtf8_encodeUtf8 (text : String) : decodeUtf8 (encodeUtf8 text) = .ok text := by
  rw [decodeUtf8, encodeUtf8_eq, decodeFrom_encodeChars]
  exact congrArg Except.ok String.ofList_toList

end Typings.Text
