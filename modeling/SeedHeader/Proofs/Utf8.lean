import SeedHeader.Text.Utf8

/-!
# Proofs — Decoding undoes encoding

The bytes that a text is encoded in are decoded to the text (`decodeUtf8_encodeUtf8`).  A character
is encoded in one to four bytes.  The first announces the ranges of the others; they are narrower
than need be in four cases, which leave out what is encoded in fewer bytes, the surrogates, and
what lies beyond the last code point.
-/

namespace SeedHeader.Text

/-- The bytes of a text. -/
def encodeUtf8 (text : List Char) : List UInt8 := text.flatMap String.utf8EncodeChar

/-! ### First bytes -/

/-- What a first byte announces, by its number. -/
theorem announce_ofNat {n : Nat} (hn : n < 0x100) :
    announce (UInt8.ofNat n) =
      if n < 0x80 then some (n, [])
      else if n < 0xC2 then none
      else if n < 0xE0 then some (n % 0x20, [(0x80, 0xBF)])
      else if n = 0xE0 then some (0x0, [(0xA0, 0xBF), (0x80, 0xBF)])
      else if n = 0xED then some (0xD, [(0x80, 0x9F), (0x80, 0xBF)])
      else if n < 0xF0 then some (n % 0x10, [(0x80, 0xBF), (0x80, 0xBF)])
      else if n = 0xF0 then some (0x0, [(0x90, 0xBF), (0x80, 0xBF), (0x80, 0xBF)])
      else if n < 0xF4 then some (n % 0x8, [(0x80, 0xBF), (0x80, 0xBF), (0x80, 0xBF)])
      else if n = 0xF4 then some (0x4, [(0x80, 0x8F), (0x80, 0xBF), (0x80, 0xBF)])
      else none := by
  have hto : (UInt8.ofNat n).toNat = n := UInt8.toNat_ofNat_of_lt' hn
  simp only [announce, UInt8.lt_iff_toNat_lt, ← UInt8.toNat_inj, hto, UInt8.reduceToNat]

theorem follow_ofNat {bits n : Nat} {r : UInt8 × UInt8} (hn : n < 0x100) (hlow : r.1.toNat ≤ n)
    (hhigh : n ≤ r.2.toNat) (rs : List (UInt8 × UInt8)) (bs : List UInt8) :
    follow bits (r :: rs) (UInt8.ofNat n :: bs) = follow (bits * 0x40 + n % 0x40) rs bs := by
  have hto : (UInt8.ofNat n).toNat = n := UInt8.toNat_ofNat_of_lt' hn
  rw [follow, if_pos, hto]
  simp [UInt8.le_iff_toNat_le, hto, hlow, hhigh]

theorem decodeUtf8_of_announce {b : UInt8} {bits : Nat} {ranges : List (UInt8 × UInt8)}
    (h : announce b = some (bits, ranges)) (bs : List UInt8) :
    decodeUtf8 (b :: bs) =
      (follow bits ranges bs).1 :: decodeUtf8 (follow bits ranges bs).2 := by
  rw [decodeUtf8, h]

/-! ### Characters of one to four bytes -/

section
variable {v : Nat} (bs : List UInt8)

theorem decodeUtf8_one (h : v < 0x80) :
    decodeUtf8 (UInt8.ofNat v :: bs) = Char.ofNat v :: decodeUtf8 bs := by
  have ha : announce (UInt8.ofNat v) = some (v, []) := by
    rw [announce_ofNat (by omega), if_pos h]
  rw [decodeUtf8_of_announce ha, follow]

/-- The last byte of a character may be any byte that goes on. -/
theorem follow_last {bits : Nat} (hv : bits = v / 64) :
    follow bits [(0x80, 0xBF)] (UInt8.ofNat (v % 64 + 128) :: bs) = (Char.ofNat v, bs) := by
  have hbits : bits * 0x40 + (v % 64 + 128) % 0x40 = v := by omega
  rw [follow_ofNat (by omega), hbits, follow]
  · simp only [UInt8.reduceToNat]
    omega
  · simp only [UInt8.reduceToNat]
    omega

theorem decodeUtf8_two (hlow : 0x80 ≤ v) (hhigh : v < 0x800) :
    decodeUtf8 (UInt8.ofNat (v / 64 % 32 + 192) :: UInt8.ofNat (v % 64 + 128) :: bs) =
      Char.ofNat v :: decodeUtf8 bs := by
  have ha : announce (UInt8.ofNat (v / 64 % 32 + 192)) =
      some ((v / 64 % 32 + 192) % 0x20, [(0x80, 0xBF)]) := by
    simp (disch := omega) only [announce_ofNat, if_pos, if_neg]
  rw [decodeUtf8_of_announce ha, follow_last bs (by omega)]

/-- The first of three bytes admits the second, unless the three stand for a surrogate. -/
theorem announce_three (hlow : 0x800 ≤ v) (hhigh : v < 0x10000) (hv : v < 0xD800 ∨ 0xE000 ≤ v) :
    ∃ r, announce (UInt8.ofNat (v / 4096 % 16 + 224)) = some (v / 4096, [r, (0x80, 0xBF)]) ∧
      r.1.toNat ≤ v / 64 % 64 + 128 ∧ v / 64 % 64 + 128 ≤ r.2.toNat := by
  rw [announce_ofNat (by omega)]
  -- the byte E0 leaves out what fits into two bytes, the byte ED the surrogates
  by_cases h₁ : v / 4096 = 0
  · refine ⟨(0xA0, 0xBF), ?_, ?_⟩
    · rw [h₁]
      rfl
    · simp only [UInt8.reduceToNat]
      omega
  by_cases h₂ : v / 4096 = 13
  · refine ⟨(0x80, 0x9F), ?_, ?_⟩
    · rw [h₂]
      rfl
    · simp only [UInt8.reduceToNat]
      omega
  · refine ⟨(0x80, 0xBF), ?_, ?_⟩
    · simp (disch := omega) only [if_pos, if_neg]
      rw [show (v / 4096 % 16 + 224) % 16 = v / 4096 by omega]
    · simp only [UInt8.reduceToNat]
      omega

theorem decodeUtf8_three (hlow : 0x800 ≤ v) (hhigh : v < 0x10000) (hv : v < 0xD800 ∨ 0xE000 ≤ v) :
    decodeUtf8 (UInt8.ofNat (v / 4096 % 16 + 224) :: UInt8.ofNat (v / 64 % 64 + 128) ::
      UInt8.ofNat (v % 64 + 128) :: bs) = Char.ofNat v :: decodeUtf8 bs := by
  obtain ⟨r, ha, h₁, h₂⟩ := announce_three hlow hhigh hv
  rw [decodeUtf8_of_announce ha, follow_ofNat (by omega) h₁ h₂, follow_last bs (by omega)]

/-- The first of four bytes admits the second, unless the four go beyond the last code point. -/
theorem announce_four (hlow : 0x10000 ≤ v) (hhigh : v < 0x110000) :
    ∃ r, announce (UInt8.ofNat (v / 262144 % 8 + 240)) =
        some (v / 262144, [r, (0x80, 0xBF), (0x80, 0xBF)]) ∧
      r.1.toNat ≤ v / 4096 % 64 + 128 ∧ v / 4096 % 64 + 128 ≤ r.2.toNat := by
  rw [announce_ofNat (by omega)]
  -- the byte F0 leaves out what fits into three bytes, the byte F4 what is beyond all code points
  by_cases h₁ : v / 262144 = 0
  · refine ⟨(0x90, 0xBF), ?_, ?_⟩
    · rw [h₁]
      rfl
    · simp only [UInt8.reduceToNat]
      omega
  by_cases h₂ : v / 262144 = 4
  · refine ⟨(0x80, 0x8F), ?_, ?_⟩
    · rw [h₂]
      rfl
    · simp only [UInt8.reduceToNat]
      omega
  · refine ⟨(0x80, 0xBF), ?_, ?_⟩
    · simp (disch := omega) only [if_pos, if_neg]
      rw [show (v / 262144 % 8 + 240) % 8 = v / 262144 by omega]
    · simp only [UInt8.reduceToNat]
      omega

theorem decodeUtf8_four (hlow : 0x10000 ≤ v) (hhigh : v < 0x110000) :
    decodeUtf8 (UInt8.ofNat (v / 262144 % 8 + 240) :: UInt8.ofNat (v / 4096 % 64 + 128) ::
      UInt8.ofNat (v / 64 % 64 + 128) :: UInt8.ofNat (v % 64 + 128) :: bs) =
        Char.ofNat v :: decodeUtf8 bs := by
  obtain ⟨r, ha, h₁, h₂⟩ := announce_four hlow hhigh
  have hrange : (0x80 : UInt8).toNat ≤ v / 64 % 64 + 128 ∧
      v / 64 % 64 + 128 ≤ (0xBF : UInt8).toNat := by
    simp only [UInt8.reduceToNat]
    omega
  rw [decodeUtf8_of_announce ha, follow_ofNat (by omega) h₁ h₂,
    follow_ofNat (by omega) hrange.1 hrange.2, follow_last bs (by omega)]

end

/-! ### Texts -/

theorem decodeUtf8_char (c : Char) (bs : List UInt8) :
    decodeUtf8 (String.utf8EncodeChar c ++ bs) = c :: decodeUtf8 bs := by
  have hvalid : c.val.toNat < 0xD800 ∨ 0xDFFF < c.val.toNat ∧ c.val.toNat < 0x110000 := c.valid
  have hof : Char.ofNat c.val.toNat = c := Char.ofNat_toNat c
  rw [String.utf8EncodeChar]
  split
  · rw [List.singleton_append, decodeUtf8_one bs (by omega), hof]
  split
  · exact (decodeUtf8_two bs (by omega) (by omega)).trans (by rw [hof])
  split
  · exact (decodeUtf8_three bs (by omega) (by omega) (by omega)).trans (by rw [hof])
  · exact (decodeUtf8_four bs (by omega) (by omega)).trans (by rw [hof])

/-- **Decoding undoes encoding.** -/
theorem decodeUtf8_encodeUtf8 (text : List Char) : decodeUtf8 (encodeUtf8 text) = text := by
  induction text with
  | nil => rw [encodeUtf8, List.flatMap_nil, decodeUtf8]
  | cons c text ih =>
    rw [encodeUtf8] at ih ⊢
    rw [List.flatMap_cons, decodeUtf8_char, ih]

end SeedHeader.Text
