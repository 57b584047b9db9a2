import SeedHeader.Proofs.WellFormed

/-!
# Proofs — Numerals and what they stand for

Between the characters of a number and its value, both ways: a numeral that decodes as a float has
ASCII digits, and the decimal digits of a number within its range decode as that number.
-/

namespace SeedHeader

open Lexeme

theorem splitMinus_of_ne {cs : List Char} (h : ∀ c ∈ cs.head?, c ≠ '-') :
    Decoder.splitMinus cs = (false, cs) := by
  unfold Decoder.splitMinus
  split
  · next ds => exact absurd rfl (h '-' rfl)
  · rfl

/-- Behind a sign, or without one, all characters are still there. -/
theorem mem_splitMinus_of_ne {cs : List Char} {c : Char} (hc : c ∈ cs) (hne : c ≠ '-') :
    c ∈ (Decoder.splitMinus cs).2 := by
  unfold Decoder.splitMinus
  split
  · exact (List.mem_cons.mp hc).resolve_left hne
  · exact hc

/-! ### Digits of ASCII -/

theorem toNat_lt_of_ascii_digit {c : Char} (h : c.isDigit) : c.toNat < 0x80 := by
  simp only [Char.isDigit, Bool.and_eq_true, decide_eq_true_eq] at h
  exact Nat.lt_of_le_of_lt (UInt32.le_iff_toNat_le.mp h.2) (by decide)

theorem isDigit_of_ascii_digit {c : Char} (h : c.isDigit) : Text.isDigit c := by
  rw [Text.isDigit_of_ascii (toNat_lt_of_ascii_digit h), h]

/-- What the digits are is told by the digits that occur. -/
theorem Lexeme.IsNumeral.imp {p q : Char → Bool} {cs : List Char} (h : IsNumeral p cs)
    (hpq : ∀ c ∈ cs, p c → q c) : IsNumeral q cs := by
  obtain ⟨sign, ds, part, rfl, hs, ⟨hne, hd⟩, hp⟩ := h
  refine ⟨sign, ds, part, rfl, hs, ⟨hne, fun d h => hpq d (by simp [h]) (hd d h)⟩, ?_⟩
  rcases hp with rfl | ⟨es, rfl, hne', he⟩
  · exact .inl rfl
  · exact .inr ⟨es, rfl, hne', fun d h => hpq d (by simp [h]) (he d h)⟩

theorem Lexeme.IsNumeral.of_ascii {cs : List Char} (h : IsNumeral Char.isDigit cs) :
    IsNumeral Text.isDigit cs :=
  h.imp fun _ _ => isDigit_of_ascii_digit

/-- A numeral that decodes as a float has ASCII digits. -/
theorem Lexeme.IsNumeral.ascii {cs : List Char} (h : IsNumeral Text.isDigit cs)
    (hf : ∀ c ∈ (Decoder.splitMinus cs).2, Decoder.isFloatChar c) : IsNumeral Char.isDigit cs := by
  refine h.imp fun c hc hd => ?_
  have hne : c ≠ '-' := by
    rintro rfl
    exact absurd hd (by decide)
  have hfloat := hf c (mem_splitMinus_of_ne hc hne)
  rw [Decoder.isFloatChar, Bool.or_eq_true, decide_eq_true_eq] at hfloat
  rcases hfloat with hdigit | rfl
  · exact hdigit
  · exact absurd hd (by decide)

theorem isDecimalFloat_of_float {cs : List Char} (h : IsNumeral Text.isDigit cs) {x : Binary64}
    (hx : Decoder.float cs = .ok x) : IsDecimalFloat x := by
  refine ⟨cs, h.ascii ?_, hx⟩
  unfold Decoder.float at hx
  simp only at hx
  split at hx
  · cases hx
  · next hc =>
    simp only [Bool.or_eq_true, Bool.not_eq_true', not_or, Bool.not_eq_false] at hc
    exact List.all_eq_true.mp hc.2

/-! ### Decimal digits -/

theorem isNumeral_toDigits {sign : List Char} (hs : sign = [] ∨ sign = ['-']) (n : Nat) :
    IsNumeral Text.isDigit (sign ++ Nat.toDigits 10 n) := by
  refine ⟨sign, Nat.toDigits 10 n, [], by simp, hs, ⟨Nat.toDigits_ne_nil, fun d hd => ?_⟩, .inl rfl⟩
  exact isDigit_of_ascii_digit (Nat.isDigit_of_mem_toDigits (by decide) (by decide) hd)

theorem digitsValue_toDigits (n : Nat) : digitsValue (Nat.toDigits 10 n) = n := by
  have h : ∀ cs m, cs.foldl (fun n c => 10 * n + digitValue c) m = Nat.ofDigitChars 10 cs m := by
    intro cs m
    rw [Nat.ofDigitChars_eq_foldl]
    rfl
  rw [digitsValue, h, Nat.ofDigitChars_ten_toDigits]

theorem isRow_toDigits {n : Nat} (h : n < 2 ^ 32) : Decoder.IsRow (Nat.toDigits 10 n) := by
  refine ⟨Decoder.isDigits_iff.mpr ⟨Nat.toDigits_ne_nil, fun d hd => ?_⟩, ?_⟩
  · exact Nat.isDigit_of_mem_toDigits (by decide) (by decide) hd
  · have : (Nat.toDigits 10 n).length ≤ 10 :=
      (Nat.length_toDigits_le_iff (by decide) (by decide)).mpr (by omega)
    exact Nat.le_trans this (by decide)

theorem unsigned_toDigits {n : Nat} (h : IsUint32 n) :
    Decoder.unsigned (Nat.toDigits 10 n) = .ok n :=
  Decoder.unsigned_iff.mpr ⟨isRow_toDigits h, digitsValue_toDigits n, h⟩

/-- A row of digits does not start with a minus sign. -/
theorem splitMinus_toDigits (n : Nat) :
    Decoder.splitMinus (Nat.toDigits 10 n) = (false, Nat.toDigits 10 n) := by
  refine splitMinus_of_ne fun c hc => ?_
  rintro rfl
  have := Nat.isDigit_of_mem_toDigits (by decide) (by decide) (List.mem_of_mem_head? hc)
  cases this

theorem integer_written {i : Int} (h : IsInt32 i) :
    Decoder.integer ((if i < 0 then ['-'] else []) ++ Nat.toDigits 10 i.natAbs) = .ok i := by
  have hrow : Decoder.IsRow (Nat.toDigits 10 i.natAbs) := isRow_toDigits (by
    obtain ⟨h₁, h₂⟩ := h
    omega)
  rw [Decoder.integer_iff]
  split
  · next hi =>
    rw [List.singleton_append, Decoder.splitMinus]
    refine ⟨hrow, ?_, h⟩
    rw [digitsValue_toDigits, Decoder.signed, if_pos rfl]
    omega
  · next hi =>
    rw [List.nil_append, splitMinus_toDigits]
    refine ⟨hrow, ?_, h⟩
    rw [digitsValue_toDigits, Decoder.signed, if_neg (by simp)]
    omega

end SeedHeader
