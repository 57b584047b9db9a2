import Mathlib.Data.Nat.Digits.Defs
import SeedHeader.Proofs.Numerals

/-!
# Proofs — Rows of digits

A row of ASCII digits has the value of a numeral in base ten: the sum of its digits, each times the
power of ten of its place (`IsRowOf`).  A long row may have a small value, since zeros in front of
it add nothing to the sum.

**Integers** (`integer_decoders_exact`).  The decoders of integers give the value of a row that is
short enough, if the value is in range, and tell for every other text why it is none (`Refused`).
So a number is read back from its decimal digits with any zeros in front of them that the limit
leaves room for.
-/

namespace SeedHeader

open Decoder

/-! ### Values -/

/-- The characters are one to 4300 ASCII digits, and `n` is the sum of the digits, each times the
power of ten of its place. -/
structure IsRowOf (cs : List Char) (n : Nat) : Prop where
  ne_nil : cs ≠ []
  length_le : cs.length ≤ 4300
  digit : ∀ c ∈ cs, '0' ≤ c ∧ c ≤ '9'
  value : Nat.ofDigits 10 (cs.reverse.map fun c => c.toNat - '0'.toNat) = n

/-- The characters are a row, with or without one minus sign in front of it, and `i` is the value of
the row with that sign. -/
inductive IsSignedRowOf : List Char → Int → Prop where
  | plain {cs : List Char} {n : Nat} (h : IsRowOf cs n) : IsSignedRowOf cs n
  | minus {cs : List Char} {n : Nat} (h : IsRowOf cs n) : IsSignedRowOf ('-' :: cs) (-n)

/-- Why the text `cs`, which has the characters `row` but for its sign, is no integer with a value
that satisfies `inRange`. -/
inductive Refused (cs row : List Char) (inRange : Nat → Prop) (malformed : String → DecodeError) :
    DecodeError → Prop where
  | malformed (h : row = [] ∨ ∃ c ∈ row, ¬ ('0' ≤ c ∧ c ≤ '9')) :
      Refused cs row inRange malformed (malformed (String.ofList cs))
  | tooLong (h : ∀ c ∈ row, '0' ≤ c ∧ c ≤ '9') (hl : 4300 < row.length) :
      Refused cs row inRange malformed (.tooLong row.length)
  | outOfRange {n : Nat} (h : IsRowOf row n) (hn : ¬ inRange n) :
      Refused cs row inRange malformed (.outOfRange (String.ofList cs))

theorem isDigit_iff {c : Char} : c.isDigit ↔ '0' ≤ c ∧ c ≤ '9' := by
  simp [Char.isDigit, Char.le_def]

/-- Reading from the left, times ten at each digit, comes to the sum. -/
theorem digitsValue_eq_ofDigits (cs : List Char) :
    digitsValue cs = Nat.ofDigits 10 (cs.reverse.map digitValue) := by
  rw [Nat.ofDigits_eq_foldr, List.foldr_map, List.foldr_reverse, digitsValue]
  simp only [Nat.cast_id, Nat.add_comm]

theorem isRowOf_iff {cs : List Char} {n : Nat} : IsRowOf cs n ↔ IsRow cs ∧ digitsValue cs = n := by
  rw [digitsValue_eq_ofDigits, IsRow, isDigits_iff]
  constructor
  · rintro ⟨hne, hl, hd, hv⟩
    exact ⟨⟨⟨hne, fun c hc => isDigit_iff.mpr (hd c hc)⟩, hl⟩, hv⟩
  · rintro ⟨⟨⟨hne, hd⟩, hl⟩, hv⟩
    exact ⟨hne, hl, fun c hc => isDigit_iff.mp (hd c hc), hv⟩

theorem isSignedRowOf_iff {cs : List Char} {i : Int} :
    IsSignedRowOf cs i ↔
      IsRow (splitMinus cs).2 ∧ signed (splitMinus cs).1 (digitsValue (splitMinus cs).2) = i := by
  constructor
  · rintro (⟨h⟩ | ⟨h⟩)
    · obtain ⟨hrow, rfl⟩ := isRowOf_iff.mp h
      have hsplit : splitMinus cs = (false, cs) := by
        refine splitMinus_of_ne ?_
        rintro c hc rfl
        exact absurd (h.digit '-' (List.mem_of_mem_head? hc)) (by decide)
      rw [hsplit]
      exact ⟨hrow, rfl⟩
    · obtain ⟨hrow, rfl⟩ := isRowOf_iff.mp h
      exact ⟨hrow, rfl⟩
  · rintro ⟨hrow, rfl⟩
    unfold splitMinus at hrow ⊢
    split at hrow
    · exact .minus (isRowOf_iff.mpr ⟨hrow, rfl⟩)
    · exact .plain (isRowOf_iff.mpr ⟨hrow, rfl⟩)

/-! ### What the decoders of integers read and refuse -/

section
variable {cs row : List Char} {inRange : Nat → Prop} {malformed : String → DecodeError}
  {e : DecodeError}

/-- The reasons come one after the other. -/
theorem refused_iff :
    Refused cs row inRange malformed e ↔
      ¬ isDigits row ∧ malformed (String.ofList cs) = e ∨
      isDigits row ∧ digitLimit < row.length ∧ .tooLong row.length = e ∨
      IsRow row ∧ ¬ inRange (digitsValue row) ∧ .outOfRange (String.ofList cs) = e := by
  have hdigits : isDigits row ↔ row ≠ [] ∧ ∀ c ∈ row, '0' ≤ c ∧ c ≤ '9' := by
    simp only [isDigits_iff, isDigit_iff]
  constructor
  · rintro (h | ⟨hd, hl⟩ | ⟨h, hn⟩)
    · refine .inl ⟨fun hd => ?_, rfl⟩
      rcases h with h | ⟨c, hc, hn⟩
      · exact (hdigits.mp hd).1 h
      · exact hn ((hdigits.mp hd).2 c hc)
    · have hne : row ≠ [] := by
        rintro rfl
        simp at hl
      exact .inr (.inl ⟨hdigits.mpr ⟨hne, hd⟩, hl, rfl⟩)
    · obtain ⟨hrow, rfl⟩ := isRowOf_iff.mp h
      exact .inr (.inr ⟨hrow, hn, rfl⟩)
  · rintro (⟨hd, rfl⟩ | ⟨hd, hl, rfl⟩ | ⟨hrow, hn, rfl⟩)
    · refine .malformed ?_
      rw [hdigits, not_and_or] at hd
      simpa only [not_not, not_forall, exists_prop] using hd
    · exact .tooLong (hdigits.mp hd).2 hl
    · exact .outOfRange (isRowOf_iff.mpr ⟨hrow, rfl⟩) hn

/-- A decoder that asks for the digits, their number and the range in this order refuses a text for
the first that is wrong. -/
theorem error_iff_refused {β : Type} {b : β} {outside : Prop} [Decidable outside]
    (h : outside ↔ ¬ inRange (digitsValue row)) :
    (if !isDigits row then .error (malformed (String.ofList cs))
      else if digitLimit < row.length then .error (.tooLong row.length)
      else if outside then .error (.outOfRange (String.ofList cs))
      else .ok b : Except DecodeError β) = .error e ↔ Refused cs row inRange malformed e := by
  rw [refused_iff, ← h, IsRow]
  cases hd : isDigits row with
  | false => simp
  | true =>
    by_cases hl : digitLimit < row.length
    · simp [hl]
    · by_cases ho : outside
      · simp [hl, ho, Nat.not_lt.mp hl]
      · simp [hl, ho]

end

theorem unsigned_ok_iff {cs : List Char} {n : Nat} :
    unsigned cs = .ok n ↔ IsRowOf cs n ∧ IsUint32 n := by
  rw [unsigned_iff, isRowOf_iff, and_assoc]
  rfl

theorem unsigned_error_iff {cs : List Char} {e : DecodeError} :
    unsigned cs = .error e ↔ Refused cs cs IsUint32 .notUnsigned e := by
  refine error_iff_refused ?_
  rw [IsUint32, unsignedMax]
  omega

theorem integer_ok_iff {cs : List Char} {i : Int} :
    integer cs = .ok i ↔ IsSignedRowOf cs i ∧ IsInt32 i := by
  rw [integer_iff, isSignedRowOf_iff, and_assoc]
  rfl

theorem integer_error_iff {cs : List Char} {e : DecodeError} :
    integer cs = .error e ↔
      Refused cs (splitMinus cs).2 (fun n => IsInt32 (signed (splitMinus cs).1 n))
        .notInteger e := by
  have hrange : ∀ i : Int, (i < -0x80000000 ∨ 0x80000000 ≤ i) ↔ ¬ IsInt32 i := by
    intro i
    rw [IsInt32]
    omega
  refine error_iff_refused ?_
  rw [Bool.or_eq_true, decide_eq_true_eq, decide_eq_true_eq]
  exact hrange _

section
variable {α : Type} [Numbered α] {cs : List Char}

/-- There is a member with this number, and the characters are that number. -/
theorem member_ok_iff {n : Nat} :
    (∃ a : α, member α cs = .ok a ∧ Numbered.number a = n) ↔
      unsigned cs = .ok n ∧ ∃ a : α, Numbered.number a = n := by
  simp only [member_iff]
  constructor
  · rintro ⟨a, h, rfl⟩
    exact ⟨h, a, rfl⟩
  · rintro ⟨h, a, rfl⟩
    exact ⟨a, h, rfl⟩

theorem member_error_iff {e : DecodeError} :
    member α cs = .error e ↔
      unsigned cs = .error e ∨
        ∃ n, unsigned cs = .ok n ∧ (∀ a : α, Numbered.number a ≠ n) ∧
          .notMember n (Numbered.title α) = e := by
  unfold member
  cases h : unsigned cs with
  | error e' => simp [bind, Except.bind]
  | ok n =>
    simp only [bind, Except.bind]
    cases hf : (Numbered.ofNumber? n : Option α) with
    | none =>
      have hnone : ∀ a : α, Numbered.number a ≠ n := by
        rintro a rfl
        rw [Numbered.ofNumber?_number] at hf
        cases hf
      simp [hnone]
    | some a =>
      have hsome : ¬ ∀ b : α, Numbered.number b ≠ n :=
        fun hnone => hnone a (Numbered.number_of_ofNumber? hf)
      simp [hsome]

end

/-! ### Zeros in front -/

/-- The decimal digits of `n`, with zeros in front of them. -/
def paddedDigits (zeros n : Nat) : List Char := List.replicate zeros '0' ++ Nat.toDigits 10 n

theorem length_paddedDigits (zeros n : Nat) :
    (paddedDigits zeros n).length = zeros + (Nat.toDigits 10 n).length := by
  rw [paddedDigits, List.length_append, List.length_replicate]

/-- The zeros add nothing to the value. -/
theorem isRowOf_paddedDigits {zeros n : Nat} (h : (paddedDigits zeros n).length ≤ 4300) :
    IsRowOf (paddedDigits zeros n) n := by
  refine isRowOf_iff.mpr ⟨⟨isDigits_iff.mpr ⟨?_, fun c hc => ?_⟩, h⟩, ?_⟩
  · simp [paddedDigits, Nat.toDigits_ne_nil]
  · rcases List.mem_append.mp hc with hc | hc
    · rw [List.eq_of_mem_replicate hc]
      rfl
    · exact Nat.isDigit_of_mem_toDigits (by decide) (by decide) hc
  · have hzero : digitValue '0' = 0 := rfl
    rw [digitsValue_eq_ofDigits, paddedDigits, List.reverse_append, List.map_append,
      List.reverse_replicate, List.map_replicate, hzero, Nat.ofDigits_append_replicate_zero,
      ← digitsValue_eq_ofDigits, digitsValue_toDigits]

theorem unsigned_paddedDigits {zeros n : Nat} (hn : IsUint32 n)
    (h : (paddedDigits zeros n).length ≤ 4300) : unsigned (paddedDigits zeros n) = .ok n :=
  unsigned_ok_iff.mpr ⟨isRowOf_paddedDigits h, hn⟩

theorem integer_paddedDigits {zeros : Nat} {i : Int} (hi : IsInt32 i)
    (h : (paddedDigits zeros i.natAbs).length ≤ 4300) :
    integer ((if i < 0 then ['-'] else []) ++ paddedDigits zeros i.natAbs) = .ok i := by
  have hrow := isRowOf_paddedDigits h
  refine integer_ok_iff.mpr ⟨?_, hi⟩
  split
  · next hneg =>
    have hvalue : -(i.natAbs : Int) = i := by omega
    have hminus := IsSignedRowOf.minus hrow
    rwa [hvalue] at hminus
  · next hneg =>
    have hvalue : (i.natAbs : Int) = i := by omega
    have hplain := IsSignedRowOf.plain hrow
    rwa [hvalue] at hplain

/-- **Integers.**  An unsigned integer is one to 4300 ASCII digits with a value of 32 bits, an
integer is the same with a minus sign or without, and a member of a numbered enumeration is an
unsigned integer that is its number.  Every other text is refused, with the reason.  So each number
in range is read from its digits behind any zeros for which there is room. -/
theorem integer_decoders_exact :
    ((∀ cs n, unsigned cs = .ok n ↔ IsRowOf cs n ∧ IsUint32 n) ∧
      (∀ cs e, unsigned cs = .error e ↔ Refused cs cs IsUint32 .notUnsigned e) ∧
      ∀ n zeros, IsUint32 n → (paddedDigits zeros n).length ≤ 4300 →
        unsigned (paddedDigits zeros n) = .ok n) ∧
    ((∀ cs i, integer cs = .ok i ↔ IsSignedRowOf cs i ∧ IsInt32 i) ∧
      (∀ cs e, integer cs = .error e ↔
        Refused cs (splitMinus cs).2 (fun n => IsInt32 (signed (splitMinus cs).1 n))
          .notInteger e) ∧
      ∀ i zeros, IsInt32 i → (paddedDigits zeros i.natAbs).length ≤ 4300 →
        integer ((if i < 0 then ['-'] else []) ++ paddedDigits zeros i.natAbs) = .ok i) ∧
    ∀ (α : Type) [Numbered α],
      (∀ cs n, (∃ a : α, member α cs = .ok a ∧ Numbered.number a = n) ↔
        unsigned cs = .ok n ∧ ∃ a : α, Numbered.number a = n) ∧
      (∀ cs e, member α cs = .error e ↔ unsigned cs = .error e ∨
        ∃ n, unsigned cs = .ok n ∧ (∀ a : α, Numbered.number a ≠ n) ∧
          .notMember n (Numbered.title α) = e) ∧
      ∀ (a : α) zeros, IsUint32 (Numbered.number a) →
        (paddedDigits zeros (Numbered.number a)).length ≤ 4300 →
        member α (paddedDigits zeros (Numbered.number a)) = .ok a := by
  refine ⟨⟨fun _ _ => unsigned_ok_iff, fun _ _ => unsigned_error_iff, fun n zeros hn h => ?_⟩,
    ⟨fun _ _ => integer_ok_iff, fun _ _ => integer_error_iff, fun i zeros hi h => ?_⟩,
    fun α _ => ⟨fun _ _ => member_ok_iff, fun _ _ => member_error_iff, fun a zeros hn h => ?_⟩⟩
  · exact unsigned_paddedDigits hn h
  · exact integer_paddedDigits hi h
  · exact member_iff.mpr (unsigned_paddedDigits hn h)

/-- The greatest unsigned integer, the least integer and a skill, each in as many digits as there
may be. -/
theorem integer_decoders_exact_limits :
    (paddedDigits 4290 4294967295).length = 4300 ∧
      unsigned (paddedDigits 4290 4294967295) = .ok 4294967295 ∧
      (paddedDigits 4290 2147483648).length = 4300 ∧
      integer ('-' :: paddedDigits 4290 2147483648) = .ok (-2147483648) ∧
      (paddedDigits 4299 8).length = 4300 ∧
      member Skill (paddedDigits 4299 8) = .ok .launch := by
  have hunsigned : (paddedDigits 4290 4294967295).length = 4300 := by
    rw [length_paddedDigits]
    decide
  have hinteger : (paddedDigits 4290 2147483648).length = 4300 := by
    rw [length_paddedDigits]
    decide
  have hmember : (paddedDigits 4299 8).length = 4300 := by
    rw [length_paddedDigits]
    decide
  obtain ⟨⟨-, -, hu⟩, ⟨-, -, hi⟩, hm⟩ := integer_decoders_exact
  have hleast : integer ('-' :: paddedDigits 4290 2147483648) = .ok (-2147483648) := by
    have h := hi (-2147483648) 4290 ⟨by decide, by decide⟩
    rw [show (-2147483648 : Int).natAbs = 2147483648 from rfl, if_pos (by decide)] at h
    exact h (Nat.le_of_eq hinteger)
  exact ⟨hunsigned, hu 4294967295 4290 (by unfold IsUint32; decide) (Nat.le_of_eq hunsigned),
    hinteger, hleast,
    hmember, (hm Skill).2.2 .launch 4299 (by unfold IsUint32; decide) (Nat.le_of_eq hmember)⟩

end SeedHeader
