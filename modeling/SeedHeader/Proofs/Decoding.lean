import Mathlib.Algebra.Group.Int.Defs
import Mathlib.Algebra.Group.Nat.Defs
import SeedHeader.Decode

/-!
# Proofs — What the decoders accept

For each decoder, the texts that have a meaning and what they mean, as an equivalence.
-/

namespace SeedHeader

/-- The characters are the word, up to the case of ASCII letters. -/
def Spells (word : String) (cs : List Char) : Prop := cs.map Char.toLower = word.toList

instance (word : String) (cs : List Char) : Decidable (Spells word cs) :=
  inferInstanceAs (Decidable (_ = _))

theorem lookup?_iff {α : Type} {table : List (String × α)} (hd : (table.map Prod.fst).Nodup)
    {w : String} {a : α} : lookup? table w = some a ↔ (w, a) ∈ table := by
  rw [lookup?, Option.map_eq_some_iff]
  constructor
  · rintro ⟨⟨v, b⟩, hf, rfl⟩
    obtain rfl : v = w := by simpa using List.find?_some hf
    exact List.mem_of_find?_eq_some hf
  · intro h
    cases hf : table.find? fun entry => entry.1 = w with
    | none =>
      have := List.find?_eq_none.mp hf (w, a) h
      simp at this
    | some entry =>
      have hw : entry.1 = w := by simpa using List.find?_some hf
      exact ⟨entry, rfl, by rw [eq_of_map_nodup hd (List.mem_of_find?_eq_some hf) h hw]⟩

/-- A word is looked up as the member that it spells. -/
theorem keyword?_table_iff {α : Type} [Worded α] {cs : List Char} {a : α} :
    keyword? (Worded.table α) cs = some a ↔ Spells (Worded.word a) cs := by
  have hd : ((Worded.table α).map Prod.fst).Nodup := by
    have := (Worded.word_nodup : ((Worded.members : List α).map Worded.word).Nodup)
    simpa [Worded.table, Function.comp_def] using this
  rw [keyword?, lookup?_iff hd, Worded.table, List.mem_map]
  constructor
  · rintro ⟨b, -, hb⟩
    obtain ⟨hw, rfl⟩ := Prod.mk.inj hb
    rw [Spells, hw, String.toList_ofList]
  · intro h
    exact ⟨a, Worded.mem_members a, by rw [h, String.ofList_toList]⟩

namespace Decoder

/-- A row of ASCII digits, with no more of them than an integer may have. -/
def IsRow (cs : List Char) : Prop := isDigits cs ∧ cs.length ≤ digitLimit

theorem isDigits_iff {cs : List Char} : isDigits cs ↔ cs ≠ [] ∧ ∀ c ∈ cs, c.isDigit := by
  cases cs <;> simp [isDigits]

theorem unsigned_iff {cs : List Char} {n : Nat} :
    unsigned cs = .ok n ↔ IsRow cs ∧ digitsValue cs = n ∧ n < 2 ^ 32 := by
  unfold unsigned IsRow unsignedMax
  split
  · next h => simp_all
  split
  · next h => simp; omega
  split
  · next h => simp; omega
  · next h₁ h₂ h₃ =>
    have hd : isDigits cs := by simpa using h₁
    constructor
    · intro h
      cases h
      exact ⟨⟨hd, by omega⟩, rfl, by omega⟩
    · rintro ⟨-, rfl, -⟩
      rfl

theorem integer_iff {cs : List Char} {i : Int} :
    integer cs = .ok i ↔
      IsRow (splitMinus cs).2 ∧
        signed (splitMinus cs).1 (digitsValue (splitMinus cs).2) = i ∧ -2 ^ 31 ≤ i ∧ i < 2 ^ 31 := by
  unfold integer IsRow
  simp only
  split
  · next h => simp_all
  split
  · next h => simp; omega
  split
  · next h =>
    simp only [Bool.or_eq_true, decide_eq_true_eq] at h
    simp only [reduceCtorEq, false_iff, not_and]
    rintro - rfl
    omega
  · next h₁ h₂ h₃ =>
    have hd : isDigits (splitMinus cs).2 := by simpa using h₁
    simp only [Bool.or_eq_true, decide_eq_true_eq] at h₃
    constructor
    · intro h
      cases h
      exact ⟨⟨hd, by omega⟩, rfl, by omega, by omega⟩
    · rintro ⟨-, rfl, -⟩
      rfl

/-- A member is given by its number. -/
theorem member_iff {α : Type} [Numbered α] {cs : List Char} {a : α} :
    member α cs = .ok a ↔ unsigned cs = .ok (Numbered.number a) := by
  unfold member
  cases h : unsigned cs with
  | error e => simp [bind, Except.bind]
  | ok n =>
    simp only [bind, Except.bind]
    cases hf : (Numbered.ofNumber? n : Option α) with
    | none =>
      simp only [reduceCtorEq, Except.ok.injEq, false_iff]
      rintro rfl
      rw [Numbered.ofNumber?_number] at hf
      cases hf
    | some b =>
      simp only [Except.ok.injEq]
      constructor
      · rintro rfl
        exact (Numbered.number_of_ofNumber? hf).symm
      · rintro rfl
        rw [Numbered.ofNumber?_number] at hf
        exact (Option.some.inj hf).symm

end Decoder

end SeedHeader
