import Mathlib.Data.List.Find
import SeedHeader.Proofs.Decoding

/-!
# Proofs — The case of letters

Words are matched in small letters.  `Spells` changes ASCII letters only, while lower-casing a text
changes letters of every script: one of them, the Kelvin sign, becomes an ASCII letter, and some
become several characters.  For the words that are looked up this makes no difference
(`lookup?_of_lowered`), because none of them has the letter `k`, and a text with a character beyond
ASCII is none of them (`ascii_of_keyword?`).
-/

namespace SeedHeader

/-! ### The words that are looked up -/

/-- The words of an enumeration. -/
def Worded.words (α : Type) [Worded α] : List String := (Worded.table α).map Prod.fst

/-- All words that a token is compared with. -/
def keywords : List String :=
  Worded.words StatementWord ++ Worded.words SetupKind ++ Worded.words Interpolation ++
    Worded.words IconKind ++ Worded.words UberType ++ Worded.words ParameterType ++
    Worded.words CommandWord ++ booleans.map Prod.fst

/-- The character is an ASCII character other than the letter `k`. -/
abbrev IsKeywordChar (c : Char) : Prop := c.toNat < 128 ∧ c ≠ 'k'

theorem keywords_plain : ∀ word ∈ keywords, ∀ c ∈ word.toList, IsKeywordChar c := by
  have hall : keywords.all fun word => word.toList.all fun c => IsKeywordChar c := rfl
  simpa only [List.all_eq_true, decide_eq_true_eq] using hall

/-! ### Lower-casing -/

/-- The texts that lower-casing may make of a text.  An ASCII letter loses its case, the Kelvin sign
becomes `k`, and whatever any other character becomes, a character beyond ASCII is left. -/
inductive Lowered : List Char → List Char → Prop where
  | nil : Lowered [] []
  | ascii {c : Char} {cs ds : List Char} (hc : c.toNat < 128) (h : Lowered cs ds) :
      Lowered (c :: cs) (c.toLower :: ds)
  | kelvin {cs ds : List Char} (h : Lowered cs ds) : Lowered ('\u212a' :: cs) ('k' :: ds)
  | other {c : Char} {part cs ds : List Char} (hc : 128 ≤ c.toNat) (hk : c ≠ '\u212a')
      (hpart : ∃ d ∈ part, 128 ≤ d.toNat) (h : Lowered cs ds) : Lowered (c :: cs) (part ++ ds)

theorem toLower_of_not_ascii {c : Char} (h : 128 ≤ c.toNat) : c.toLower = c := by
  unfold Char.toLower
  rw [dif_neg]
  rintro ⟨-, hz⟩
  have : c.toNat ≤ 'Z'.toNat := UInt32.le_iff_toNat_le.mp hz
  have : 'Z'.toNat < 128 := by decide
  omega

/-- Lower-casing yields a keyword if and only if dropping the case of ASCII letters does. -/
theorem Lowered.eq_iff {cs ds : List Char} (h : Lowered cs ds) {word : List Char}
    (hword : ∀ c ∈ word, IsKeywordChar c) : ds = word ↔ cs.map Char.toLower = word := by
  induction h generalizing word with
  | nil => rfl
  | ascii hc h ih =>
    cases word with
    | nil => simp
    | cons w word =>
      rw [List.map_cons, List.cons.injEq, List.cons.injEq,
        ih fun c hc => hword c (List.mem_cons_of_mem w hc)]
  | kelvin h ih =>
    constructor
    · rintro rfl
      exact absurd rfl (hword 'k' List.mem_cons_self).2
    · rintro rfl
      exact absurd (hword _ List.mem_cons_self).1 (by decide)
  | @other c part cs ds hc hk hpart h ih =>
    obtain ⟨d, hd, hbeyond⟩ := hpart
    constructor
    · rintro rfl
      have := (hword d (List.mem_append_left ds hd)).1
      omega
    · rintro rfl
      rw [List.map_cons, toLower_of_not_ascii hc] at hword
      have := (hword c List.mem_cons_self).1
      omega

section
variable {α : Type} {table : List (String × α)} {cs : List Char}

/-- A table of keywords may be searched for all that lower-casing yields. -/
theorem lookup?_of_lowered (ht : table.map Prod.fst ⊆ keywords) {ds : List Char}
    (h : Lowered cs ds) : lookup? table (String.ofList ds) = keyword? table cs := by
  have hentry : ∀ entry ∈ table, decide (entry.1 = String.ofList ds) =
      decide (entry.1 = String.ofList (cs.map Char.toLower)) := by
    intro entry he
    have hword := keywords_plain entry.1 (ht (List.mem_map_of_mem he))
    rw [decide_eq_decide, ← String.toList_inj, ← String.toList_inj, String.toList_ofList,
      String.toList_ofList, eq_comm, h.eq_iff hword, eq_comm]
  rw [keyword?, lookup?, lookup?, List.find?_congr hentry]

/-- A keyword is written in ASCII. -/
theorem ascii_of_keyword? (ht : table.map Prod.fst ⊆ keywords) {a : α}
    (h : keyword? table cs = some a) : ∀ c ∈ cs, c.toNat < 128 := by
  rw [keyword?, lookup?, Option.map_eq_some_iff] at h
  obtain ⟨entry, hf, rfl⟩ := h
  have hword := keywords_plain entry.1 (ht (List.mem_map_of_mem (List.mem_of_find?_eq_some hf)))
  have hspells : entry.1 = String.ofList (cs.map Char.toLower) := by simpa using List.find?_some hf
  rw [hspells, String.toList_ofList] at hword
  intro c hc
  refine Nat.lt_of_not_le fun hbeyond => ?_
  have hlower := (hword _ (List.mem_map_of_mem hc)).1
  rw [toLower_of_not_ascii hbeyond] at hlower
  exact Nat.not_lt_of_le hbeyond hlower

end

end SeedHeader
