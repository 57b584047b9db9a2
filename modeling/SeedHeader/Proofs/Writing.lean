import SeedHeader.Proofs.Cutting
import SeedHeader.Proofs.Syntax
import SeedHeader.Proofs.Numerals
import SeedHeader.Proofs.Script

/-!
# Proofs — What is written says what it should

`Writes F s P a` relates a script to a phrase: in front of a text that starts with a character of
the class `F`, each text of the script `s` is cut into lexemes that say `a` by the phrase `P`.  The
class `F` keeps the last token from growing into what follows.  One lemma for each way to put
scripts together, and one for each script, lead up to values and items.
-/

namespace SeedHeader

open Lexeme

namespace Script

/-- The text is empty, or starts with a character of the class. -/
def Meets (F : Char → Bool) (k : List Char) : Prop := ∀ d ∈ k.head?, F d

/-- Each text of the script starts with a character of the class, whatever follows it. -/
def Begins (F : Char → Bool) (s : Script) : Prop := ∀ cs ∈ s, ∀ k, Meets F (cs ++ k)

/-- The script has a text, and in front of a text that starts with a character of the class `F`
each of its texts says `a`. -/
structure Writes {α : Type} (F : Char → Bool) (s : Script) (P : Phrase α) (a : α) : Prop where
  exists_mem : ∃ cs, cs ∈ s
  cut : ∀ cs ∈ s, ∀ k, Meets F k → ∃ w, lexemes (cs ++ k) = w ++ lexemes k ∧ P w (lexemes k) a

/-! ### Classes of what may follow -/

/-- Anything may follow. -/
def anything (_ : Char) : Bool := true

/-- What follows makes neither a number nor a word longer. -/
def clear (d : Char) : Bool := !Text.isDigit d && d ≠ '.' && !isWordRest d

/-- What follows is no whitespace. -/
def solid (d : Char) : Bool := !isPadding d

theorem clear_of_lineEnd {d : Char} (h : isLineEnd d) : clear d := by
  have hd : d ≠ '.' := by
    rintro rfl
    cases h
  simp [clear, isDigit_lineEnd h, isWordRest_lineEnd h, hd]

theorem begins_anything (s : Script) : Begins anything s := fun _ _ _ _ _ => rfl

theorem Begins.mul {F : Char → Bool} {s : Script} (h : Begins F s) (t : Script) :
    Begins F (s * t) := by
  rintro cs hcs k
  obtain ⟨x, hx, y, -, rfl⟩ := Language.mem_mul.mp hcs
  rw [List.append_assoc]
  exact h x hx (y ++ k)

theorem begins_of_head {F : Char → Bool} {s : Script} (h : ∀ cs ∈ s, ∃ d ∈ cs.head?, F d) :
    Begins F s := by
  intro cs hcs k e he
  obtain ⟨d, hd, hF⟩ := h cs hcs
  rw [List.head?_append, Option.mem_def.mp hd] at he
  obtain rfl : d = e := Option.some.inj he
  exact hF

theorem begins_exactly {F : Char → Bool} {s : String} {d : Char} (hs : s.toList.head? = some d)
    (hd : F d) : Begins F (exactly s) :=
  begins_of_head fun _ hcs => ⟨d, hcs ▸ hs, hd⟩

/-! ### Scripts put together -/

namespace Writes

variable {α β : Type} {F G : Char → Bool} {s t : Script} {P : Phrase α} {a : α}

theorem weaken (h : Writes F s P a) (hF : ∀ d, G d → F d) : Writes G s P a :=
  ⟨h.exists_mem, fun cs hcs k hk => h.cut cs hcs k fun d hd => hF d (hk d hd)⟩

theorem map (h : Writes F s P a) (f : α → β) : Writes F s (P.map f) (f a) := by
  refine ⟨h.exists_mem, fun cs hcs k hk => ?_⟩
  obtain ⟨w, hw, hp⟩ := h.cut cs hcs k hk
  exact ⟨w, hw, a, hp, rfl⟩

theorem inl {Q : Phrase α} (h : Writes F s P a) : Writes F s (P.or Q) a := by
  refine ⟨h.exists_mem, fun cs hcs k hk => ?_⟩
  obtain ⟨w, hw, hp⟩ := h.cut cs hcs k hk
  exact ⟨w, hw, .inl hp⟩

theorem inr {Q : Phrase α} (h : Writes F s P a) : Writes F s (Q.or P) a := by
  refine ⟨h.exists_mem, fun cs hcs k hk => ?_⟩
  obtain ⟨w, hw, hp⟩ := h.cut cs hcs k hk
  exact ⟨w, hw, .inr hp⟩

/-- One script after the other, if the second does not make the last token of the first longer. -/
theorem seq {Q : α → Phrase β} {b : β} (h : Writes F s P a) (hF : Begins F t)
    (hQ : Writes G t (Q a) b) : Writes G (s * t) (P.seq Q) b := by
  obtain ⟨x, hx⟩ := h.exists_mem
  obtain ⟨y, hy⟩ := hQ.exists_mem
  refine ⟨⟨x ++ y, Language.append_mem_mul hx hy⟩, fun cs hcs k hk => ?_⟩
  obtain ⟨x, hx, y, hy, rfl⟩ := Language.mem_mul.mp hcs
  obtain ⟨v, hv, hq⟩ := hQ.cut y hy k hk
  obtain ⟨u, hu, hp⟩ := h.cut x hx (y ++ k) (hF y hy k)
  refine ⟨u ++ v, ?_, u, v, a, rfl, hv ▸ hp, hq⟩
  rw [List.append_assoc, hu, hv, List.append_assoc]

/-- A script with nothing behind it that would have to be written. -/
theorem seqNothing {Q : α → Phrase β} {b : β} (h : Writes F s P a)
    (hQ : ∀ k, Meets F k → Q a [] (lexemes k) b) : Writes F s (P.seq Q) b := by
  refine ⟨h.exists_mem, fun cs hcs k hk => ?_⟩
  obtain ⟨w, hw, hp⟩ := h.cut cs hcs k hk
  exact ⟨w, hw, w, [], a, (List.append_nil w).symm, hp, hQ k hk⟩

theorem before {Q : Phrase β} {b : β} (h : Writes F s P a) (hF : Begins F t) (hQ : Writes G t Q b) :
    Writes G (s * t) (P.before Q) b :=
  h.seq hF hQ

end Writes

/-! ### Tokens -/

section
variable {α : Type}

/-- A script whose texts are single tokens. -/
theorem writes_token {F : Char → Bool} {s : Script} {P : Phrase α} {a : α} {t : TokenType}
    (hs : ∃ cs, cs ∈ s)
    (hcut : ∀ cs ∈ s, ∀ k, Meets F k → lexemes (cs ++ k) = ⟨t, cs⟩ :: lexemes k)
    (hP : ∀ cs ∈ s, ∀ rest, P [⟨t, cs⟩] rest a) : Writes F s P a :=
  ⟨hs, fun cs hcs k hk => ⟨[⟨t, cs⟩], hcut cs hcs k hk, hP cs hcs _⟩⟩

theorem writes_mark {m : String} {t : TokenType} (h : IsMark m t) :
    Writes anything (exactly m) (Phrase.token t) m.toList := by
  refine writes_token (t := t) ⟨_, rfl⟩ ?_ ?_
  · rintro cs rfl k -
    exact lexemes_mark h k
  · rintro cs rfl rest
    rfl

theorem writes_gap : Writes solid (exactly " ") Phrase.gap () := by
  refine writes_token (t := .whitespace) ⟨_, rfl⟩ ?_ ?_
  · rintro cs rfl k hk
    exact lexemes_space fun d hd => by simpa [solid] using hk d hd
  · rintro cs rfl rest
    exact ⟨[' '], rfl, rfl⟩

/-- A minus sign that no digit follows. -/
theorem writes_minus : Writes clear (exactly "-") (Phrase.token .minus) ['-'] := by
  refine writes_token (t := .minus) ⟨_, rfl⟩ ?_ ?_
  · rintro cs rfl k hk
    refine lexemes_minus fun d hd => ?_
    have := hk d hd
    simp only [clear, Bool.and_eq_true, Bool.not_eq_true'] at this
    exact this.1.1
  · rintro cs rfl rest
    rfl

/-- A numeral is a number, whatever the phrase makes of it. -/
theorem writes_numeral {s : Script} {P : Phrase α} {a : α} (hs : ∃ cs, cs ∈ s)
    (hn : ∀ cs ∈ s, IsNumeral Text.isDigit cs) (hP : ∀ cs ∈ s, ∀ rest, P [⟨.number, cs⟩] rest a) :
    Writes clear s P a := by
  refine writes_token (t := .number) hs ?_ hP
  intro cs hcs k hk
  refine lexemes_number (hn cs hcs) fun d hd => ?_
  have := hk d hd
  simp only [clear, Bool.and_eq_true, Bool.not_eq_true', decide_eq_true_eq] at this
  exact this.1

theorem writes_number {s : Script} {decode : Decoder α} {a : α} (hs : ∃ cs, cs ∈ s)
    (h : ∀ cs ∈ s, IsNumeral Text.isDigit cs ∧ decode cs = .ok a) :
    Writes clear s (Phrase.number decode) a :=
  writes_numeral hs (fun cs hcs => (h cs hcs).1) fun cs hcs _ => ⟨cs, rfl, (h cs hcs).2⟩

/-- A word is an identifier, whatever the phrase makes of it. -/
theorem writes_identifier {s : String} {P : Phrase α} {a : α} (hs : IsWord s.toList)
    (hP : ∀ rest, P [⟨.identifier, s.toList⟩] rest a) : Writes clear (exactly s) P a := by
  refine writes_token (t := .identifier) ⟨_, rfl⟩ ?_ ?_
  · rintro cs rfl k hk
    refine lexemes_word hs fun d hd => ?_
    have := hk d hd
    simp only [clear, Bool.and_eq_true, Bool.not_eq_true'] at this
    exact this.2
  · rintro cs rfl
    exact hP

theorem writes_name {s : String} (h : IsName s) : Writes clear (exactly s) Phrase.name s :=
  writes_identifier h fun _ => ⟨s.toList, rfl, String.ofList_toList⟩

end

/-! ### Words -/

/-- A word in small ASCII letters. -/
abbrev IsSmall (s : String) : Prop := s.toList ≠ [] ∧ s.toList.all Char.isLower

theorem val_of_isLower {c : Char} (h : c.isLower) : 'a'.val ≤ c.val ∧ c.val ≤ 'z'.val := by
  unfold Char.isLower at h
  rwa [Bool.and_eq_true, decide_eq_true_eq, decide_eq_true_eq] at h

theorem IsSmall.isWord {s : String} (h : IsSmall s) : IsWord s.toList := by
  have hletter : ∀ c ∈ s.toList, Text.isLetter c := by
    intro c hc
    have hl := List.all_eq_true.mp h.2 c hc
    have hascii : c.toNat < 0x80 :=
      Nat.lt_of_le_of_lt (UInt32.le_iff_toNat_le.mp (val_of_isLower hl).2) (by decide)
    rw [Text.isLetter_of_ascii hascii]
    unfold Char.isAlpha
    rw [hl, Bool.or_true]
  obtain ⟨c, cs, hs⟩ := List.exists_cons_of_ne_nil h.1
  rw [hs] at hletter ⊢
  refine ⟨c, cs, rfl, ?_, fun d hd => ?_⟩
  · simp [isWordStart, hletter c (by simp)]
  · simp [isWordRest, hletter d (by simp [hd])]

theorem IsSmall.spells {s : String} (h : IsSmall s) : Spells s s.toList := by
  have hlower : ∀ c ∈ s.toList, c.toLower = c := by
    intro c hc
    have hl := val_of_isLower (List.all_eq_true.mp h.2 c hc)
    unfold Char.toLower
    refine dif_neg ?_
    rintro ⟨-, hz⟩
    exact absurd (UInt32.le_trans hl.1 hz) (by decide)
  rw [Spells, List.map_congr_left hlower, List.map_id']

/-- The words of an enumeration are all in small letters. -/
class Small (α : Type) [Worded α] : Prop where
  small : ∀ a ∈ (Worded.members : List α), IsSmall (Worded.word a)

instance : Small StatementWord := ⟨by decide⟩
instance : Small SetupKind := ⟨by decide⟩
instance : Small Interpolation := ⟨by decide⟩
instance : Small IconKind := ⟨by decide⟩
instance : Small UberType := ⟨by decide⟩
instance : Small ParameterType := ⟨by decide⟩
instance : Small CommandWord := ⟨by decide⟩

section
variable {α : Type} [Worded α] [Small α]

theorem isSmall_word (a : α) : IsSmall (Worded.word a) := Small.small a (Worded.mem_members a)

theorem writes_word (a : α) : Writes clear (word a) (Phrase.word α) a :=
  writes_identifier (isSmall_word a).isWord fun _ => ⟨_, rfl, (isSmall_word a).spells⟩

end

theorem writes_boolean (b : Bool) :
    Writes clear (boolean b) (Phrase.meaning .identifier Decoder.boolean) b := by
  cases b with
  | false => exact writes_identifier (IsSmall.isWord (by decide)) fun _ => ⟨_, rfl, rfl⟩
  | true => exact writes_identifier (IsSmall.isWord (by decide)) fun _ => ⟨_, rfl, rfl⟩

/-! ### Numbers -/

/-- The literal is written in the decimal digits of a number, and these decode as the literal. -/
def IsRow {α : Type} (literal : α → Script) (decode : Decoder α) (a : α) : Prop :=
  ∃ n, literal a = decimal n ∧ decode (Nat.toDigits 10 n) = .ok a

theorem isRow_decimal {n : Nat} (h : IsUint32 n) : IsRow decimal Decoder.unsigned n :=
  ⟨n, rfl, unsigned_toDigits h⟩

/-- The numbers of an enumeration are unsigned integers of 32 bits. -/
class Bounded (α : Type) [Numbered α] : Prop where
  bound : ∀ a ∈ (Numbered.members : List α), Numbered.number a < 2 ^ 32

instance : Bounded Resource := ⟨by decide⟩
instance : Bounded BonusItem := ⟨by decide⟩
instance : Bounded BonusUpgrade := ⟨by decide⟩
instance : Bounded Skill := ⟨by decide⟩
instance : Bounded Shard := ⟨by decide⟩
instance : Bounded ItemKind := ⟨by decide⟩
instance : Bounded CommandKind := ⟨by decide⟩
instance : Bounded ToggleCommandKind := ⟨by decide⟩
instance : Bounded EquipSlot := ⟨by decide⟩
instance : Bounded SysMessageKind := ⟨by decide⟩
instance : Bounded Teleporter := ⟨by decide⟩
instance : Bounded Zone := ⟨by decide⟩

theorem isRow_member {α : Type} [Numbered α] [Bounded α] (a : α) :
    IsRow member (Decoder.member α) a := by
  have hbound := Bounded.bound a (Numbered.mem_members a)
  exact ⟨Numbered.number a, rfl, Decoder.member_iff.mpr (unsigned_toDigits hbound)⟩

section
variable {α : Type} {literal : α → Script} {decode : Decoder α}

theorem IsRow.writes {a : α} (h : IsRow literal decode a) :
    Writes clear (literal a) (Phrase.number decode) a := by
  obtain ⟨n, hn, ha⟩ := h
  rw [hn]
  refine writes_number ⟨_, rfl⟩ ?_
  rintro cs rfl
  exact ⟨isNumeral_toDigits (.inl rfl) n, ha⟩

theorem IsRow.begins {a : α} (h : IsRow literal decode a) : Begins solid (literal a) := by
  obtain ⟨n, hn, -⟩ := h
  rw [hn]
  refine begins_of_head ?_
  rintro cs rfl
  obtain ⟨d, ds, hds⟩ := List.exists_cons_of_ne_nil (Nat.toDigits_ne_nil (b := 10) (n := n))
  have hd : d.isDigit :=
    Nat.isDigit_of_mem_toDigits (n := n) (b := 10) (by decide) (by decide) (by simp [hds])
  refine ⟨d, by simp [hds], ?_⟩
  simp [solid, isPadding_of_class hd (by decide) (by decide)]

theorem IsRow.writes_kept {a : α} (h : IsRow literal decode a) :
    Writes clear (literal a) (Phrase.removable decode) (a, false) := by
  obtain ⟨n, hn, ha⟩ := h
  rw [hn]
  refine writes_numeral ⟨_, rfl⟩ ?_ ?_
  · rintro cs rfl
    exact isNumeral_toDigits (.inl rfl) n
  · rintro cs rfl rest
    exact ⟨_, rfl, by rw [splitMinus_toDigits]; exact ha, by rw [splitMinus_toDigits]⟩

/-- The minus sign in front of a number belongs to its token. -/
theorem IsRow.writes_removed {a : α} (h : IsRow literal decode a) :
    Writes clear (exactly "-" * literal a) (Phrase.removable decode) (a, true) := by
  obtain ⟨n, hn, ha⟩ := h
  rw [hn]
  refine writes_numeral ⟨_, Language.append_mem_mul rfl rfl⟩ ?_ ?_
  · rintro cs hcs
    obtain ⟨x, rfl, y, rfl, rfl⟩ := Language.mem_mul.mp hcs
    exact isNumeral_toDigits (.inr rfl) n
  · rintro cs hcs rest
    obtain ⟨x, rfl, y, rfl, rfl⟩ := Language.mem_mul.mp hcs
    exact ⟨_, rfl, ha, rfl⟩

end

theorem writes_integer {i : Int} (h : IsInt32 i) :
    Writes clear (integer i) (Phrase.number Decoder.integer) i := by
  refine writes_number ⟨_, rfl⟩ ?_
  rintro cs rfl
  refine ⟨isNumeral_toDigits ?_ _, integer_written h⟩
  split
  · exact .inr rfl
  · exact .inl rfl

theorem writes_float {x : Binary64} (h : IsDecimalFloat x) :
    Writes clear (float x) (Phrase.number Decoder.float) x :=
  writes_number h fun _ hcs => ⟨hcs.1.of_ascii, hcs.2⟩

theorem writes_bit (b : Bool) : Writes clear (bit b) (Phrase.number Decoder.bit) b := by
  refine writes_number ⟨_, rfl⟩ ?_
  rintro cs rfl
  cases b with
  | false => exact ⟨isNumeral_toDigits (.inl rfl) 0, rfl⟩
  | true => exact ⟨isNumeral_toDigits (.inl rfl) 1, rfl⟩

/-- A numeral that is kept as it is written. -/
theorem writes_text {s : String} (h : IsNumber s) :
    Writes clear (exactly s) (Phrase.number Decoder.text) s := by
  refine writes_number ⟨_, rfl⟩ ?_
  rintro cs rfl
  exact ⟨h, by rw [Decoder.text, String.ofList_toList]⟩

theorem begins_mark {m : String} {t : TokenType} (h : IsMark m t) (s : Script) :
    Begins clear (exactly m * s) := by
  cases h <;> exact (begins_exactly rfl rfl).mul s

/-! ### Literals and parameters -/

namespace Writes

variable {α β : Type} {F G : Char → Bool} {s t : Script} {P : Phrase α} {a : α}

/-- A mark in front of a script. -/
theorem marked {m : String} {type : TokenType} (h : Writes F s P a) (hm : IsMark m type) :
    Writes F (exactly m * s) ((Phrase.token type).before P) a :=
  (writes_mark hm).before (begins_anything s) h

theorem bar : Writes anything (exactly "|") Phrase.bar () :=
  (writes_mark .bar).map _

/-- Two scripts with a bar between them, if a bar may follow the first. -/
theorem barredOf {Q : α → Phrase β} {b : β} (h : Writes F s P a) (hF : F '|')
    (hQ : Writes G t (Q a) b) :
    Writes G (Script.barred s t) (P.seq fun a => Phrase.bar.before (Q a)) b :=
  h.seq ((begins_exactly rfl hF).mul t) (bar.before (begins_anything t) hQ)

theorem barred {Q : α → Phrase β} {b : β} (h : Writes clear s P a) (hQ : Writes G t (Q a) b) :
    Writes G (Script.barred s t) (P.seq fun a => Phrase.bar.before (Q a)) b :=
  h.barredOf rfl hQ

/-- Two scripts with a space between them, if the second starts with no space itself. -/
theorem spaced {Q : α → Phrase β} {b : β} (h : Writes clear s P a) (ht : Begins solid t)
    (hQ : Writes G t (Q a) b) :
    Writes G (Script.spaced s t) (P.seq fun a => Phrase.gap.before (Q a)) b :=
  h.seq ((begins_exactly rfl rfl).mul t) (writes_gap.before ht hQ)

end Writes

section
variable {α : Type}

theorem writes_parameter {name : String} (h : IsName name) :
    Writes anything (parameter name) Phrase.parameter (Value.parameter name : Value α) := by
  have hname : Writes clear (exactly name) (Phrase.token .identifier) name.toList :=
    writes_identifier h fun _ => rfl
  have hclose : Writes anything (exactly ")")
      ((Phrase.token .closeParen).map fun _ => Value.parameter (String.ofList name.toList))
      (Value.parameter name : Value α) := by
    rw [← String.ofList_toList (s := name), String.toList_ofList]
    exact (writes_mark .closeParen).map _
  refine Writes.marked ((writes_word _).before (begins_mark .openParen _) ?_) .dollar
  exact (hname.seq (begins_exactly rfl rfl) hclose).marked .openParen

/-- A value is written as its literal is, or as a parameter. -/
theorem writes_value {literal : α → Script} {t : TokenType} {decode : Decoder α} {p : α → Prop}
    (hp : ∀ a, p a → Writes clear (literal a) (Phrase.meaning t decode) a) {v : Value α}
    (hv : v.Fits p) : Writes clear (value literal v) (Phrase.field t decode) v := by
  cases v with
  | literal a => exact ((hp a hv).map _).inl
  | parameter name => exact ((writes_parameter hv).weaken fun _ _ => rfl).inr

theorem writes_removable {literal : α → Script} {decode : Decoder α} {p : α → Prop}
    (hp : ∀ a, p a → IsRow literal decode a) {v : Value α} (hv : v.Fits p) (remove : Bool) :
    Writes clear (removable literal v remove) (Phrase.removableField decode) (v, remove) := by
  have hfield := writes_value (t := .number) (fun a ha => (hp a ha).writes) hv
  cases v with
  | literal a =>
    cases remove with
    | false => exact ((hp a hv).writes_kept.map _).inl
    | true => exact ((hp a hv).writes_removed.map _).inl
  | parameter name =>
    cases remove with
    | false => exact (((writes_parameter hv).weaken fun _ _ => rfl).map _).inr.inr
    | true => exact (writes_minus.before (begins_mark .dollar _) (hfield.map _)).inl.inr

end

/-! ### Texts -/

/-- A free text at the end of a line. -/
theorem writes_free {s : String} (h : IsText s) : Writes isLineEnd (exactly s) Phrase.text s := by
  obtain ⟨hne, htrim, hfree⟩ := h
  refine ⟨⟨_, rfl⟩, ?_⟩
  rintro cs rfl k hk
  obtain ⟨w, hw, hchars, htext, hrest⟩ := lexemes_free hfree hk
  refine ⟨w, hw, htext, hrest, ?_, ?_⟩
  · rwa [hchars, htrim]
  · rw [hchars, htrim, String.ofList_toList]

theorem begins_free {s : String} (h : IsText s) : Begins solid (exactly s) := by
  obtain ⟨hne, htrim, -⟩ := h
  obtain ⟨c, cs, hcs⟩ := List.exists_cons_of_ne_nil hne
  refine begins_exactly (d := c) (by rw [hcs]; rfl) ?_
  rw [hcs] at htrim
  have hblank : (!Text.isBlank c) = true := by rw [Text.not_blank_of_trimmed htrim]; rfl
  have := isPadding_of_class (p := fun d => !Text.isBlank d) hblank (by decide) (by decide)
  simp [solid, this]

theorem begins_name {s : String} (h : IsName s) : Begins solid (exactly s) := by
  obtain ⟨c, cs, hcs, hc, -⟩ := h
  refine begins_exactly (d := c) (by rw [hcs]; rfl) ?_
  simp [solid, isPadding_of_class hc (by decide) (by decide)]

theorem writes_quotation {path : String} (h : IsPath path) :
    Writes anything (quotation path) Phrase.quoted path := by
  refine writes_token (t := .string) ⟨_, rfl⟩ ?_ ?_
  · rintro cs rfl k -
    exact lexemes_quoted h k
  · rintro cs rfl rest
    refine ⟨_, rfl, ?_, ?_⟩
    · simp [terminated]
    · simp

end Script

end SeedHeader
