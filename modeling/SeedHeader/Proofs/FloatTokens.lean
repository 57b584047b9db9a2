import SeedHeader.Proofs.Cutting
import SeedHeader.Proofs.Numerals
import SeedHeader.Proofs.Wording

/-!
# Proofs — Numbers as floats

The decoder of floats refuses a text for one of two reasons: it holds something else than digits and
points (`DecodeError.notFloat`), or it holds nothing else but stands for no number
(`DecodeError.notDecimal`), since it has two points or no digit (`Malformed`).  A number token is a
numeral, and a numeral has a digit and one point at most; so only the first reason is left for it,
and that is a digit beyond ASCII (`float_numeral`).

**Floats** (`number_tokens_as_floats`).  A number token of a text decodes as a float if and only if
it is ASCII; where a reading calls a float invalid, there is a number with a digit beyond ASCII; and
a numeral of ASCII digits is one number token, which is read whole.
-/

namespace SeedHeader

open Lexeme

/-! ### What the decoder of floats refuses -/

/-- Digits and points that stand for no number: there are two points, or there is no digit. -/
structure Malformed (ds : List Char) : Prop where
  ne_nil : ds ≠ []
  chars : ∀ c ∈ ds, c.isDigit ∨ c = '.'
  bad : 2 ≤ ds.count '.' ∨ ∀ c ∈ ds, c = '.'

theorem point_notMem {ds : List Char} (h : ∀ c ∈ ds, c.isDigit) : '.' ∉ ds :=
  fun hmem => absurd (h '.' hmem) (by decide)

/-- Of digits and points, those are read that have a digit, and one point at most. -/
theorem readPlain?_eq_none_iff {ds : List Char} (hne : ds ≠ [])
    (hchars : ∀ c ∈ ds, c.isDigit ∨ c = '.') :
    Decimal.readPlain? ds = none ↔ 2 ≤ ds.count '.' ∨ ∀ c ∈ ds, c = '.' := by
  have hnone : ∀ {cs : List Char}, '.' ∉ cs → ((∀ c ∈ cs, c = '.') ↔ cs = []) := by
    intro cs h
    refine ⟨fun hall => List.eq_nil_iff_forall_not_mem.mpr fun c hc => h (hall c hc ▸ hc), ?_⟩
    rintro rfl
    simp
  obtain ⟨whole, part, rfl, hwhole, hpart⟩ : ∃ whole part, ds = whole ++ part ∧
      ds.takeWhile Char.isDigit = whole ∧ ds.dropWhile Char.isDigit = part :=
    ⟨_, _, (List.takeWhile_append_dropWhile).symm, rfl, rfl⟩
  have hdigit : ∀ c ∈ whole, c.isDigit := hwhole ▸ List.all_eq_true.mp List.all_takeWhile
  have hcount : whole.count '.' = 0 := List.count_eq_zero.mpr (point_notMem hdigit)
  have hstop := stop_dropWhile Char.isDigit (whole ++ part)
  rw [hpart] at hstop
  unfold Decimal.readPlain?
  rw [hwhole, hpart, List.count_append, hcount]
  cases part with
  | nil =>
    rw [List.append_nil] at hne
    obtain ⟨d, whole, rfl⟩ := List.exists_cons_of_ne_nil hne
    have hd : d ≠ '.' := fun e => point_notMem hdigit (by simp [e])
    simp [hd]
  | cons c places =>
    -- the first character that is no digit is a point
    obtain rfl : c = '.' := (hchars c (by simp)).resolve_left (by simp [hstop c rfl])
    have hplaces : places.all Char.isDigit ↔ '.' ∉ places := by
      rw [List.all_eq_true]
      refine ⟨point_notMem, fun h d hd => (hchars d (by simp [hd])).resolve_right ?_⟩
      rintro rfl
      exact h hd
    have htwo : 2 ≤ 0 + ('.' :: places).count '.' ↔ '.' ∈ places := by
      rw [List.count_cons_self, ← List.count_pos_iff]
      omega
    simp only [htwo, List.forall_mem_append, List.forall_mem_cons, true_and,
      hnone (point_notMem hdigit)]
    by_cases hp : '.' ∈ places
    · have hnot : places.all Char.isDigit = false := by
        rw [← Bool.not_eq_true, hplaces]
        exact not_not.mpr hp
      simp [hnot, hp]
    · simp [hplaces.mpr hp, hp, hnone hp]

namespace Decoder

variable {cs : List Char}

/-- A text that holds nothing, or something else than digits and points, is refused for that. -/
theorem float_of_not_chars (h : (splitMinus cs).2 = [] ∨
      ∃ c ∈ (splitMinus cs).2, ¬ (c.isDigit ∨ c = '.')) :
    float cs = .error (.notFloat (String.ofList cs)) := by
  refine if_pos ?_
  rw [Bool.or_eq_true, List.isEmpty_iff, Bool.not_eq_true', ← Bool.not_eq_true, List.all_eq_true]
  refine h.imp_right fun ⟨c, hc, hn⟩ hall => hn ?_
  simpa [isFloatChar] using hall c hc

/-- Digits and points are read as a decimal number. -/
theorem float_of_chars (hne : (splitMinus cs).2 ≠ [])
    (h : ∀ c ∈ (splitMinus cs).2, c.isDigit ∨ c = '.') :
    float cs = match Decimal.readPlain? (splitMinus cs).2 with
      | some d => .ok (.ofDecimal (splitMinus cs).1 d)
      | none => .error (.notDecimal (String.ofList cs)) := by
  refine if_neg ?_
  rw [Bool.or_eq_true, List.isEmpty_iff, Bool.not_eq_true', ← Bool.not_eq_true, List.all_eq_true]
  exact not_or.mpr ⟨hne, fun hn => hn fun c hc => by simpa [isFloatChar] using h c hc⟩

/-- The second reason is that the characters are malformed. -/
theorem float_notDecimal_iff {s : String} :
    float cs = .error (.notDecimal s) ↔ s = String.ofList cs ∧ Malformed (splitMinus cs).2 := by
  by_cases h : (splitMinus cs).2 = [] ∨ ∃ c ∈ (splitMinus cs).2, ¬ (c.isDigit ∨ c = '.')
  · rw [float_of_not_chars h]
    refine ⟨nofun, fun ⟨_, hm⟩ => ?_⟩
    rcases h with hnil | ⟨c, hc, hn⟩
    · exact absurd hnil hm.ne_nil
    · exact absurd (hm.chars c hc) hn
  · rw [not_or] at h
    obtain ⟨hne, hall⟩ := h
    have hchars : ∀ c ∈ (splitMinus cs).2, c.isDigit ∨ c = '.' :=
      fun c hc => not_not.mp fun hn => hall ⟨c, hc, hn⟩
    rw [float_of_chars hne hchars]
    cases hd : Decimal.readPlain? (splitMinus cs).2 with
    | some d =>
      refine ⟨nofun, fun ⟨_, hm⟩ => ?_⟩
      rw [(readPlain?_eq_none_iff hne hchars).mpr hm.bad] at hd
      cases hd
    | none =>
      have hbad := (readPlain?_eq_none_iff hne hchars).mp hd
      exact ⟨fun e => by cases e; exact ⟨rfl, hne, hchars, hbad⟩, fun ⟨e, _⟩ => by rw [e]⟩

end Decoder

/-! ### Numerals -/

/-- Behind the sign of a numeral are its digits. -/
theorem Lexeme.IsNumeral.exists_splitMinus {p : Char → Bool} (hp : p '-' = false) {cs : List Char}
    (h : IsNumeral p cs) :
    ∃ ds part, (Decoder.splitMinus cs).2 = ds ++ part ∧ (ds ≠ [] ∧ ∀ d ∈ ds, p d) ∧
      (part = [] ∨ IsFraction p part) := by
  obtain ⟨sign, ds, part, rfl, hs, hds, hpart⟩ := h
  refine ⟨ds, part, ?_, hds, hpart⟩
  rcases hs with rfl | rfl
  · obtain ⟨d, ds, rfl⟩ := List.exists_cons_of_ne_nil hds.1
    rw [List.nil_append, splitMinus_of_ne]
    rintro c hc rfl
    obtain rfl : d = '-' := by simpa using hc
    exact absurd (hds.2 '-' (by simp)) (by simp [hp])
  · rfl

/-- Digits, with a decimal part or without one, are digits and one point at most. -/
theorem chars_of_digits {ds part : List Char} (hd : ∀ d ∈ ds, d.isDigit)
    (hpart : part = [] ∨ IsFraction Char.isDigit part) :
    (∀ c ∈ ds ++ part, c.isDigit ∨ c = '.') ∧ (ds ++ part).count '.' ≤ 1 := by
  rw [List.count_append, List.count_eq_zero.mpr (point_notMem hd)]
  rcases hpart with rfl | ⟨es, rfl, -, he⟩
  · exact ⟨fun c hc => .inl (hd c (by simpa using hc)), by simp⟩
  · refine ⟨fun c hc => ?_, ?_⟩
    · rcases List.mem_append.mp hc with hc | hc
      · exact .inl (hd c hc)
      · exact (List.mem_cons.mp hc).symm.imp_left (he c)
    · rw [List.count_cons_self, List.count_eq_zero.mpr (point_notMem he)]

/-- A numeral of ASCII digits decodes as a float. -/
theorem float_of_isNumeral {cs : List Char} (h : IsNumeral Char.isDigit cs) :
    ∃ x, Decoder.float cs = .ok x := by
  obtain ⟨ds, part, hsplit, ⟨hne, hd⟩, hpart⟩ := h.exists_splitMinus (by decide)
  obtain ⟨hchars, hcount⟩ := chars_of_digits hd hpart
  have hgood : ¬ (2 ≤ (ds ++ part).count '.' ∨ ∀ c ∈ ds ++ part, c = '.') := by
    rintro (h₂ | hall)
    · omega
    · obtain ⟨d, hmem⟩ := List.exists_mem_of_ne_nil ds hne
      exact point_notMem hd (hall d (by simp [hmem]) ▸ hmem)
  have hne' : ds ++ part ≠ [] := by simp [hne]
  rw [← hsplit] at hchars hgood hne'
  rw [Decoder.float_of_chars hne' hchars]
  cases hr : Decimal.readPlain? (Decoder.splitMinus cs).2 with
  | some d => exact ⟨_, rfl⟩
  | none => exact absurd ((readPlain?_eq_none_iff hne' hchars).mp hr) hgood

/-- A numeral decodes as a float, or it has a digit beyond ASCII and is refused for that. -/
theorem float_numeral {cs : List Char} (h : IsNumeral Text.isDigit cs) :
    (∀ c ∈ cs, c.toNat < 0x80) ∧ (∃ x, Decoder.float cs = .ok x) ∨
      (∃ c ∈ cs, 0x80 ≤ c.toNat) ∧
        Decoder.float cs = .error (.notFloat (String.ofList cs)) := by
  by_cases hascii : ∀ c ∈ cs, c.toNat < 0x80
  · refine .inl ⟨hascii, float_of_isNumeral (h.imp fun c hc hd => ?_)⟩
    rwa [Text.isDigit_of_ascii (hascii c hc)] at hd
  · obtain ⟨c, hc, hbeyond⟩ : ∃ c ∈ cs, 0x80 ≤ c.toNat := by simpa using hascii
    refine .inr ⟨⟨c, hc, hbeyond⟩, Decoder.float_of_not_chars (.inr ⟨c, ?_, ?_⟩)⟩
    · refine mem_splitMinus_of_ne hc ?_
      rintro rfl
      exact absurd hbeyond (by decide)
    · rintro (hd | rfl)
      · exact absurd (toNat_lt_of_ascii_digit hd) (Nat.not_lt.mpr hbeyond)
      · exact absurd hbeyond (by decide)

/-! ### Number tokens -/

/-- The token under a cursor in a text covers the characters of its lexeme. -/
theorem Cursor.Passes.textIn_token {text : List Char} {w : List Lexeme} {c : Cursor}
    (h : (ofText text).Passes w c) (hc : c.type ≠ .eof) :
    c.token.textIn text = c.lexeme.text ∧ c.lexeme.Shaped := by
  obtain ⟨l, ls, ha, hl⟩ := ahead_of_type hc
  have hlexemes : lexemes text = w ++ l :: ls := ha ▸ h.ahead
  refine ⟨?_, hl ▸ shaped_of_mem (by rw [hlexemes]; simp)⟩
  rw [token, hl, h.pos_eq]
  exact (textIn_tokenAt hlexemes).1

/-- A number token of a text is a numeral. -/
theorem isNumeral_textIn {text : List Char} {t : Token} (h : t ∈ tokenize text)
    (ht : t.type = .number) : IsNumeral Text.isDigit (t.textIn text) := by
  obtain ⟨w, c, hw, rfl⟩ := Cursor.exists_passes_of_mem h
  have hc : c.lexeme.type = .number := ht
  obtain ⟨htext, hshaped⟩ := hw.textIn_token (by rw [Cursor.type, hc]; decide)
  rw [htext]
  exact (hc ▸ hshaped : Shaped ⟨.number, c.lexeme.text⟩).isNumeral

/-- Only one cause is worded like this. -/
theorem Cause.eq_invalid_float {cause : Cause} (h : cause.message = "Invalid float") :
    cause = .invalid .float := by
  cases cause with
  | invalid s => cases s <;> first | rfl | exact absurd h (by decide)
  | expected s => cases s <;> exact absurd h (by decide)
  | expectedToken t => cases t <;> exact absurd h (by decide)
  | expectedString | unterminatedString => simp [message] at h
  | waterNotZero => exact absurd h (by decide)

/-- Where a reading calls a float invalid, there is a number with a digit beyond ASCII. -/
theorem exists_number_of_invalid_float {text : List Char} {d : Diagnostic}
    (hd : d ∈ (Reading.ofText text).diagnostics) (h : d.message = "Invalid float") :
    ∃ t ∈ tokenize text, t.type = .number ∧ t.toInt.span = d.span ∧
      (∃ c ∈ t.textIn text, 0x80 ≤ c.toNat) ∧
      Decoder.float (t.textIn text) = .error (.notFloat (String.ofList (t.textIn text))) := by
  obtain ⟨f, hf, rfl⟩ := List.mem_map.mp hd
  obtain ⟨w, c, hw, hspan, hcause⟩ := Reading.faults_concern false (.ofText text) f hf
  obtain ⟨hc, e, he⟩ : c.type = .number ∧ ∃ e, Decoder.float c.lexeme.text = .error e := by
    rw [Cause.eq_invalid_float h] at hcause
    cases hcause with
    | invalid _ hfloat => exact hfloat rfl
  have hmem := hw.token_unique.1
  obtain ⟨htext, -⟩ := hw.textIn_token (by rw [hc]; decide)
  refine ⟨c.token, hmem, hc, congrArg Span.toInt hspan.symm, ?_⟩
  rcases float_numeral (isNumeral_textIn hmem hc) with ⟨-, x, hx⟩ | hbeyond
  · -- a number that decodes is not refused
    rw [htext, he] at hx
    cases hx
  · exact hbeyond

/-! ### Numerals as texts -/

theorem Grammar.number_of_ok {α : Type} {decode : Decoder α} {c : Cursor} (hc : c.type = .number)
    {a : α} (ha : decode c.lexeme.text = .ok a) (what : Suggestion) :
    number what decode c = .ok a c.next := by
  rw [number, Rule.eatFor, Rule.accept_bind, if_pos hc, decoded, ha]
  rfl

section
variable {cs : List Char} (h : IsNumeral Char.isDigit cs)

include h

theorem lexemes_isNumeral : lexemes cs = [⟨.number, cs⟩] := by
  simpa using lexemes_number h.of_ascii (k := []) (by simp)

/-- A numeral of ASCII digits is one token. -/
theorem tokenize_isNumeral :
    tokenize cs = [⟨.number, ⟨0, cs.length⟩, true, none⟩, .eof cs.length] := by
  rw [tokenize, lexemes_isNumeral h]
  simp [place, Lexeme.tokenAt, Lexeme.width, Lexeme.terminated, Lexeme.commentKind]

/-- As a number, a numeral of ASCII digits is read whole. -/
theorem number_isNumeral {x : Binary64} (hx : Decoder.float cs = .ok x) (what : Suggestion) :
    Grammar.number what Decoder.float (.ofText cs) = .ok x ⟨cs.length, []⟩ := by
  have hcursor : Cursor.ofText cs = ⟨0, [⟨.number, cs⟩]⟩ := by
    rw [Cursor.ofText, lexemes_isNumeral h]
  have hnext : (⟨0, [⟨.number, cs⟩]⟩ : Cursor).next = ⟨cs.length, []⟩ := by
    rw [Cursor.next, Nat.zero_add]
    rfl
  rw [hcursor, Grammar.number_of_ok rfl hx, hnext]

end

/-- **Floats.**  A number token of a text decodes as a float if and only if all its characters are
ASCII, and it is never refused for being malformed.  Where a reading calls a float invalid, there is
a number with a digit beyond ASCII, which is refused for that.  The decoder alone refuses malformed
texts, such as a point, or digits with two points.  A numeral of ASCII digits is one number token
and the end of the input, and as a number it is read whole. -/
theorem number_tokens_as_floats :
    (∀ text, ∀ t ∈ tokenize text, t.type = .number →
      ((∃ x, Decoder.float (t.textIn text) = .ok x) ↔ ∀ c ∈ t.textIn text, c.toNat < 0x80) ∧
      ∀ s, Decoder.float (t.textIn text) ≠ .error (.notDecimal s)) ∧
    (∀ text, ∀ d ∈ (Reading.ofText text).diagnostics, d.message = "Invalid float" →
      ∃ t ∈ tokenize text, t.type = .number ∧ t.toInt.span = d.span ∧
        (∃ c ∈ t.textIn text, 0x80 ≤ c.toNat) ∧
        Decoder.float (t.textIn text) = .error (.notFloat (String.ofList (t.textIn text)))) ∧
    (∀ cs s, Decoder.float cs = .error (.notDecimal s) ↔
      s = String.ofList cs ∧ Malformed (Decoder.splitMinus cs).2) ∧
    Decoder.float ".".toList = .error (.notDecimal ".") ∧
    Decoder.float "1.2.3".toList = .error (.notDecimal "1.2.3") ∧
    (∀ cs, IsNumeral Char.isDigit cs →
      tokenize cs = [⟨.number, ⟨0, cs.length⟩, true, none⟩, .eof cs.length] ∧
      ∃ x, Decoder.float cs = .ok x ∧
        ∀ what, Grammar.number what Decoder.float (.ofText cs) = .ok x ⟨cs.length, []⟩) := by
  refine ⟨fun text t ht htype => ?_, fun _ _ => exists_number_of_invalid_float,
    fun _ _ => Decoder.float_notDecimal_iff, ?_, ?_, fun cs h => ?_⟩
  · rcases float_numeral (isNumeral_textIn ht htype) with ⟨hascii, x, hx⟩ | ⟨⟨c, hc, hbeyond⟩, he⟩
    · exact ⟨⟨fun _ => hascii, fun _ => ⟨x, hx⟩⟩, fun s hs => by rw [hx] at hs; cases hs⟩
    · refine ⟨⟨fun ⟨x, hx⟩ => ?_, fun hascii => ?_⟩, fun s hs => ?_⟩
      · rw [he] at hx
        cases hx
      · exact absurd (hascii c hc) (Nat.not_lt.mpr hbeyond)
      · rw [he] at hs
        cases hs
  · rfl
  · rfl
  · obtain ⟨x, hx⟩ := float_of_isNumeral h
    exact ⟨tokenize_isNumeral h, x, hx, number_isNumeral h hx⟩

/-- A digit beyond ASCII makes a default no float, and a numeral with a sign is read whole. -/
theorem number_tokens_as_floats_default :
    (⟨.number, ⟨20, 22⟩, true, none⟩ : Token) ∈ tokenize "!!parameter a float:1٣".toList ∧
      (Reading.ofText "!!parameter a float:1٣".toList).diagnostics =
        [⟨"Invalid float", ⟨20, 22⟩, some .float⟩] ∧
      (¬ ∃ x, Decoder.float "1٣".toList = .ok x) ∧
      (∃ t ∈ tokenize "!!parameter a float:1٣".toList, t.type = .number ∧
        t.toInt.span = ⟨20, 22⟩) ∧
      tokenize "-12.50".toList = [⟨.number, ⟨0, 6⟩, true, none⟩, .eof 6] := by
  obtain ⟨htoken, hdiagnostic, -, -, -, hnumeral⟩ := number_tokens_as_floats
  have hmem : (⟨.number, ⟨20, 22⟩, true, none⟩ : Token) ∈
      tokenize "!!parameter a float:1٣".toList := by decide +kernel
  have hread : (Reading.ofText "!!parameter a float:1٣".toList).diagnostics =
      [⟨"Invalid float", ⟨20, 22⟩, some .float⟩] := by decide +kernel
  refine ⟨hmem, hread, ?_, ?_, ?_⟩
  · intro h
    have hascii := (htoken _ _ hmem rfl).1.mp h
    exact absurd (hascii '٣' (by decide +kernel)) (by decide)
  · obtain ⟨t, ht, htype, hspan, -⟩ := hdiagnostic _ _ (hread ▸ List.mem_singleton_self _) rfl
    exact ⟨t, ht, htype, hspan⟩
  · exact (hnumeral "-12.50".toList ⟨['-'], ['1', '2'], ['.', '5', '0'], rfl, .inr rfl,
      by simp, .inr ⟨['5', '0'], rfl, by simp, by simp⟩⟩).1

end SeedHeader
