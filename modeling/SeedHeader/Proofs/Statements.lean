import SeedHeader.Proofs.LineContext

/-!
# Proofs — The four forms of a statement

A statement written out token by token: a pickup, a timer, an annotation or a command
(`IsStatement`).  This is what the phrase of statements comes to when its alternatives are spelled
out (`isStatement_iff`).
-/

namespace SeedHeader

/-- An unsigned integer: ASCII digits, no more of them than an integer may have, with a value below
2³². -/
def IsUnsigned (cs : List Char) : Prop :=
  isDigits cs ∧ cs.length ≤ digitLimit ∧ digitsValue cs < 2 ^ 32

/-- An uber identifier: `NUMBER SEPARATOR NUMBER`, both numbers being unsigned integers. -/
inductive IsUber : List Lexeme → Prop where
  | mk {group bar id : List Char} (hg : IsUnsigned group) (hi : IsUnsigned id) :
      IsUber [⟨.number, group⟩, ⟨.separator, bar⟩, ⟨.number, id⟩]

/-- The value of a trigger: any `NUMBER`, or
`DOLLAR IDENTIFIER(param) OPEN_PAREN IDENTIFIER CLOSE_PAREN`. -/
inductive IsValue : List Lexeme → Prop where
  | number {cs : List Char} : IsValue [⟨.number, cs⟩]
  | parameter {dollar param opening name closing : List Char} (h : Spells "param" param) :
      IsValue [⟨.dollar, dollar⟩, ⟨.identifier, param⟩, ⟨.openParen, opening⟩, ⟨.identifier, name⟩,
        ⟨.closeParen, closing⟩]

/-- An optional token of the given type. -/
def IsOptional (t : TokenType) (w : List Lexeme) : Prop := w = [] ∨ ∃ cs, w = [⟨t, cs⟩]

/-- The value that a trigger waits for: nothing, or `EQ value`. -/
def IsCondition (w : List Lexeme) : Prop := w = [] ∨ ∃ cs v, w = ⟨.eq, cs⟩ :: v ∧ IsValue v

/-- What may stand in front of the kind of a setup: nothing, or a dot or a bar, each with optional
whitespace behind it. -/
def IsJunction (w : List Lexeme) : Prop :=
  w = [] ∨ ∃ t cs v, w = ⟨t, cs⟩ :: v ∧ (t = .dot ∨ t = .separator) ∧ IsOptional .whitespace v

/-- The lexemes `w`, in front of `rest`, are a statement. -/
inductive IsStatement : (w rest : List Lexeme) → Prop where
  /-- `BANG? uber (EQ value)? SEPARATOR item`. -/
  | pickup {mark u v i rest : List Lexeme} {bar : List Char} (hm : IsOptional .bang mark)
      (hu : IsUber u) (hv : IsCondition v) (hi : ∃ a, Phrase.item i rest a) :
      IsStatement (mark ++ (u ++ (v ++ ⟨.separator, bar⟩ :: i))) rest
  /-- `IDENTIFIER(setup) WHITESPACE? ((DOT|SEPARATOR) WHITESPACE?)? IDENTIFIER(timer) SEPARATOR uber
  SEPARATOR uber`. -/
  | timer {blank junction u v rest : List Lexeme} {setup timer bar bar' : List Char}
      (hs : Spells "setup" setup) (hb : IsOptional .whitespace blank) (hj : IsJunction junction)
      (ht : Spells "timer" timer) (hu : IsUber u) (hv : IsUber v) :
      IsStatement (⟨.identifier, setup⟩ :: (blank ++ (junction ++ ⟨.identifier, timer⟩ ::
        ⟨.separator, bar⟩ :: (u ++ ⟨.separator, bar'⟩ :: v)))) rest
  /-- `POUND IDENTIFIER`. -/
  | annotated {pound name : List Char} {rest : List Lexeme} :
      IsStatement [⟨.pound, pound⟩, ⟨.identifier, name⟩] rest
  /-- `BANG BANG command`. -/
  | command {bang bang' : List Char} {w rest : List Lexeme} (hc : ∃ a, Phrase.command w rest a) :
      IsStatement (⟨.bang, bang⟩ :: ⟨.bang, bang'⟩ :: w) rest

theorem IsStatement.lineLocal {w rest rest' : List Lexeme} (h : IsStatement w rest)
    (hr : SameAhead rest rest') : IsStatement w rest' := by
  cases h with
  | pickup hm hu hv hi =>
    obtain ⟨a, ha⟩ := hi
    exact .pickup hm hu hv ⟨a, Phrase.LineLocal.item hr ha⟩
  | timer hs hb hj ht hu hv => exact .timer hs hb hj ht hu hv
  | annotated => exact .annotated
  | command hc =>
    obtain ⟨a, ha⟩ := hc
    exact .command ⟨a, Phrase.LineLocal.command hr ha⟩

namespace Phrase

variable {α β : Type} {w rest : List Lexeme}

theorem token_before_iff {t : TokenType} {Q : Phrase β} {b : β} :
    ((token t).before Q) w rest b ↔ ∃ cs v, w = ⟨t, cs⟩ :: v ∧ Q v rest b := by
  constructor
  · rintro ⟨u, v, cs, rfl, rfl, hb⟩
    exact ⟨cs, v, rfl, hb⟩
  · rintro ⟨cs, v, rfl, hb⟩
    exact ⟨[_], v, cs, rfl, rfl, hb⟩

/-- A token that is there for its type only. -/
theorem mark_before_iff {t : TokenType} {Q : Phrase β} {b : β} :
    (((token t).map fun _ => ()).before Q) w rest b ↔ ∃ cs v, w = ⟨t, cs⟩ :: v ∧ Q v rest b := by
  constructor
  · rintro ⟨u, v, -, rfl, ⟨cs, rfl, -⟩, hb⟩
    exact ⟨cs, v, rfl, hb⟩
  · rintro ⟨cs, v, rfl, hb⟩
    exact ⟨[_], v, (), rfl, ⟨cs, rfl, rfl⟩, hb⟩

theorem bar_before_iff {Q : Phrase β} {b : β} :
    (bar.before Q) w rest b ↔ ∃ cs v, w = ⟨.separator, cs⟩ :: v ∧ Q v rest b :=
  mark_before_iff

theorem gap_before_iff {Q : Phrase β} {b : β} :
    (gap.before Q) w rest b ↔ ∃ cs v, w = ⟨.whitespace, cs⟩ :: v ∧ Q v rest b :=
  mark_before_iff

/-- A token with a meaning, and what follows it by that meaning. -/
theorem lexeme_seq_iff {t : TokenType} {m : List Char → α → Prop} {Q : α → Phrase β} {b : β} :
    (Phrase.seq (fun w _ a => ∃ cs, w = [⟨t, cs⟩] ∧ m cs a) Q) w rest b ↔
      ∃ a cs v, w = ⟨t, cs⟩ :: v ∧ m cs a ∧ Q a v rest b := by
  constructor
  · rintro ⟨u, v, a, rfl, ⟨cs, rfl, hm⟩, hb⟩
    exact ⟨a, cs, v, rfl, hm, hb⟩
  · rintro ⟨a, cs, v, rfl, hm, hb⟩
    exact ⟨[_], v, a, rfl, ⟨cs, rfl, hm⟩, hb⟩

theorem word_seq_iff [Worded α] {Q : α → Phrase β} {b : β} :
    ((word α).seq Q) w rest b ↔
      ∃ a cs v, w = ⟨.identifier, cs⟩ :: v ∧ Spells (Worded.word a) cs ∧ Q a v rest b :=
  lexeme_seq_iff

theorem number_seq_iff {decode : Decoder α} {Q : α → Phrase β} {b : β} :
    ((number decode).seq Q) w rest b ↔
      ∃ a cs v, w = ⟨.number, cs⟩ :: v ∧ decode cs = .ok a ∧ Q a v rest b :=
  lexeme_seq_iff

theorem isUnsigned_iff {cs : List Char} : IsUnsigned cs ↔ ∃ n, Decoder.unsigned cs = .ok n := by
  simp only [Decoder.unsigned_iff, Decoder.IsRow, IsUnsigned]
  constructor
  · rintro ⟨hd, hl, hn⟩
    exact ⟨_, ⟨hd, hl⟩, rfl, hn⟩
  · rintro ⟨n, ⟨hd, hl⟩, rfl, hn⟩
    exact ⟨hd, hl, hn⟩

theorem isUber_iff : IsUber w ↔ ∃ u, uber w rest u := by
  constructor
  · rintro ⟨hg, hi⟩
    obtain ⟨m, hm⟩ := isUnsigned_iff.mp hg
    obtain ⟨n, hn⟩ := isUnsigned_iff.mp hi
    exact ⟨⟨m, n⟩, [_], _, m, rfl, ⟨_, rfl, hm⟩, token_before_iff.mpr ⟨_, _, rfl, n, ⟨_, rfl, hn⟩, rfl⟩⟩
  · rintro ⟨u, g, v, m, rfl, ⟨cs, rfl, hm⟩, hb⟩
    obtain ⟨bar, v, rfl, n, ⟨ds, rfl, hn⟩, rfl⟩ := token_before_iff.mp hb
    exact .mk (isUnsigned_iff.mpr ⟨m, hm⟩) (isUnsigned_iff.mpr ⟨n, hn⟩)

theorem parameter_iff {v : Value α} :
    parameter w rest v ↔
      ∃ dollar param opening cs closing,
        w = [⟨.dollar, dollar⟩, ⟨.identifier, param⟩, ⟨.openParen, opening⟩, ⟨.identifier, cs⟩,
          ⟨.closeParen, closing⟩] ∧ Spells "param" param ∧ .parameter (String.ofList cs) = v := by
  constructor
  · intro h
    obtain ⟨dollar, w₁, rfl, h₁⟩ := token_before_iff.mp h
    obtain ⟨⟨⟩, param, w₂, rfl, hs, h₂⟩ := word_seq_iff.mp h₁
    obtain ⟨opening, w₃, rfl, u, v, cs, rfl, rfl, closing, rfl, rfl⟩ := token_before_iff.mp h₂
    exact ⟨dollar, param, opening, cs, closing, rfl, hs, rfl⟩
  · rintro ⟨dollar, param, opening, cs, closing, rfl, hs, rfl⟩
    refine token_before_iff.mpr ⟨dollar, _, rfl, word_seq_iff.mpr ⟨.param, param, _, rfl, hs, ?_⟩⟩
    exact token_before_iff.mpr ⟨opening, _, rfl, [_], [_], cs, rfl, rfl, closing, rfl, rfl⟩

theorem isValue_iff : IsValue w ↔ ∃ v, field .number Decoder.text w rest v := by
  constructor
  · rintro (_ | hp)
    · exact ⟨_, .inl ⟨_, ⟨_, rfl, rfl⟩, rfl⟩⟩
    · exact ⟨_, .inr (parameter_iff.mpr ⟨_, _, _, _, _, rfl, hp, rfl⟩)⟩
  · rintro ⟨v, ⟨s, ⟨cs, rfl, -⟩, rfl⟩ | hv⟩
    · exact .number
    · obtain ⟨dollar, param, opening, cs, closing, rfl, hs, -⟩ := parameter_iff.mp hv
      exact .parameter hs

/-- In front of a bar a condition may be left out. -/
theorem isCondition_iff {bar : List Char} {i : List Lexeme} :
    IsCondition w ↔ ∃ v, condition w (⟨.separator, bar⟩ :: i) v := by
  constructor
  · rintro (rfl | ⟨cs, v, rfl, hv⟩)
    · exact ⟨none, .inr ⟨rfl, by simp, rfl⟩⟩
    · obtain ⟨a, ha⟩ := isValue_iff.mp hv
      exact ⟨some a, .inl (token_before_iff.mpr ⟨cs, v, rfl, a, ha, rfl⟩)⟩
  · rintro ⟨v, h | ⟨rfl, -, -⟩⟩
    · obtain ⟨cs, u, rfl, a, ha, -⟩ := token_before_iff.mp h
      exact .inr ⟨cs, u, rfl, isValue_iff.mpr ⟨a, ha⟩⟩
    · exact .inl rfl

theorem pickup_iff (ignore skip : Bool) :
    (∃ p, pickup ignore skip w rest p) ↔
      ∃ u v bar i, w = u ++ (v ++ ⟨.separator, bar⟩ :: i) ∧ IsUber u ∧ IsCondition v ∧
        ∃ a, item i rest a := by
  constructor
  · rintro ⟨p, t, w₁, trig, rfl, ⟨u, v, id, rfl, hu, tv, hv, -⟩, hb⟩
    obtain ⟨bar, i, rfl, a, ha, -⟩ := bar_before_iff.mp hb
    exact ⟨u, v, bar, i, by simp, isUber_iff.mpr ⟨id, hu⟩, isCondition_iff.mpr ⟨tv, hv⟩, a, ha⟩
  · rintro ⟨u, v, bar, i, rfl, hu, hv, a, ha⟩
    obtain ⟨id, hu⟩ := isUber_iff.mp hu
    obtain ⟨tv, hv⟩ := isCondition_iff.mp hv
    exact ⟨_, u ++ v, _, _, by simp, ⟨u, v, id, rfl, hu, tv, hv, rfl⟩,
      bar_before_iff.mpr ⟨bar, i, rfl, a, ha, rfl⟩⟩

/-- In front of a word a blank is optional whitespace. -/
theorem isBlank_iff {ls : List Lexeme} (h : firstType ls ≠ .whitespace) :
    blank w ls () ↔ IsOptional .whitespace w := by
  constructor
  · rintro (⟨cs, rfl, -⟩ | ⟨rfl, -, -⟩)
    · exact .inr ⟨cs, rfl⟩
    · exact .inl rfl
  · rintro (rfl | ⟨cs, rfl⟩)
    · exact .inr ⟨rfl, h, rfl⟩
    · exact .inl ⟨cs, rfl, rfl⟩

/-- In front of a word a joint is a junction. -/
theorem isJunction_iff {cs : List Char} {ls : List Lexeme} :
    joint w (⟨.identifier, cs⟩ :: ls) () ↔ IsJunction w := by
  have hw : firstType (⟨.identifier, cs⟩ :: ls) ≠ .whitespace := by simp
  constructor
  · rintro (h | h | ⟨rfl, -, -⟩)
    · obtain ⟨ds, v, rfl, hv⟩ := token_before_iff.mp h
      exact .inr ⟨.dot, ds, v, rfl, .inl rfl, (isBlank_iff hw).mp hv⟩
    · obtain ⟨ds, v, rfl, hv⟩ := token_before_iff.mp h
      exact .inr ⟨.separator, ds, v, rfl, .inr rfl, (isBlank_iff hw).mp hv⟩
    · exact .inl rfl
  · rintro (rfl | ⟨t, ds, v, rfl, rfl | rfl, hv⟩)
    · exact .inr (.inr ⟨rfl, by simp [IsJoint], rfl⟩)
    · exact .inl (token_before_iff.mpr ⟨ds, v, rfl, (isBlank_iff hw).mpr hv⟩)
    · exact .inr (.inl (token_before_iff.mpr ⟨ds, v, rfl, (isBlank_iff hw).mpr hv⟩))

theorem firstType_junction {cs : List Char} {ls : List Lexeme} (h : IsJunction w) :
    firstType (w ++ ⟨.identifier, cs⟩ :: ls) ≠ .whitespace := by
  obtain rfl | ⟨t, ds, v, rfl, rfl | rfl, -⟩ := h <;> simp

theorem timer_iff :
    (∃ t, timer w rest t) ↔ ∃ u bar v, w = u ++ ⟨.separator, bar⟩ :: v ∧ IsUber u ∧ IsUber v := by
  constructor
  · rintro ⟨t, u, w₁, a, rfl, hu, h⟩
    obtain ⟨bar, v, rfl, b, hv, -⟩ := bar_before_iff.mp h
    exact ⟨u, bar, v, rfl, isUber_iff.mpr ⟨a, hu⟩, isUber_iff.mpr ⟨b, hv⟩⟩
  · rintro ⟨u, bar, v, rfl, hu, hv⟩
    obtain ⟨a, hu⟩ := isUber_iff.mp hu
    obtain ⟨b, hv⟩ := isUber_iff.mp hv
    exact ⟨_, u, _, a, rfl, hu, bar_before_iff.mpr ⟨bar, v, rfl, b, hv, rfl⟩⟩

theorem setup_iff :
    (∃ t, setup w rest t) ↔
      ∃ blank junction timer bar u bar' v,
        w = blank ++ (junction ++ ⟨.identifier, timer⟩ :: ⟨.separator, bar⟩ ::
          (u ++ ⟨.separator, bar'⟩ :: v)) ∧
        IsOptional .whitespace blank ∧ IsJunction junction ∧ Spells "timer" timer ∧
        IsUber u ∧ IsUber v := by
  constructor
  · rintro ⟨t, w₁, w₂, ⟨⟩, rfl, ⟨b, j, ⟨⟩, rfl, hb, hj⟩, h⟩
    obtain ⟨⟨⟩, cs, w₃, rfl, hs, h⟩ := word_seq_iff.mp h
    obtain ⟨bar, w₄, rfl, ht⟩ := bar_before_iff.mp h
    obtain ⟨u, bar', v, rfl, hu, hv⟩ := timer_iff.mp ⟨t, ht⟩
    have hj := isJunction_iff.mp hj
    have hb := (isBlank_iff (by simpa using firstType_junction hj)).mp hb
    exact ⟨b, j, cs, bar, u, bar', v, by simp, hb, hj, hs, hu, hv⟩
  · rintro ⟨b, j, cs, bar, u, bar', v, rfl, hb, hj, hs, hu, hv⟩
    obtain ⟨t, ht⟩ := timer_iff.mpr ⟨u, bar', v, rfl, hu, hv⟩
    refine ⟨t, b ++ j, _, (), by simp, ⟨b, j, (), rfl, ?_, isJunction_iff.mpr hj⟩,
      word_seq_iff.mpr ⟨.timer, cs, _, rfl, hs, bar_before_iff.mpr ⟨bar, _, rfl, ht⟩⟩⟩
    exact (isBlank_iff (by simpa using firstType_junction hj)).mpr hb

end Phrase

/-- **The phrase of statements has four forms.** -/
theorem isStatement_iff {w rest : List Lexeme} (skip : Bool) :
    IsStatement w rest ↔ ∃ content, Phrase.statement skip w rest content := by
  constructor
  · intro h
    cases h with
    | @pickup mark u v i rest bar hm hu hv hi =>
      rcases hm with rfl | ⟨cs, rfl⟩
      · obtain ⟨p, hp⟩ := (Phrase.pickup_iff false skip).mpr ⟨u, v, bar, i, rfl, hu, hv, hi⟩
        exact ⟨_, .inr (.inr (.inl ⟨p, hp, rfl⟩))⟩
      · obtain ⟨p, hp⟩ := (Phrase.pickup_iff true skip).mpr ⟨u, v, bar, i, rfl, hu, hv, hi⟩
        exact ⟨_, .inr (.inl (Phrase.token_before_iff.mpr ⟨cs, _, rfl, .inr ⟨p, hp, rfl⟩⟩))⟩
    | timer hs hb hj ht hu hv =>
      obtain ⟨t, ht⟩ := Phrase.setup_iff.mpr ⟨_, _, _, _, _, _, _, rfl, hb, hj, ht, hu, hv⟩
      exact ⟨_, .inl (Phrase.word_seq_iff.mpr ⟨.setup, _, _, rfl, hs, t, ht, rfl⟩)⟩
    | annotated =>
      exact ⟨_, .inr (.inr (.inr (Phrase.token_before_iff.mpr
        ⟨_, _, rfl, _, ⟨_, rfl, rfl⟩, rfl⟩)))⟩
    | command hc =>
      obtain ⟨a, ha⟩ := hc
      exact ⟨_, .inr (.inl (Phrase.token_before_iff.mpr ⟨_, _, rfl,
        .inl (Phrase.token_before_iff.mpr ⟨_, _, rfl, a, ha, rfl⟩)⟩))⟩
  · rintro ⟨content, h | h | ⟨p, hp, -⟩ | h⟩
    · obtain ⟨⟨⟩, cs, w₁, rfl, hs, t, ht, -⟩ := Phrase.word_seq_iff.mp h
      obtain ⟨b, j, ds, bar, u, bar', v, rfl, hb, hj, ht, hu, hv⟩ := Phrase.setup_iff.mp ⟨t, ht⟩
      exact .timer hs hb hj ht hu hv
    · obtain ⟨cs, w₁, rfl, h' | ⟨p, hp, -⟩⟩ := Phrase.token_before_iff.mp h
      · obtain ⟨ds, w₂, rfl, a, ha, -⟩ := Phrase.token_before_iff.mp h'
        exact .command ⟨a, ha⟩
      · obtain ⟨u, v, bar, i, rfl, hu, hv, hi⟩ := (Phrase.pickup_iff true skip).mp ⟨p, hp⟩
        exact .pickup (.inr ⟨cs, rfl⟩) hu hv hi
    · obtain ⟨u, v, bar, i, rfl, hu, hv, hi⟩ := (Phrase.pickup_iff false skip).mp ⟨p, hp⟩
      exact .pickup (.inl rfl) hu hv hi
    · obtain ⟨cs, w₁, rfl, s, ⟨ds, rfl, -⟩, -⟩ := Phrase.token_before_iff.mp h
      exact .annotated

end SeedHeader
