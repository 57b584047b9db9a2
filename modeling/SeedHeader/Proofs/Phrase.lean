import SeedHeader.Grammar.Motion
import SeedHeader.Proofs.Lexed
import SeedHeader.Proofs.Relocation

/-!
# Proofs — Phrases

A phrase of the grammar says which lexemes mean what, without regard to how they are read: there
is no cursor, no fault and no order in which alternatives are tried.  `P w rest a` holds when the
lexemes `w`, in front of the lexemes `rest`, say `a`.  Most phrases do not depend on `rest`; a free
text does, since it goes on as far as it can.

`Rule.Reads e r P` relates a rule to a phrase: whatever comes from a text, the rule takes `w` and
yields `a` exactly if `w` says `e a` in front of what is left.  Here `e` forgets where `a` was
read.  One lemma for each way to combine rules carries the relation from the tokens to whole
statements.
-/

namespace SeedHeader

/-- Which lexemes, in front of which others, say what. -/
abbrev Phrase (α : Type) := (w rest : List Lexeme) → α → Prop

/-- The type of the first lexeme, if there is one. -/
def firstType (ls : List Lexeme) : TokenType := (ls.headD ⟨.eof, []⟩).type

@[simp] theorem firstType_cons (l : Lexeme) (ls : List Lexeme) : firstType (l :: ls) = l.type := rfl

namespace Phrase

variable {α β : Type}

/-- Nothing says `a`. -/
def say (a : α) : Phrase α := fun w _ b => w = [] ∧ b = a

/-- A token of the given type says its characters. -/
def token (t : TokenType) : Phrase (List Char) := fun w _ cs => w = [⟨t, cs⟩]

/-- The phrase `P`, read as `f` of what it says. -/
def map (f : α → β) (P : Phrase α) : Phrase β := fun w rest b => ∃ a, P w rest a ∧ f a = b

/-- The phrase `P`, and then a phrase that may depend on what it said. -/
def seq (P : Phrase α) (Q : α → Phrase β) : Phrase β := fun w rest b =>
  ∃ u v a, w = u ++ v ∧ P u (v ++ rest) a ∧ Q a v rest b

/-- The phrase `P`, whatever it says, and then the phrase `Q`. -/
def before (P : Phrase α) (Q : Phrase β) : Phrase β := P.seq fun _ => Q

/-- One phrase or the other. -/
def or (P Q : Phrase α) : Phrase α := fun w rest a => P w rest a ∨ Q w rest a

/-- A token of the given type, with a meaning. -/
def meaning (t : TokenType) (decode : Decoder α) : Phrase α := fun w _ a =>
  ∃ cs, w = [⟨t, cs⟩] ∧ decode cs = .ok a

/-- Every way to say `P` starts with a token whose type satisfies `p`. -/
def Opens (p : TokenType → Prop) (P : Phrase α) : Prop :=
  ∀ ⦃w rest a⦄, P w rest a → p (firstType (w ++ rest))

theorem Opens.token (t : TokenType) : (token t).Opens (· = t) := by
  rintro w rest cs rfl
  rfl

theorem Opens.meaning (t : TokenType) (decode : Decoder α) : (meaning t decode).Opens (· = t) := by
  rintro w rest a ⟨cs, rfl, -⟩
  rfl

theorem Opens.map {p : TokenType → Prop} {P : Phrase α} (h : P.Opens p) (f : α → β) :
    (P.map f).Opens p := by
  rintro w rest b ⟨a, ha, -⟩
  exact h ha

theorem Opens.seq {p : TokenType → Prop} {P : Phrase α} (h : P.Opens p) (Q : α → Phrase β) :
    (P.seq Q).Opens p := by
  rintro w rest b ⟨u, v, a, rfl, ha, -⟩
  rw [List.append_assoc]
  exact h ha

theorem Opens.mono {p q : TokenType → Prop} {P : Phrase α} (h : P.Opens p) (hpq : ∀ t, p t → q t) :
    P.Opens q :=
  fun _ _ _ ha => hpq _ (h ha)

end Phrase

/-! ### Rules and the phrases they read -/

/-- The cursor behind the first lexemes `w`, if it is at them. -/
theorem Cursor.exists_passes {c : Cursor} {w rest : List Lexeme} (h : c.ahead = w ++ rest) :
    ∃ c', c.Passes w c' ∧ c'.ahead = rest :=
  ⟨⟨c.pos + (charsOf w).length, rest⟩, ⟨h, rfl⟩, rfl⟩

theorem Cursor.type_eq (c : Cursor) : c.type = firstType c.ahead := rfl

theorem Cursor.Passes.lexed {c c' : Cursor} {w : List Lexeme} (h : c.Passes w c')
    (hc : Lexed c.ahead) : Lexed c'.ahead :=
  (h.ahead ▸ hc : Lexed (w ++ c'.ahead)).right

/-- A phrase is not ahead of a cursor at a token that it does not open with. -/
theorem Phrase.Opens.absent {α : Type} {p : TokenType → Prop} {P : Phrase α} (h : P.Opens p)
    {c : Cursor} {w rest : List Lexeme} (hw : c.ahead = w ++ rest) (hc : ¬ p c.type) {a : α} :
    ¬ P w rest a := by
  intro ha
  exact hc (hw ▸ h ha : p (firstType c.ahead))

/-- Where a cursor gets to is determined by what it passes. -/
theorem Cursor.Passes.unique {c c₁ c₂ : Cursor} {w : List Lexeme} (h₁ : c.Passes w c₁)
    (h₂ : c.Passes w c₂) : c₁ = c₂ := by
  obtain ⟨pos₁, ahead₁⟩ := c₁
  obtain ⟨pos₂, ahead₂⟩ := c₂
  have hpos : pos₁ = pos₂ := h₁.pos.trans h₂.pos.symm
  have hahead : ahead₁ = ahead₂ := List.append_cancel_left (h₁.ahead.symm.trans h₂.ahead)
  rw [hpos, hahead]

namespace Rule

open Phrase

variable {α β γ δ : Type}

/-- The rule reads the phrase `P`, no more and no less, and yields what it says up to `e`. -/
def Reads (e : α → β) (r : Rule α) (P : Phrase β) : Prop :=
  ∀ c : Cursor, Lexed c.ahead → ∀ c' b,
    (∃ a, r c = .ok a c' ∧ e a = b) ↔ ∃ w, c.Passes w c' ∧ P w c'.ahead b

namespace Reads

theorem ok {e : α → β} {r : Rule α} {P : Phrase β} (h : Reads e r P) {c c' : Cursor} {a : α}
    (hc : Lexed c.ahead) (hr : r c = .ok a c') : ∃ w, c.Passes w c' ∧ P w c'.ahead (e a) :=
  (h c hc c' (e a)).mp ⟨a, hr, rfl⟩

theorem of_phrase {e : α → β} {r : Rule α} {P : Phrase β} (h : Reads e r P) {c : Cursor}
    (hc : Lexed c.ahead) {w rest : List Lexeme} {b : β} (hw : c.ahead = w ++ rest)
    (hp : P w rest b) : ∃ a c', r c = .ok a c' ∧ e a = b ∧ c.Passes w c' ∧ c'.ahead = rest := by
  obtain ⟨c', hpass, hrest⟩ := Cursor.exists_passes hw
  obtain ⟨a, hr, he⟩ := (h c hc c' b).mpr ⟨w, hpass, hrest ▸ hp⟩
  exact ⟨a, c', hr, he, hpass, hrest⟩

theorem pure {e : α → β} {a : α} {b : β} (h : e a = b) : Reads e (pure a) (say b) := by
  intro c _ c' b'
  constructor
  · rintro ⟨a', ha, rfl⟩
    cases ha
    exact ⟨[], .refl c, rfl, h⟩
  · rintro ⟨w, hw, rfl, rfl⟩
    exact ⟨a, by rw [hw.unique (.refl c)]; rfl, h⟩

theorem fail {e : α → β} (cause : Cause) : Reads e (fail cause) fun _ _ _ => False := by
  intro c _ c' b
  simp [fail_apply]

theorem bind {e : α → β} {e' : γ → δ} {r : Rule α} {f : α → Rule γ} {P : Phrase β}
    {Q : β → Phrase δ} (hr : Reads e r P) (hf : ∀ a, Reads e' (f a) (Q (e a))) :
    Reads e' (r >>= f) (P.seq Q) := by
  intro c hc c' d
  constructor
  · rintro ⟨x, hx, rfl⟩
    obtain ⟨a, c₁, ha, hx⟩ := bind_ok hx
    obtain ⟨u, hu, hP⟩ := hr.ok hc ha
    obtain ⟨v, hv, hQ⟩ := (hf a).ok (hu.lexed hc) hx
    exact ⟨u ++ v, hu.trans hv, u, v, e a, rfl, hv.ahead ▸ hP, hQ⟩
  · rintro ⟨w, hw, u, v, b, rfl, hP, hQ⟩
    obtain ⟨a, c₁, ha, rfl, hu, hc₁⟩ :=
      hr.of_phrase hc (hw.ahead.trans (List.append_assoc u v c'.ahead)) hP
    obtain ⟨x, c₂, hx, rfl, hv, -⟩ := (hf a).of_phrase (hu.lexed hc) hc₁ hQ
    obtain rfl := (hu.trans hv).unique hw
    exact ⟨x, (bind_of_ok ha).trans hx, rfl⟩

theorem map {e : α → β} {e' : γ → δ} {r : Rule α} {f : α → γ} {g : β → δ} {P : Phrase β}
    (hr : Reads e r P) (h : ∀ a, e' (f a) = g (e a)) :
    Reads e' (r >>= fun a => Pure.pure (f a)) (P.map g) := by
  intro c hc c' d
  constructor
  · rintro ⟨x, hx, rfl⟩
    obtain ⟨a, c₁, ha, hx⟩ := bind_ok hx
    cases hx
    obtain ⟨w, hw, hP⟩ := hr.ok hc ha
    exact ⟨w, hw, e a, hP, (h a).symm⟩
  · rintro ⟨w, hw, b, hP, rfl⟩
    obtain ⟨a, ha, rfl⟩ := (hr c hc c' b).mpr ⟨w, hw, hP⟩
    exact ⟨f a, bind_of_ok ha, h a⟩

theorem before {e : α → β} {e' : γ → δ} {r : Rule α} {s : Rule γ} {P : Phrase β} {Q : Phrase δ}
    (hr : Reads e r P) (hs : Reads e' s Q) : Reads e' (r >>= fun _ => s) (P.before Q) :=
  hr.bind fun _ => hs

/-- Reading is a matter of one cursor at a time. -/
theorem of_apply {e : α → β} {r : Rule α} {P : Phrase β}
    (h : ∀ c : Cursor, ∃ s : Rule α, r c = s c ∧ ∃ Q : Phrase β, Reads e s Q ∧
      ∀ w rest b, c.ahead = w ++ rest → (P w rest b ↔ Q w rest b)) : Reads e r P := by
  intro c hc c' b
  obtain ⟨s, hs, Q, hQ, hPQ⟩ := h c
  rw [hs, hQ c hc c' b]
  constructor
  · rintro ⟨w, hw, hb⟩
    exact ⟨w, hw, (hPQ w _ b hw.ahead).mpr hb⟩
  · rintro ⟨w, hw, hb⟩
    exact ⟨w, hw, (hPQ w _ b hw.ahead).mp hb⟩

/-- A choice that the first token decides. -/
theorem choice {e : α → β} {r s s' : Rule α} {P Q : Phrase β} (p : TokenType → Prop)
    (hs : ∀ {c : Cursor}, p c.type → r c = s c) (hs' : ∀ {c : Cursor}, ¬ p c.type → r c = s' c)
    (hP : Reads e s P) (hQ : Reads e s' Q) (oP : P.Opens p) (oQ : Q.Opens fun t => ¬ p t) :
    Reads e r (P.or Q) := by
  refine .of_apply fun c => ?_
  by_cases h : p c.type
  · refine ⟨s, hs h, P, hP, fun w rest b hw => ⟨?_, .inl⟩⟩
    rintro (hb | hb)
    · exact hb
    · exact absurd (hw ▸ h : p (firstType (w ++ rest))) (oQ hb)
  · refine ⟨s', hs' h, Q, hQ, fun w rest b hw => ⟨?_, .inr⟩⟩
    rintro (hb | hb)
    · exact absurd (oP hb) (hw ▸ h : ¬ p (firstType (w ++ rest)))
    · exact hb

/-- The same tokens say the same under another description of the phrase. -/
theorem congr {e : α → β} {r : Rule α} {P Q : Phrase β} (h : Reads e r P)
    (hPQ : ∀ w rest b, P w rest b ↔ Q w rest b) : Reads e r Q :=
  .of_apply fun _ => ⟨r, rfl, P, h, fun w rest b _ => (hPQ w rest b).symm⟩

theorem accept (t : TokenType) (ht : t ≠ .eof) {cause : Cause} :
    Reads Located.val (accept t cause) (token t) := by
  intro c _ c' cs
  rw [accept_apply]
  constructor
  · rintro ⟨x, hx, rfl⟩
    split at hx
    · next h =>
      cases hx
      subst h
      exact ⟨[c.lexeme], Cursor.passes_next ht, rfl⟩
    · cases hx
  · rintro ⟨w, hw, rfl⟩
    have hlex : c.lexeme = ⟨t, cs⟩ := by rw [Cursor.lexeme, hw.ahead]; rfl
    have htype : c.type = t := by rw [Cursor.type, hlex]
    have hnext : c.Passes [⟨t, cs⟩] c.next := hlex ▸ Cursor.passes_next (htype ▸ ht)
    refine ⟨⟨c.span, c.lexeme.text⟩, ?_, by rw [hlex]⟩
    rw [if_pos htype, hnext.unique hw]

theorem located {e : α → β} {r : Rule α} {P : Phrase β} (h : Reads e r P) :
    Reads (fun x => e x.val) (located r) P := by
  intro c hc c' b
  rw [← h c hc c' b, located_apply]
  cases hr : r c with
  | ok a c₁ =>
    constructor
    · rintro ⟨x, hx, rfl⟩
      cases hx
      exact ⟨a, rfl, rfl⟩
    · rintro ⟨x, hx, rfl⟩
      cases hx
      exact ⟨_, rfl, rfl⟩
  | error fault c₁ => simp

/-- A token is taken first and judged afterwards; what counts is that it is in order. -/
theorem judged (t : TokenType) (ht : t ≠ .eof) {cause : Cause}
    {f : Located (List Char) → Rule α} {e : α → β} {m : List Char → β → Prop}
    (hf : ∀ x c c' b, (∃ a, f x c = .ok a c' ∧ e a = b) ↔ c' = c ∧ m x.val b) :
    Reads e (Rule.accept t cause >>= f) fun w _ b => ∃ cs, w = [⟨t, cs⟩] ∧ m cs b := by
  refine ((accept t ht).bind (Q := fun cs w _ b => w = [] ∧ m cs b) fun x => ?_).congr ?_
  · intro c _ c' b
    rw [hf]
    constructor
    · rintro ⟨rfl, hm⟩
      exact ⟨[], .refl _, rfl, hm⟩
    · rintro ⟨w, hw, rfl, hm⟩
      exact ⟨hw.unique (.refl c), hm⟩
  · intro w rest b
    constructor
    · rintro ⟨u, v, cs, rfl, rfl, rfl, hm⟩
      exact ⟨cs, rfl, hm⟩
    · rintro ⟨cs, rfl, hm⟩
      exact ⟨_, [], cs, rfl, rfl, rfl, hm⟩

end Reads

end Rule

end SeedHeader
