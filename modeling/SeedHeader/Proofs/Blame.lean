import SeedHeader.Proofs.Settling
import SeedHeader.Proofs.Lines

/-!
# Proofs — What faults blame

A fault blames a token for a cause.  A rule blames *by* `P` if each fault of it is at a token ahead
of the cursor, and `P` holds of its cause and of that token (`Rule.Blames`).  A rule blames by what
its steps blame by (`Built.blames`).

Every fault of a reading is at a token ahead of the cursor and concerns that token
(`Reading.faults_concern`), since each round of the reading reads one statement and the rest of its
line.
-/

namespace SeedHeader

variable {P : Cause → Lexeme → Prop}

/-- The fault is at a token ahead of the cursor, and `P` holds of its cause and of that token. -/
def Fault.BlamesBy (P : Cause → Lexeme → Prop) (fault : Fault) (c : Cursor) : Prop :=
  ∃ w t, c.Passes w t ∧ fault.span = t.span ∧ P fault.cause t.lexeme

theorem Fault.blamesBy_here {cause : Cause} {c : Cursor} (h : P cause c.lexeme) :
    Fault.BlamesBy P ⟨cause, c.span⟩ c :=
  ⟨[], c, .refl c, rfl, h⟩

theorem Fault.BlamesBy.of_passes {fault : Fault} {c c' : Cursor} {w : List Lexeme}
    (h : fault.BlamesBy P c') (hw : c.Passes w c') : fault.BlamesBy P c := by
  obtain ⟨v, t, hv, hspan, hcause⟩ := h
  exact ⟨w ++ v, t, hw.trans hv, hspan, hcause⟩

/-! ### Rules -/

namespace Rule

variable {α β : Type}

/-- A rule goes forward, and its faults are ahead of where it started and blame by `P`. -/
structure Blames (P : Cause → Lexeme → Prop) (r : Rule α) : Prop where
  ok : ∀ {c a c'}, r c = .ok a c' → ∃ w, c.Passes w c'
  error : ∀ {c fault c'}, r c = .error fault c' → fault.BlamesBy P c

namespace Blames

theorem pure (a : α) : Blames P (pure a : Rule α) where
  ok h := by cases h; exact ⟨[], .refl _⟩
  error h := by cases h

theorem fail {cause : Cause} (h : ∀ l, P cause l) : Blames P (fail cause : Rule α) where
  ok h := by cases h
  error hc := by cases hc; exact Fault.blamesBy_here (h _)

theorem bind {r : Rule α} {f : α → Rule β} (hr : Blames P r) (hf : ∀ a, Blames P (f a)) :
    Blames P (r >>= f) where
  ok h := by
    obtain ⟨a, c₁, h₁, h₂⟩ := bind_ok h
    obtain ⟨w, hw⟩ := hr.ok h₁
    obtain ⟨v, hv⟩ := (hf a).ok h₂
    exact ⟨w ++ v, hw.trans hv⟩
  error h := by
    rcases bind_error h with h | ⟨a, c₁, h₁, h₂⟩
    · exact hr.error h
    · obtain ⟨w, hw⟩ := hr.ok h₁
      exact ((hf a).error h₂).of_passes hw

/-- Whom a rule blames is a matter of one cursor at a time. -/
theorem of_apply {r : Rule α} (h : ∀ c, ∃ r' : Rule α, Blames P r' ∧ r c = r' c) :
    Blames P r where
  ok {c _ _} hc := by
    obtain ⟨r', hr, e⟩ := h c
    exact hr.ok (e ▸ hc)
  error {c _ _} hc := by
    obtain ⟨r', hr, e⟩ := h c
    exact hr.error (e ▸ hc)

theorem offset : Blames P offset where
  ok h := by cases h; exact ⟨[], .refl _⟩
  error h := by cases h

theorem skipWhile (p : TokenType → Bool) : Blames P (skipWhile p) where
  ok h := by cases h; exact ⟨_, Cursor.passes_skipWhile p _⟩
  error h := by cases h

theorem located {r : Rule α} (hr : Blames P r) : Blames P (located r) :=
  .bind .offset fun _ => .bind hr fun _ => .bind .offset fun _ => .pure _

/-- Where a text is blank, what stands at its start is blamed. -/
theorem freeText {what : Suggestion} (h : ∀ l, P (.expected what) l) :
    Blames P (Grammar.freeText what) where
  ok {c _ _} hc := by
    rw [Grammar.freeText_apply] at hc
    split at hc
    · cases hc
    · cases hc
      exact ⟨_, Cursor.passes_skipWhile Grammar.isTextual c⟩
  error {c _ _} hc := by
    rw [Grammar.freeText_apply] at hc
    split at hc
    · cases hc
      exact Fault.blamesBy_here (h c.lexeme)
    · cases hc

/-- A token is taken and judged, or another one is blamed for not being of its type. -/
theorem judged {t : TokenType} (ht : t ≠ .eof) {cause : Cause}
    (hcause : ∀ l : Lexeme, l.type ≠ t → P cause l) {f : Located (List Char) → Rule α}
    (hf : ∀ token, Judged P t token (f token)) : Blames P (accept t cause >>= f) where
  ok {c _ _} h := by
    rw [accept_bind] at h
    split at h
    · next htype =>
      rcases hf ⟨c.span, c.lexeme.text⟩ with ⟨b, e⟩ | ⟨k, -, e⟩ <;> rw [e] at h <;> cases h
      exact ⟨_, Cursor.passes_next (htype ▸ ht)⟩
    · cases h
  error {c _ _} h := by
    rw [accept_bind] at h
    split at h
    · next htype =>
      rcases hf ⟨c.span, c.lexeme.text⟩ with ⟨b, e⟩ | ⟨k, hk, e⟩ <;> rw [e] at h <;> cases h
      have hlexeme : c.lexeme = ⟨t, c.lexeme.text⟩ := congrArg (Lexeme.mk · c.lexeme.text) htype
      exact Fault.blamesBy_here (hlexeme ▸ hk)
    · next htype =>
      cases h
      exact Fault.blamesBy_here (hcause c.lexeme htype)

end Blames

/-- **What is built of the steps of the grammar blames as its steps do.** -/
theorem Built.blames {T : TokenType → Bool} {r : Rule α} (h : Built T P false r) :
    Blames P r := by
  generalize false = firm at h
  induction h with
  | pure a => exact .pure a
  | fail hcause => exact .fail hcause
  | judged _ he hcause hf => exact .judged he hcause hf
  | skipWhile _ => exact .skipWhile _
  | freeText _ _ hcause => exact .freeText hcause
  | located _ ih => exact .located ih
  | bind _ _ ihr ihf => exact .bind ihr ihf
  | choice s _ heq ih => exact .of_apply fun c => ⟨s c, ih c, heq c c rfl rfl⟩
  | @optional _ _ q _ _ s _ heq a habsent ih =>
    refine .of_apply fun c => ?_
    by_cases hc : q c.type
    · exact ⟨s c.type, ih _ hc, heq c hc⟩
    · exact ⟨Pure.pure a, .pure a, habsent c hc⟩

end Rule

/-- A type that is passed over is not the one that a cursor stops at. -/
theorem Cursor.type_skipWhile {p : TokenType → Bool} (hp : p .eof = false) (c : Cursor) :
    p (c.skipWhile p).type = false := by
  have hstop := c.stops_skipWhile p
  rw [type, lexeme]
  cases ha : (c.skipWhile p).ahead with
  | nil => exact hp
  | cons l ls => exact hstop l (by rw [ha]; rfl)

/-! ### Readings -/

namespace Reading

open Rule Grammar

/-- What stands behind a statement is blamed if it is none of what may end a line. -/
theorem endOfLine_blames : Blames Cause.Concerns endOfLine where
  ok {c _ _} h := by
    rw [endOfLine_apply] at h
    split at h
    · cases h
      exact ⟨_, c.passes_skipWhile isTrailing⟩
    split at h
    · next hn =>
      cases h
      exact ⟨_, (c.passes_skipWhile isTrailing).trans (Cursor.passes_next (by rw [hn]; decide))⟩
    · cases h
  error {c _ _} h := by
    rw [endOfLine_apply] at h
    split at h
    · cases h
    next he =>
    split at h
    · cases h
    next hn =>
    cases h
    have hstop : isTrailing (c.skipWhile isTrailing).type = false := c.type_skipWhile rfl
    rw [isTrailing, Bool.or_eq_false_iff, decide_eq_false_iff_not, decide_eq_false_iff_not] at hstop
    refine ⟨_, _, c.passes_skipWhile isTrailing, rfl, .lineEnd ?_⟩
    change (c.skipWhile isTrailing).type ∉ _
    simp [he, hn, hstop]

theorem ofStatement_concern (skip : Bool) (c : Cursor) :
    ∀ f ∈ (ofStatement skip c).1.faults, f.BlamesBy Cause.Concerns c := by
  have hs : Blames Cause.Concerns (statement skip) := (statement_built skip).blames
  intro f hf
  cases hc : statement skip c with
  | error fault c₁ =>
    simp only [ofStatement, hc, List.mem_singleton] at hf
    exact hf ▸ hs.error hc
  | ok content c₁ =>
    obtain ⟨w, hw⟩ := hs.ok hc
    cases hend : endOfLine c₁ with
    | error fault c₂ =>
      simp only [ofStatement, hc, hend, List.mem_singleton] at hf
      exact hf ▸ (endOfLine_blames.error hend).of_passes hw
    | ok atEnd c₂ => cases atEnd <;> simp [ofStatement, hc, hend] at hf

theorem round_concern (skip : Bool) (c : Cursor) :
    ∀ f ∈ (round skip c).1.faults, f.BlamesBy Cause.Concerns c := by
  obtain ⟨documentation, skip', c₁, w, e, hw⟩ := exists_interlude skip c
  intro f hf
  by_cases hc : c₁.type = .eof
  · rw [round_of_eof e hc] at hf
    cases hf
  · rw [round_of_ne_eof e hc] at hf
    exact (ofStatement_concern skip' c₁ f hf).of_passes hw

/-- **Every fault of a reading concerns the token that it is at.** -/
theorem faults_concern (skip : Bool) (c : Cursor) :
    ∀ f ∈ (ofCursorFrom skip c).faults, f.BlamesBy Cause.Concerns c := by
  refine of_rounds (P := fun d => ∃ w, c.Passes w d)
    (Q := fun r => ∀ f ∈ r.faults, f.BlamesBy Cause.Concerns c) ?_ ?_ ?_ skip ⟨[], .refl c⟩
  · rintro d d' v ⟨w, hw⟩ hv
    exact ⟨w ++ v, hw.trans hv⟩
  · exact fun hr hs => List.forall_mem_append.mpr ⟨hr, hs⟩
  · rintro skip d ⟨w, hw⟩ f hf
    exact (round_concern skip d f hf).of_passes hw

end Reading

end SeedHeader
