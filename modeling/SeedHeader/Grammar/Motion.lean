import SeedHeader.Grammar.Built

/-!
# Grammar — Motion

What a rule may do to a cursor.  A rule takes tokens and never puts one back; it takes neither a
newline nor a comment; and when it fails, the fault is at a token between the one it started at
and the one it stopped at, both included (`Rule.Steady`).  Each step that rules are built of has
this property, and it passes through sequencing (`Built.steady`).  So every statement has it, and
reading a header line by line comes to an end.
-/

namespace SeedHeader

/-! ### Passing tokens -/

namespace Cursor

/-- From `c` to `c'` stand the lexemes `w`. -/
structure Passes (c : Cursor) (w : List Lexeme) (c' : Cursor) : Prop where
  ahead : c.ahead = w ++ c'.ahead
  pos : c'.pos = c.pos + (charsOf w).length

namespace Passes

theorem refl (c : Cursor) : c.Passes [] c := ⟨rfl, rfl⟩

theorem trans {c c₁ c' : Cursor} {w v : List Lexeme} (h : c.Passes w c₁) (h' : c₁.Passes v c') :
    c.Passes (w ++ v) c' := by
  refine ⟨?_, ?_⟩
  · rw [h.ahead, h'.ahead, List.append_assoc]
  · rw [h'.pos, h.pos, charsOf_append, List.length_append, Nat.add_assoc]

theorem length_le {c c' : Cursor} {w : List Lexeme} (h : c.Passes w c') :
    c'.ahead.length ≤ c.ahead.length := by
  rw [h.ahead, List.length_append]
  omega

end Passes

/-- A cursor that is not at the end of the input has a lexeme under it. -/
theorem ahead_of_type {c : Cursor} (h : c.type ≠ .eof) :
    ∃ l ls, c.ahead = l :: ls ∧ c.lexeme = l := by
  cases ha : c.ahead with
  | nil => simp [type, lexeme, ha] at h
  | cons l ls => exact ⟨l, ls, rfl, by simp [lexeme, ha]⟩

theorem passes_next {c : Cursor} (h : c.type ≠ .eof) : c.Passes [c.lexeme] c.next := by
  obtain ⟨l, ls, ha, hl⟩ := ahead_of_type h
  refine ⟨?_, ?_⟩
  · simp [next, ha, hl]
  · simp [next, Lexeme.width]

theorem exists_passes_next (c : Cursor) : ∃ w, c.Passes w c.next := by
  cases ha : c.ahead with
  | nil => exact ⟨[], by simp [next, ha], by simp [next, lexeme, ha, Lexeme.width]⟩
  | cons l ls =>
    exact ⟨[l], by simp [next, ha], by simp [next, lexeme, ha, Lexeme.width]⟩

theorem passes_skipWhile (p : TokenType → Bool) (c : Cursor) :
    c.Passes (c.ahead.takeWhile fun l => p l.type) (c.skipWhile p) :=
  ⟨(List.takeWhile_append_dropWhile).symm, rfl⟩

/-- `c'` is reached from `c` without passing a newline or a comment. -/
def Reaches (c c' : Cursor) : Prop :=
  ∃ w, c.Passes w c' ∧ ∀ l ∈ w, Grammar.isTextual l.type

namespace Reaches

theorem refl (c : Cursor) : c.Reaches c := ⟨[], .refl c, by simp⟩

theorem trans {c c₁ c' : Cursor} (h : c.Reaches c₁) (h' : c₁.Reaches c') : c.Reaches c' := by
  obtain ⟨w, hw, tw⟩ := h
  obtain ⟨v, hv, tv⟩ := h'
  refine ⟨w ++ v, hw.trans hv, fun l hl => ?_⟩
  rcases List.mem_append.mp hl with hl | hl
  · exact tw l hl
  · exact tv l hl

end Reaches

/-- A token of a type that may be taken is passed. -/
theorem reaches_next {c : Cursor} {t : TokenType} (h : c.type = t) (ht : Grammar.isTextual t)
    (he : t ≠ .eof) : c.Reaches c.next := by
  subst h
  refine ⟨[c.lexeme], passes_next he, fun l hl => ?_⟩
  rw [List.mem_singleton.mp hl]
  exact ht

theorem reaches_skipWhile {p : TokenType → Bool} (hp : ∀ t, p t → Grammar.isTextual t)
    (c : Cursor) : c.Reaches (c.skipWhile p) := by
  refine ⟨_, passes_skipWhile p c, fun l hl => hp _ ?_⟩
  have h := List.all_eq_true.mp List.all_takeWhile l hl
  simpa using h

end Cursor

/-! ### Steady rules -/

namespace Rule

variable {α β : Type}

/-- A rule takes neither a newline nor a comment, and its fault is at a token between where it
started and where it stopped. -/
structure Steady (r : Rule α) : Prop where
  ok : ∀ {c a c'}, r c = .ok a c' → c.Reaches c'
  error : ∀ {c fault c'}, r c = .error fault c' →
    ∃ t, c.Reaches t ∧ t.Reaches c' ∧ fault.span = t.span

/-- A rule that leaves the cursor where it is, and faults nothing but `span`. -/
def JudgesAt (span : Span) (r : Rule α) : Prop :=
  ∀ c, (∃ a, r c = .ok a c) ∨ ∃ cause, r c = .error ⟨cause, span⟩ c

namespace Steady

theorem pure (a : α) : Steady (pure a) where
  ok h := by cases h; exact .refl _
  error h := by cases h

theorem bind {r : Rule α} {f : α → Rule β} (hr : Steady r) (hf : ∀ a, Steady (f a)) :
    Steady (r >>= f) where
  ok h := by
    obtain ⟨a, c₁, h₁, h₂⟩ := bind_ok h
    exact (hr.ok h₁).trans ((hf a).ok h₂)
  error h := by
    rcases bind_error h with h | ⟨a, c₁, h₁, h₂⟩
    · exact hr.error h
    · obtain ⟨t, ht, ht', hs⟩ := (hf a).error h₂
      exact ⟨t, (hr.ok h₁).trans ht, ht', hs⟩

/-- Steadiness is a matter of one cursor at a time. -/
theorem of_apply {r : Rule α} (h : ∀ c, ∃ r' : Rule α, Steady r' ∧ r c = r' c) : Steady r where
  ok {c _ _} hc := by
    obtain ⟨r', hr, e⟩ := h c
    exact hr.ok (e ▸ hc)
  error {c _ _} hc := by
    obtain ⟨r', hr, e⟩ := h c
    exact hr.error (e ▸ hc)

theorem fail (cause : Cause) : Steady (fail cause : Rule α) where
  ok h := by cases h
  error h := by cases h; exact ⟨_, .refl _, .refl _, rfl⟩

theorem offset : Steady offset where
  ok h := by cases h; exact .refl _
  error h := by cases h

theorem skipWhile {p : TokenType → Bool} (hp : ∀ t, p t → Grammar.isTextual t) :
    Steady (skipWhile p) where
  ok h := by cases h; exact Cursor.reaches_skipWhile hp _
  error h := by cases h

theorem located {r : Rule α} (hr : Steady r) : Steady (located r) :=
  .bind .offset fun _ => .bind hr fun _ => .bind .offset fun _ => .pure _

/-- A token is taken, and all that can be wrong afterwards is the token. -/
theorem accept_bind {t : TokenType} (ht : Grammar.isTextual t) (he : t ≠ .eof) {cause : Cause}
    {f : Located (List Char) → Rule β} (hf : ∀ token, JudgesAt token.span (f token)) :
    Steady (accept t cause >>= f) where
  ok {c _ _} h := by
    rw [Rule.accept_bind] at h
    split at h
    · next hc =>
      rcases hf _ c.next with ⟨b, e⟩ | ⟨cause, e⟩ <;> rw [e] at h <;> cases h
      exact Cursor.reaches_next hc ht he
    · cases h
  error {c _ _} h := by
    rw [Rule.accept_bind] at h
    split at h
    · next hc =>
      rcases hf _ c.next with ⟨b, e⟩ | ⟨cause, e⟩ <;> rw [e] at h <;> cases h
      exact ⟨_, .refl _, Cursor.reaches_next hc ht he, rfl⟩
    · cases h
      exact ⟨_, .refl _, .refl _, rfl⟩

theorem accept {t : TokenType} (ht : Grammar.isTextual t) (he : t ≠ .eof) (cause : Cause) :
    Steady (accept t cause) := by
  have h : Steady (Rule.accept t cause >>= Pure.pure) :=
    accept_bind ht he fun _ _ => .inl ⟨_, rfl⟩
  rwa [bind_pure] at h

end Steady

end Rule

/-! ### The rules of the grammar -/

namespace Grammar

open Rule

variable {α : Type}

theorem freeText_steady (what : Suggestion) : Steady (freeText what) where
  ok {c _ _} h := by
    rw [freeText_apply] at h
    split at h
    · cases h
    · cases h; exact Cursor.reaches_skipWhile (fun _ ht => ht) c
  error {c _ _} h := by
    rw [freeText_apply] at h
    split at h
    · cases h; exact ⟨c, .refl c, Cursor.reaches_skipWhile (fun _ ht => ht) c, rfl⟩
    · cases h

theorem eatFor_steady {t : TokenType} (ht : isTextual t) (he : t ≠ .eof) (what : Suggestion) :
    Steady (eatFor t what) :=
  .accept ht he _

theorem eat_steady {t : TokenType} (ht : isTextual t) (he : t ≠ .eof) : Steady (eat t) :=
  .accept ht he _

end Grammar

namespace Rule

variable {α : Type} {P : Cause → Lexeme → Prop} {r : Rule α}

/-- A token that is judged is all that can be at fault. -/
theorem Judged.judgesAt {t : TokenType} {token : Located (List Char)} (h : Judged P t token r) :
    JudgesAt token.span r := by
  rcases h with ⟨a, rfl⟩ | ⟨cause, -, rfl⟩
  · exact fun _ => .inl ⟨a, rfl⟩
  · exact fun _ => .inr ⟨cause, rfl⟩

/-- **What is built of the steps of the grammar is steady**, if it takes textual tokens only. -/
theorem Built.steady (h : Built Grammar.isTextual P false r) : Steady r := by
  generalize false = firm at h
  induction h with
  | pure a => exact .pure a
  | fail _ => exact .fail _
  | judged ht he _ hf => exact .accept_bind ht he fun token => (hf token).judgesAt
  | skipWhile hp => exact .skipWhile hp
  | freeText _ _ _ => exact Grammar.freeText_steady _
  | located _ ih => exact .located ih
  | bind _ _ ihr ihf => exact .bind ihr ihf
  | choice s _ heq ih => exact .of_apply fun c => ⟨s c, ih c, heq c c rfl rfl⟩
  | @optional _ _ q _ _ s _ heq a habsent ih =>
    refine .of_apply fun c => ?_
    by_cases hc : q c.type
    · exact ⟨s c.type, ih _ hc, heq c hc⟩
    · exact ⟨Pure.pure a, .pure a, habsent c hc⟩

end Rule

namespace Grammar

open Rule

variable {α : Type}

/-! A value may be read with any decoder and for any construct. -/

theorem keyword_steady (table : List (String × α)) (what : Suggestion) :
    Steady (keyword table what) :=
  (keyword_built (P := fun _ _ => True) table (fun _ => trivial) fun _ => trivial).steady

theorem identifier_steady (what : Suggestion) : Steady (identifier what) :=
  (identifier_built (P := Cause.Concerns) (.expected what)).steady

theorem number_steady (what : Suggestion) (decode : Decoder α) : Steady (number what decode) :=
  (number_built .any).steady

theorem removable_steady (what : Suggestion) (decode : Decoder α) :
    Steady (removable what decode) :=
  (removable_built .any).steady

theorem quoted_steady (what : Suggestion) : Steady (quoted what) :=
  (quoted_built (P := fun _ _ => True) (fun _ => trivial) fun _ _ _ => trivial).steady

theorem wordField_steady (what : Suggestion) (decode : Decoder α) :
    Steady (wordField what decode) :=
  (wordField_built .any).steady

theorem numberField_steady (what : Suggestion) (decode : Decoder α) :
    Steady (numberField what decode) :=
  (numberField_built .any).steady

theorem removableField_steady (what : Suggestion) (decode : Decoder α) :
    Steady (removableField what decode) :=
  (removableField_built .any .any).steady

/-- Every statement is read within its line, and its fault is at a token that was passed or
stopped at. -/
theorem statement_steady (skipValidation : Bool) : Steady (statement skipValidation) :=
  (statement_built skipValidation).steady

end Grammar

end SeedHeader
