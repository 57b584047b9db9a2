import SeedHeader.Proofs.Operations

/-!
# Proofs — What is left of the input decides

An operation on a cursor sees the lexemes ahead of it.  Neither the text before the cursor nor how
the cursor got there matters: the outcome is that of the same operation at the start of what is
left of the text, moved to where the cursor stands (`outcome_of_remainder`).  Moving shifts every
span that was read, the span of a diagnostic, the token under the cursor and its offset; it leaves
values, messages and suggestions as they are.
-/

namespace SeedHeader

open Rule Grammar

/-! ### Outcomes further on -/

/-- The token `n` characters further on. -/
def Token.shift (n : Nat) (t : Token) : Token := { t with span := t.span.shift n }

/-- What can be seen of an operation once it is done: a value or a diagnostic, the token under the
cursor and the offset of the cursor. -/
structure Outcome (α : Type) where
  result : Except Diagnostic α
  current : Token
  pos : Nat

/-- The outcome `n` characters further on; `g` moves a value. -/
def Outcome.shift {α : Type} (n : Nat) (g : α → α) (o : Outcome α) : Outcome α :=
  ⟨(o.result.map g).mapError (Diagnostic.shift n), o.current.shift n, n + o.pos⟩

/-- What can be seen of the result of a rule. -/
def Outcome.ofResult {α : Type} : EStateM.Result Fault Cursor α → Outcome α
  | .ok a c        => ⟨.ok a, c.token, c.pos⟩
  | .error fault c => ⟨.error fault.diagnostic, c.token, c.pos⟩

/-- What a construct yields, with `f` applied to its spans. -/
def Construct.relocate {α : Type} (f : Span → Span) : Construct α → α → α
  | keyword .. | identifier .. | number .. | removable .. | quoted .. | freeText .. => id
  | wordField .. | numberField .. => Located.move f
  | removableField ..             => fun p => (p.1.move f, p.2)
  | uberIdentifier                => Located.move f
  | icon                          => Located.move f
  | item                          => Located.moveItem f
  | command                       => Command.relocate f
  | timer | setup                 => Timer.relocate f
  | pickup ..                     => Pickup.relocate f
  | statement ..                  => Located.moveContent f

namespace Operation

/-- What an operation yields, `n` characters further on. -/
def shift {α : Type} (n : Nat) : Operation α → α → α
  | next | eat .. | eatFor .. => Token.shift n
  | skip .. | skipWhile ..    => id
  | interlude ..              => fun p => (p.1.map (Located.shiftContent n), p.2)
  | read construct            => construct.relocate (Span.shift n)
  | finish                    => fun p =>
    (p.1.map (List.map (Located.shiftContent n)), p.2.map (Diagnostic.shift n))

/-- What can be seen of an operation on a cursor. -/
def outcome {α : Type} (op : Operation α) (c : Cursor) : Outcome α := .ofResult (op.run c)

end Operation

/-! ### Operations further on -/

theorem Fault.diagnostic_shift (n : Nat) (f : Fault) :
    (f.shift n).diagnostic = f.diagnostic.shift n := by
  simp [Fault.shift, Fault.diagnostic, Diagnostic.shift, Span.shift, Span.toInt]

theorem Construct.follows {α : Type} (σ : Simulation) (k : Construct α) :
    σ.Follows (k.relocate σ.move) k.rule k.rule := by
  cases k with
  | keyword table what => exact keyword_follows table what
  | identifier what => exact identifier_follows what
  | number what decode => exact number_follows what decode
  | removable what decode => exact removable_follows what decode
  | quoted what => exact quoted_follows what
  | freeText what => exact freeText_follows what
  | wordField what decode => exact wordField_follows what decode
  | numberField what decode => exact numberField_follows what decode
  | removableField what decode => exact removableField_follows what decode
  | uberIdentifier => exact uberIdentifier_follows
  | icon => exact icon_follows
  | item => exact item_follows
  | command => exact command_follows
  | timer => exact timer_follows
  | setup => exact setup_follows
  | pickup ignore skip => exact pickup_follows ignore skip
  | statement skip => exact statement_follows skip

variable (n : Nat) (c : Cursor)

/-- Nothing stands behind the rest of a text, so nothing need keep a rule from it. -/
theorem Cursor.guards_nil (c : Cursor) : c.Guards [] := .inl rfl

theorem Cursor.token_embed : (c.embed n []).token = c.token.shift n := by
  rw [token, lexeme_embed c.guards_nil]
  simp [Token.shift, token, Lexeme.tokenAt, Span.shift, embed, Nat.add_assoc]

theorem Cursor.skipWhile_embed_nil (p : TokenType → Bool) :
    (c.embed n []).skipWhile p = (c.skipWhile p).embed n [] := by
  simp [skipWhile, embed, passed, Nat.add_assoc]

theorem Outcome.ofResult_embed {α : Type} (g : α → α) (r : EStateM.Result Fault Cursor α) :
    ofResult (Rule.embed n [] g r) = (ofResult r).shift n g := by
  cases r with
  | ok a c => rw [Rule.embed, ofResult, Cursor.token_embed]; rfl
  | error fault c =>
    rw [Rule.embed, ofResult, Cursor.token_embed, Fault.diagnostic_shift]
    rfl

theorem Reading.document?_shift (r : Reading) :
    (r.shift n).document? = r.document?.map (List.map (Located.shiftContent n)) := by
  unfold document? shift
  cases r.faults <;> rfl

theorem Reading.diagnostics_shift (r : Reading) :
    (r.shift n).diagnostics = r.diagnostics.map (Diagnostic.shift n) := by
  simp [diagnostics, shift, Fault.diagnostic_shift]

namespace Operation

theorem taken_accept_embed (type : TokenType) (cause : Cause) :
    taken (accept type cause) (c.embed n []) =
      Rule.embed n [] (Token.shift n) (taken (accept type cause) c) := by
  rw [taken_accept_apply, taken_accept_apply, Cursor.type_embed c.guards_nil, Cursor.token_embed,
    Cursor.next_embed c.guards_nil, Cursor.span_embed c.guards_nil]
  split <;> rfl

theorem interlude_run_embed (excused : Bool) :
    (interlude excused).run (c.embed n []) =
      Rule.embed n [] ((interlude excused).shift n) ((interlude excused).run c) := by
  obtain ⟨documentation, excused', c', e⟩ :
      ∃ d s c', SeedHeader.interlude excused c.pos c.ahead = (d, s, c') := ⟨_, _, _, rfl⟩
  have he := interlude_embed n excused c.pos c.ahead []
  simp only [e] at he
  have hstop : SeedHeader.interlude excused (c.embed n []).pos (c.embed n []).ahead =
      (documentation.map (Located.shiftContent n), excused', c'.embed n []) := by
    rw [Cursor.embed, he]
    split
    · next h => simp [SeedHeader.interlude, Cursor.embed, h]
    · rfl
  simp only [run, hstop, e]
  rfl

theorem finish_run_embed (hi : Inked c.ahead) :
    finish.run (c.embed n []) = Rule.embed n [] (finish.shift n) (finish.run c) := by
  have hreading : Reading.ofCursor (c.embed n []) = (Reading.ofCursor c).shift n := by
    have e := Reading.ofCursorFrom_embed n false hi (.inl rfl : ([] : List Lexeme) = [] ∨ _)
    rw [Reading.ofCursorFrom_nil, ← Reading.skip_shift n, Reading.append_empty] at e
    exact e
  have hi' : Inked (c.embed n []).ahead := by rwa [Cursor.embed, List.append_nil]
  have hstop : Reading.stopFrom false (c.embed n []) = (Reading.stopFrom false c).embed n [] := by
    rw [Reading.stopFrom_eq_finish hi, Reading.stopFrom_eq_finish hi']
    exact Cursor.skipWhile_embed_nil n c _
  simp only [run, hreading, hstop, Reading.document?_shift, Reading.diagnostics_shift]
  rfl

/-- Every operation does further on what it does at the start. -/
theorem run_embed {α : Type} (op : Operation α) (hi : Inked c.ahead) :
    op.run (c.embed n []) = Rule.embed n [] (op.shift n) (op.run c) := by
  cases op with
  | next =>
    have h : next.run (c.embed n []) = .ok (c.embed n []).token (c.embed n []).next := rfl
    rw [h, Cursor.token_embed, Cursor.next_embed c.guards_nil]
    rfl
  | eat type => exact taken_accept_embed n c type _
  | eatFor type what => exact taken_accept_embed n c type _
  | skip type => exact congrArg (EStateM.Result.ok ()) (c.skipWhile_embed_nil n _)
  | skipWhile p =>
    have h : (skipWhile p).run (c.embed n []) =
        .ok ((c.embed n []).passed p) ((c.embed n []).skipWhile p) := rfl
    rw [h, Cursor.skipWhile_embed_nil, Cursor.passed, Cursor.embed, List.append_nil]
    rfl
  | interlude excused => exact interlude_run_embed n c excused
  | read construct =>
    exact (Moved.of_follows (construct.follows (.embedding n [])) c c.guards_nil).1
  | finish => exact finish_run_embed n c hi

end Operation

/-- **What is left of the input decides.**  On a cursor that was moved in any way, an operation has
the outcome that it has at the start of what is left of the text, moved by the offset of the
cursor. -/
theorem outcome_of_remainder {text : List Char} {c : Cursor} (h : c.ReachedIn text) {α : Type}
    (op : Operation α) :
    op.outcome c = (op.outcome (.ofText (text.drop c.pos))).shift c.pos (op.shift c.pos) := by
  obtain ⟨w, hw⟩ := h.passes
  have hc : c = (Cursor.ofText (text.drop c.pos)).embed c.pos [] := by
    rw [hw.eq_atOffset]
    simp [Cursor.atOffset, Cursor.ofText, Cursor.embed]
  rw [Operation.outcome, Operation.outcome, ← Outcome.ofResult_embed,
    ← op.run_embed _ _ (inked_lexemes _), ← hc]

/-- Behind an uber identifier that was given up and the rest of its line, a pickup is read as it is
at the start of a text. -/
theorem outcome_of_remainder_pickup :
    (Cursor.atOffset "1|a\n1|2|9|-0".toList 4).ReachedIn "1|a\n1|2|9|-0".toList ∧
      (Operation.read (.statement true)).outcome (.atOffset "1|a\n1|2|9|-0".toList 4) =
        ⟨.ok ⟨⟨4, 12⟩, .pickup ⟨⟨⟨4, 7⟩, ⟨⟨4, 7⟩, ⟨1, 2⟩⟩, none⟩, ⟨⟨8, 12⟩, .water true⟩, false,
          true⟩⟩, .eof 12, 12⟩ := by
  have h : (Cursor.atOffset "1|a\n1|2|9|-0".toList 4).ReachedIn "1|a\n1|2|9|-0".toList :=
    ⟨[⟨_, .read .uberIdentifier⟩, ⟨_, .skipWhile (· ≠ .newline)⟩, ⟨_, .next⟩], by rfl⟩
  have hstart : (Operation.read (.statement true)).outcome (.ofText "1|2|9|-0".toList) =
      ⟨.ok ⟨⟨0, 8⟩, .pickup ⟨⟨⟨0, 3⟩, ⟨⟨0, 3⟩, ⟨1, 2⟩⟩, none⟩, ⟨⟨4, 8⟩, .water true⟩, false,
        true⟩⟩, .eof 8, 8⟩ := by rfl
  refine ⟨h, (outcome_of_remainder h _).trans ?_⟩
  exact congrArg (Outcome.shift 4 _) hstart

end SeedHeader
