import SeedHeader.Proofs.Scanning
import SeedHeader.Proofs.Simulation

/-!
# Proofs — A rule sees its line only

What a rule does depends on the tokens up to the end of the line, and on nothing else: neither on
how far into the text the line stands, nor on what follows it.  A cursor is *embedded* into a
longer text by adding `n` characters in front and the lexemes `more` behind.  It *guards* `more`
when a newline lies ahead of it, or when `more` is empty.

`Moved n more g r r'` says that on every cursor that guards `more`, `r'` does after the embedding
what `r` does before it: the value is changed by `g`, a fault and the cursor are `n` characters
further on, and the cursor still guards `more`.  An embedding is a correspondence of cursors that
the rules of the grammar follow, so a statement is related to itself (`statement_moved`), with `g`
the shift of the document that it reads.
-/

namespace SeedHeader

namespace Cursor

/-- The cursor in a text that has `n` characters more in front and `more` behind. -/
def embed (n : Nat) (more : List Lexeme) (c : Cursor) : Cursor := ⟨n + c.pos, c.ahead ++ more⟩

/-- A newline lies between the cursor and `more`, unless `more` is empty. -/
def Guards (more : List Lexeme) (c : Cursor) : Prop :=
  more = [] ∨ ∃ l ∈ c.ahead, l.type = .newline

variable {n : Nat} {more : List Lexeme} {c : Cursor}

theorem lexeme_embed (h : c.Guards more) : (c.embed n more).lexeme = c.lexeme := by
  rcases h with rfl | ⟨l, hl, -⟩
  · simp [embed, lexeme]
  · cases ha : c.ahead with
    | nil => rw [ha] at hl; cases hl
    | cons l' ls => simp [embed, lexeme, ha]

theorem type_embed (h : c.Guards more) : (c.embed n more).type = c.type := by
  rw [type, lexeme_embed h, type]

theorem span_embed (h : c.Guards more) : (c.embed n more).span = c.span.shift n := by
  rw [span, lexeme_embed h, span, Span.shift]
  simp only [embed, Nat.add_assoc]

theorem next_embed (h : c.Guards more) : (c.embed n more).next = c.next.embed n more := by
  rw [next, lexeme_embed h]
  simp only [embed, next, Nat.add_assoc]
  rcases h with rfl | ⟨l, hm, -⟩
  · simp
  · cases ha : c.ahead with
    | nil => rw [ha] at hm; cases hm
    | cons l' ls => simp

/-- A token that is no newline is not the one that guards. -/
theorem Guards.next (h : c.Guards more) (ht : c.type ≠ .newline) : c.next.Guards more := by
  rcases h with h | ⟨l, hl, e⟩
  · exact .inl h
  · cases ha : c.ahead with
    | nil => rw [ha] at hl; cases hl
    | cons l' ls =>
      rw [ha] at hl
      rcases List.mem_cons.mp hl with rfl | hl
      · exact absurd (by simpa [type, lexeme, ha] using e) ht
      · exact .inr ⟨l, by simpa [Cursor.next, ha] using hl, e⟩

section
variable {p : TokenType → Bool} (hp : p .newline = false)
include hp

theorem passed_embed (h : c.Guards more) : (c.embed n more).passed p = c.passed p := by
  rcases h with rfl | ⟨l, hl, ht⟩
  · simp [passed, embed]
  · rw [passed, embed, takeWhile_append_of_stop more ⟨l, hl, by rw [ht, hp]⟩, passed]

theorem skipWhile_embed (h : c.Guards more) :
    (c.embed n more).skipWhile p = (c.skipWhile p).embed n more := by
  have hpos := passed_embed (n := n) hp h
  rcases h with rfl | ⟨l, hl, ht⟩
  · simp [skipWhile, embed, passed, Nat.add_assoc]
  · rw [skipWhile, hpos]
    simp only [embed, skipWhile, Nat.add_assoc]
    rw [dropWhile_append_of_stop more ⟨l, hl, by rw [ht, hp]⟩]

theorem Guards.skipWhile (h : c.Guards more) : (c.skipWhile p).Guards more := by
  rcases h with h | ⟨l, hl, ht⟩
  · exact .inl h
  · exact .inr ⟨l, mem_dropWhile_of_stop hl (by rw [ht, hp]), ht⟩

end

end Cursor

namespace Rule

/-- A result in the longer text. -/
def embed {α : Type} (n : Nat) (more : List Lexeme) (g : α → α) :
    EStateM.Result Fault Cursor α → EStateM.Result Fault Cursor α
  | .ok a c        => .ok (g a) (c.embed n more)
  | .error fault c => .error (fault.shift n) (c.embed n more)

/-- The cursor at which a rule stops. -/
def stop {α : Type} : EStateM.Result Fault Cursor α → Cursor
  | .ok _ c | .error _ c => c

/-- `r'` does in the longer text what `r` does in the text, with its value changed by `g`. -/
def Moved {α : Type} (n : Nat) (more : List Lexeme) (g : α → α) (r r' : Rule α) : Prop :=
  ∀ c : Cursor, c.Guards more →
    r' (c.embed n more) = embed n more g (r c) ∧ (stop (r c)).Guards more

end Rule

/-- The embedding into a longer text, as a correspondence of cursors. -/
def Simulation.embedding (n : Nat) (more : List Lexeme) : Simulation where
  offset pos := n + pos
  Rel c d := c.Guards more ∧ d = c.embed n more
  pos_eq h := by rw [h.2, Cursor.embed]
  stop_eq h := by rw [h.2, Cursor.span_embed h.1, Span.shift]
  type_eq h := by rw [h.2, Cursor.type_embed h.1]
  lexeme_eq h _ := by rw [h.2, Cursor.lexeme_embed h.1]
  next h ht := ⟨h.1.next ht, by rw [h.2, Cursor.next_embed h.1]⟩
  passed_eq hp h := by rw [h.2, Cursor.passed_embed hp h.1]
  skipWhile hp h := ⟨h.1.skipWhile hp, by rw [h.2, Cursor.skipWhile_embed hp h.1]⟩

open Rule

/-- A rule that follows another under an embedding does in the longer text what that one does in
the text. -/
theorem Rule.Moved.of_follows {α : Type} {n : Nat} {more : List Lexeme} {g : α → α} {r r' : Rule α}
    (h : (Simulation.embedding n more).Follows g r r') : Moved n more g r r' := by
  intro c hc
  have hm := h c (c.embed n more) ⟨hc, rfl⟩
  cases hr : r c with
  | ok a c₁ =>
    cases hr' : r' (c.embed n more) with
    | ok b d₁ =>
      rw [hr, hr'] at hm
      obtain ⟨rfl, hg, rfl⟩ := hm
      exact ⟨rfl, hg⟩
    | error fault d₁ =>
      rw [hr, hr'] at hm
      cases hm
  | error fault c₁ =>
    cases hr' : r' (c.embed n more) with
    | ok b d₁ =>
      rw [hr, hr'] at hm
      cases hm
    | error fault' d₁ =>
      rw [hr, hr'] at hm
      obtain ⟨rfl, hg, rfl⟩ := hm
      exact ⟨rfl, hg⟩

/-- **A statement sees its line only.**  Characters in front of its line shift everything that was
read and every fault, and what stands behind the line changes nothing. -/
theorem Grammar.statement_moved {n : Nat} {more : List Lexeme} (skipValidation : Bool) :
    Moved n more (Located.shiftContent n) (statement skipValidation)
      (statement skipValidation) :=
  .of_follows (statement_follows skipValidation)

end SeedHeader
