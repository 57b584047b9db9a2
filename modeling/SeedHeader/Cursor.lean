import SeedHeader.Lexeme
import SeedHeader.Diagnostic

/-!
# Cursors

A cursor is a place in a text between two tokens: an offset and the lexemes that are still to
come.  It moves forward only, and stays where it is at the end of the input.

A `Rule` of the grammar moves a cursor and yields a value or a fault.  What it does depends on
nothing but the cursor, and a rule that fails leaves the cursor where the fault was found.  The
lemmas `…_apply` say what each basic rule does to a cursor.
-/

namespace SeedHeader

/-- An offset and the lexemes that follow it. -/
structure Cursor where
  pos : Nat
  ahead : List Lexeme
deriving DecidableEq, Repr

namespace Cursor

/-- The cursor at the start of a text. -/
def ofText (text : List Char) : Cursor := ⟨0, lexemes text⟩

/-- The lexeme under the cursor; it is empty at the end of the input. -/
def lexeme (c : Cursor) : Lexeme := c.ahead.headD ⟨.eof, []⟩

/-- The type of the token under the cursor. -/
def type (c : Cursor) : TokenType := c.lexeme.type

/-- The span of the token under the cursor. -/
def span (c : Cursor) : Span := ⟨c.pos, c.pos + c.lexeme.width⟩

/-- The token under the cursor. -/
def token (c : Cursor) : Token := c.lexeme.tokenAt c.pos

/-- The cursor after the token under it. -/
def next (c : Cursor) : Cursor := ⟨c.pos + c.lexeme.width, c.ahead.tail⟩

/-- The characters of the lexemes at the front whose types satisfy `p`. -/
def passed (p : TokenType → Bool) (c : Cursor) : List Char :=
  charsOf (c.ahead.takeWhile fun l => p l.type)

/-- The cursor at the first token whose type does not satisfy `p`, or at the end of the input. -/
def skipWhile (p : TokenType → Bool) (c : Cursor) : Cursor :=
  ⟨c.pos + (c.passed p).length, c.ahead.dropWhile fun l => p l.type⟩

/-- The cursor at the start of the next line. -/
def nextLine (c : Cursor) : Cursor := (c.skipWhile (· ≠ .newline)).next

/-- The cursor at the end of the input. -/
def finish (c : Cursor) : Cursor := c.skipWhile fun _ => true

/-- Where the cursor is and the token under it make up the span of the token. -/
theorem span_congr {c d : Cursor} (hpos : d.pos = c.pos) (hlexeme : d.lexeme = c.lexeme) :
    d.span = c.span := by
  rw [span, span, hpos, hlexeme]

end Cursor

/-- A rule of the grammar. -/
abbrev Rule (α : Type) := EStateM Fault Cursor α

namespace Rule

/-- Fails because of the token at `span`. -/
def failAt {α : Type} (span : Span) (cause : Cause) : Rule α := throw ⟨cause, span⟩

/-- Fails because of the token under the cursor. -/
def fail {α : Type} (cause : Cause) : Rule α := do
  failAt (← get).span cause

/-- The type of the next token. -/
def peek : Rule TokenType := return (← get).type

/-- The offset of the next token. -/
def offset : Rule Nat := return (← get).pos

/-- Takes the next token, whatever it is. -/
def take : Rule (Located (List Char)) := do
  let c ← get
  set c.next
  return ⟨c.span, c.lexeme.text⟩

/-- Takes a token of the given type, and fails with `cause` if there is none. -/
def accept (type : TokenType) (cause : Cause) : Rule (Located (List Char)) := do
  if (← peek) = type then take else fail cause

/-- Takes a token of the given type. -/
def eat (type : TokenType) : Rule (Located (List Char)) :=
  accept type (.expectedToken type)

/-- Takes a token of the given type; if there is none, `what` was expected. -/
def eatFor (type : TokenType) (what : Suggestion) : Rule (Located (List Char)) :=
  accept type (.expected what)

/-- Passes over tokens as long as their types satisfy `p`, and yields their characters. -/
def skipWhile (p : TokenType → Bool) : Rule (List Char) := do
  let c ← get
  set (c.skipWhile p)
  return c.passed p

/-- Passes over tokens of one type. -/
def skip (type : TokenType) : Rule Unit := do
  let _ ← skipWhile (· = type)

/-- Yields the value of a rule together with the span of the tokens it took. -/
def located {α : Type} (rule : Rule α) : Rule (Located α) := do
  let start ← offset
  let a ← rule
  return ⟨⟨start, ← offset⟩, a⟩

/-! ### What the rules do to a cursor -/

section
variable {α : Type} (c : Cursor)

theorem failAt_apply (span : Span) (cause : Cause) :
    (failAt span cause : Rule α) c = .error ⟨cause, span⟩ c := rfl

theorem fail_apply (cause : Cause) : (fail cause : Rule α) c = .error ⟨cause, c.span⟩ c := rfl

theorem peek_apply : peek c = .ok c.type c := rfl

theorem offset_apply : offset c = .ok c.pos c := rfl

theorem take_apply : take c = .ok ⟨c.span, c.lexeme.text⟩ c.next := rfl

theorem skipWhile_apply (p : TokenType → Bool) :
    skipWhile p c = .ok (c.passed p) (c.skipWhile p) := rfl

/-- A token is taken if it has the right type; otherwise the cursor stays. -/
theorem accept_apply (type : TokenType) (cause : Cause) :
    accept type cause c =
      if c.type = type then .ok ⟨c.span, c.lexeme.text⟩ c.next else .error ⟨cause, c.span⟩ c := by
  simp only [accept, bind, EStateM.bind, peek_apply]
  split <;> rfl

/-- The span runs from where the rule started to where it ended. -/
theorem located_apply (rule : Rule α) :
    located rule c =
      match rule c with
      | .ok a c'        => .ok ⟨⟨c.pos, c'.pos⟩, a⟩ c'
      | .error fault c' => .error fault c' := by
  simp only [located, bind, EStateM.bind, offset_apply]
  cases rule c <;> rfl

theorem located_ok {rule : Rule α} {c c' : Cursor} {x : Located α}
    (h : located rule c = .ok x c') : rule c = .ok x.val c' ∧ x.span = ⟨c.pos, c'.pos⟩ := by
  rw [located_apply] at h
  cases hr : rule c with
  | ok a c₁ => rw [hr] at h; cases h; exact ⟨rfl, rfl⟩
  | error fault c₁ => rw [hr] at h; cases h

end

/-! ### Rules in sequence -/

section
variable {α β : Type}

theorem bind_ok {r : Rule α} {f : α → Rule β} {c c'' : Cursor} {b : β}
    (h : (r >>= f) c = .ok b c'') : ∃ a c', r c = .ok a c' ∧ f a c' = .ok b c'' := by
  simp only [bind, EStateM.bind] at h
  cases hr : r c with
  | ok a c' => exact ⟨a, c', rfl, by rwa [hr] at h⟩
  | error e c' => rw [hr] at h; cases h

theorem bind_error {r : Rule α} {f : α → Rule β} {c c'' : Cursor} {e : Fault}
    (h : (r >>= f) c = .error e c'') :
    r c = .error e c'' ∨ ∃ a c', r c = .ok a c' ∧ f a c' = .error e c'' := by
  simp only [bind, EStateM.bind] at h
  cases hr : r c with
  | ok a c' => exact .inr ⟨a, c', rfl, by rwa [hr] at h⟩
  | error e c' => rw [hr] at h; cases h; exact .inl rfl

theorem bind_of_ok {r : Rule α} {f : α → Rule β} {c c' : Cursor} {a : α} (h : r c = .ok a c') :
    (r >>= f) c = f a c' := by
  simp only [bind, EStateM.bind, h]

theorem bind_of_error {r : Rule α} {f : α → Rule β} {c c' : Cursor} {e : Fault}
    (h : r c = .error e c') : (r >>= f) c = .error e c' := by
  simp only [bind, EStateM.bind, h]

/-- A token of the right type is handed on; with another one, all of the rule fails. -/
theorem accept_bind (t : TokenType) (cause : Cause) (f : Located (List Char) → Rule β)
    (c : Cursor) : (accept t cause >>= f) c =
      if c.type = t then f ⟨c.span, c.lexeme.text⟩ c.next else .error ⟨cause, c.span⟩ c := by
  split
  · next h => exact bind_of_ok ((accept_apply c _ _).trans (if_pos h))
  · next h => exact bind_of_error ((accept_apply c _ _).trans (if_neg h))

/-- A token that was looked at is taken as one of its type. -/
theorem take_bind {t : TokenType} {f : Located (List Char) → Rule β} {c : Cursor}
    (h : c.type = t) : (take >>= f) c = (eat t >>= f) c := by
  rw [bind_of_ok (take_apply c), eat, accept_bind, if_pos h]

/-- A token of the right type is taken, whatever the cause would have been. -/
theorem eat_bind {t : TokenType} {f : Located (List Char) → Rule β} {c : Cursor} (h : c.type = t)
    (cause : Cause) : (eat t >>= f) c = (accept t cause >>= f) c := by
  rw [eat, accept_bind, accept_bind, if_pos h, if_pos h]

/-- What is done depends on the next token alone. -/
theorem peek_bind {f : TokenType → Rule β} (c : Cursor) : (peek >>= f) c = f c.type c :=
  bind_of_ok (peek_apply c)

theorem get_bind {f : Cursor → Rule β} (c : Cursor) : (get >>= f) c = f c c := rfl

@[simp] theorem pure_apply (a : α) (c : Cursor) : (pure a : Rule α) c = .ok a c := rfl

end

end Rule

end SeedHeader
