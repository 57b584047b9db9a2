import SeedHeader.Grammar.Command

/-!
# Grammar — Statements

A statement is a timer, a command, an annotation or a pickup; its first token decides which.
-/

namespace SeedHeader.Grammar

open Rule

/-- A timer: `switch|counter`. -/
def timer : Rule Timer := do
  let switch ← uberIdentifier
  bar .uberId
  let counter ← uberIdentifier
  return ⟨switch, counter⟩

/-- A dot or a bar, and the whitespace after it. -/
def joint : Rule Unit := do
  let type ← peek
  if type = .dot || type = .separator then do
    let _ ← take
    skip .whitespace
  else return ()

theorem joint_of_type {t : TokenType} (ht : t = .dot ∨ t = .separator) {c : Cursor}
    (h : c.type = t) : joint c = (eat t >>= fun _ => skip .whitespace) c := by
  rw [joint, peek_bind, if_pos (by rw [h]; rcases ht with rfl | rfl <;> rfl), take_bind h]

theorem joint_of_ne {c : Cursor} (h : c.type ≠ .dot) (h' : c.type ≠ .separator) :
    joint c = .ok () c := by
  rw [joint, peek_bind, if_neg (by simp [h, h'])]
  rfl

/-- What may stand between the word `setup` and the kind: whitespace around a dot or a bar. -/
def joiner : Rule Unit := do
  skip .whitespace
  joint

/-- What follows the word `setup`: `timer|…` after a joiner. -/
def setup : Rule Timer := do
  joiner
  match ← keyword (Worded.table SetupKind) .setupKind with
  | .timer =>
    bar .setupKind
    timer

/-- The value that a trigger waits for: `=value`. -/
def condition : Rule (Option (Field String)) := do
  if (← peek) = .eq then
    let _ ← take
    return some (← numberField .uberTriggerValue Decoder.text)
  else return none

theorem condition_of_eq {c : Cursor} (h : c.type = .eq) :
    condition c =
      (eat .eq >>= fun _ => numberField .uberTriggerValue Decoder.text >>= fun v =>
        pure (some v)) c := by
  rw [condition, peek_bind, if_pos h, take_bind h]

theorem condition_of_ne {c : Cursor} (h : c.type ≠ .eq) : condition c = .ok none c := by
  rw [condition, peek_bind, if_neg h]
  rfl

/-- A trigger: an uber identifier, and the value that it waits for if there is one. -/
def trigger : Rule (Located Trigger) := located do
  let state ← uberIdentifier
  return ⟨state, ← condition⟩

/-- A pickup: `trigger|item`. -/
def pickup (ignore skipValidation : Bool) : Rule Pickup := do
  let t ← trigger
  bar (if t.val.value.isSome then .uberTriggerValue else .uberId)
  return ⟨t, ← item, ignore, skipValidation⟩

/-- A statement that opens with a word. -/
def setupStatement : Rule Content := do
  match ← keyword (Worded.table StatementWord) .expression with
  | .setup => return .timer (← setup)

/-- What follows a bang: another bang and a command, or an ignored pickup. -/
def marked (skipValidation : Bool) : Rule Content := do
  if (← peek) = .bang then
    let _ ← take
    return .command (← command)
  else return .pickup (← pickup true skipValidation)

theorem marked_of_bang (skipValidation : Bool) {c : Cursor} (h : c.type = .bang) :
    marked skipValidation c = (eat .bang >>= fun _ => command >>= fun a => pure (.command a)) c := by
  rw [marked, peek_bind, if_pos h, take_bind h]

theorem marked_of_ne (skipValidation : Bool) {c : Cursor} (h : c.type ≠ .bang) :
    marked skipValidation c = (pickup true skipValidation >>= fun p => pure (.pickup p)) c := by
  rw [marked, peek_bind, if_neg h]

/-- The body of a statement; `skipValidation` tells whether a pickup is excused. -/
def statementBody (skipValidation : Bool) : Rule Content := do
  match ← peek with
  | .identifier => setupStatement
  | .bang =>
    let _ ← take
    marked skipValidation
  | .number | .dollar => return .pickup (← pickup false skipValidation)
  | .pound =>
    let _ ← take
    return .annotated (← identifier .annotationName)
  | _ => fail (.expected .expression)

theorem statementBody_of_bang (skipValidation : Bool) {c : Cursor} (h : c.type = .bang) :
    statementBody skipValidation c = (eat .bang >>= fun _ => marked skipValidation) c := by
  rw [statementBody, peek_bind, h]
  exact take_bind h

theorem statementBody_of_pound (skipValidation : Bool) {c : Cursor} (h : c.type = .pound) :
    statementBody skipValidation c =
      (eat .pound >>= fun _ => identifier .annotationName >>= fun s => pure (.annotated s)) c := by
  rw [statementBody, peek_bind, h]
  exact take_bind h

/-- A statement. -/
def statement (skipValidation : Bool) : Rule (Located Content) :=
  located (statementBody skipValidation)

end SeedHeader.Grammar
