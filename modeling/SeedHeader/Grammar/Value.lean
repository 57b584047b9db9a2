import SeedHeader.Text.Blank
import SeedHeader.Cursor
import SeedHeader.Decode
import SeedHeader.Document.Value

/-!
# Grammar — Values

Literals, and the fields in which a parameter `$Param(name)` may stand for a literal.  A token of
the wrong type is reported where it stands and not taken; a token of the right type that has no
meaning is taken and reported.
-/

namespace SeedHeader.Grammar

open Rule

/-! ### Literals -/

/-- The meaning of the characters `cs` of a token at `span`. -/
def decoded {α : Type} (decode : Decoder α) (what : Suggestion) (span : Span) (cs : List Char) :
    Rule α :=
  match decode cs with
  | .ok a    => return a
  | .error _ => failAt span (.invalid what)

/-- A word of the table. -/
def keyword {α : Type} (table : List (String × α)) (what : Suggestion) : Rule α := do
  let word ← eatFor .identifier what
  match keyword? table word.val with
  | some a => return a
  | none   => failAt word.span (.invalid what)

/-- An identifier. -/
def identifier (what : Suggestion := .identifier) : Rule String := do
  let word ← eatFor .identifier what
  return String.ofList word.val

/-- A number with a meaning. -/
def number {α : Type} (what : Suggestion) (decode : Decoder α) : Rule α := do
  let digits ← eatFor .number what
  decoded decode what digits.span digits.val

/-- A number with a meaning, and whether a minus sign stands in front of it. -/
def removable {α : Type} (what : Suggestion) (decode : Decoder α) : Rule (α × Bool) := do
  let digits ← eatFor .number what
  let (remove, cs) := Decoder.splitMinus digits.val
  return (← decoded decode what digits.span cs, remove)

/-- A string on one line; its value is what stands between the quotes. -/
def quoted (what : Suggestion := .string) : Rule String := do
  let c ← get
  let token ← accept .string (.expectedString what)
  if c.lexeme.terminated then return String.ofList token.val.tail.dropLast
  else failAt token.span (.unterminatedString what)

/-- The token types over which a free text runs: all but those that end it. -/
def isTextual (type : TokenType) : Bool := type ≠ .newline && type ≠ .comment

/-- What is left of the line up to a comment, without the blanks around it. -/
def freeText (what : Suggestion := .text) : Rule String := do
  let c ← get
  let cs := Text.trim (← skipWhile isTextual)
  if cs.isEmpty then failAt c.span (.expected what) else return String.ofList cs

theorem freeText_apply (what : Suggestion) (c : Cursor) :
    freeText what c =
      if (Text.trim (c.passed isTextual)).isEmpty then
        .error ⟨.expected what, c.span⟩ (c.skipWhile isTextual)
      else .ok (String.ofList (Text.trim (c.passed isTextual))) (c.skipWhile isTextual) := by
  rw [freeText, get_bind, bind_of_ok (skipWhile_apply c _)]
  split <;> rfl

/-! ### Literals or parameters -/

/-- A parameter: `$Param(name)`. -/
def parameter {α : Type} (what : Suggestion) : Rule (Field α) := located do
  let _ ← accept .dollar (.expected what)
  match ← keyword (Worded.table Interpolation) .interpolationCommand with
  | .param =>
    let _ ← eatFor .openParen .interpolationCommand
    let name ← eat .identifier
    let _ ← eat .closeParen
    return .parameter (String.ofList name.val)

/-- A token of the given type with a meaning, or a parameter. -/
def field {α : Type} (type : TokenType) (what : Suggestion) (decode : Decoder α) :
    Rule (Field α) := do
  if (← peek) = type then
    let token ← take
    return ⟨token.span, .literal (← decoded decode what token.span token.val)⟩
  else parameter what

section
variable {α : Type}

/-- A field is read from the token under the cursor if that has the right type. -/
theorem field_of_type {t : TokenType} (what : Suggestion) (decode : Decoder α) {c : Cursor}
    (h : c.type = t) :
    field t what decode c =
      (eat t >>= fun token => decoded decode what token.span token.val >>= fun a =>
        pure ⟨token.span, .literal a⟩) c := by
  rw [field, peek_bind, if_pos h, take_bind h]

/-- Without such a token a parameter must follow. -/
theorem field_of_ne {t : TokenType} (what : Suggestion) (decode : Decoder α) {c : Cursor}
    (h : c.type ≠ t) : field t what decode c = parameter what c := by
  rw [field, peek_bind, if_neg h]

end

/-- An identifier with a meaning, or a parameter. -/
def wordField {α : Type} (what : Suggestion) (decode : Decoder α) : Rule (Field α) :=
  field .identifier what decode

/-- A number with a meaning, or a parameter. -/
def numberField {α : Type} (what : Suggestion) (decode : Decoder α) : Rule (Field α) :=
  field .number what decode

/-- A number with a meaning, or a parameter, and whether a minus sign stands in front of it.  The
sign of a number belongs to its token; in front of a parameter it is a token of its own. -/
def removableField {α : Type} (what : Suggestion) (decode : Decoder α) :
    Rule (Field α × Bool) := do
  match ← peek with
  | .number =>
    let span := (← get).span
    let (a, remove) ← removable what decode
    return (⟨span, .literal a⟩, remove)
  | .minus =>
    let _ ← take
    return (← numberField what decode, true)
  | _ => return (← parameter what, false)

section
variable {α : Type}

theorem removableField_of_number (what : Suggestion) (decode : Decoder α) {c : Cursor}
    (h : c.type = .number) :
    removableField what decode c =
      (removable what decode >>= fun p => pure (⟨c.span, .literal p.1⟩, p.2)) c := by
  rw [removableField, peek_bind, h]
  rfl

theorem removableField_of_minus (what : Suggestion) (decode : Decoder α) {c : Cursor}
    (h : c.type = .minus) :
    removableField what decode c =
      (eat .minus >>= fun _ => numberField what decode >>= fun v => pure (v, true)) c := by
  rw [removableField, peek_bind, h]
  exact take_bind h

theorem removableField_of_ne (what : Suggestion) (decode : Decoder α) {c : Cursor}
    (h : c.type ≠ .number) (h' : c.type ≠ .minus) :
    removableField what decode c = (parameter what >>= fun v => pure (v, false)) c := by
  rw [removableField, peek_bind]
  cases e : c.type with
  | number => exact absurd e h
  | minus => exact absurd e h'
  | _ => rfl

end

/-! ### Compound values -/

/-- An uber identifier: `group|id`. -/
def uberIdentifier : Rule (Located UberIdentifier) := located do
  let group ← number .uberGroup Decoder.unsigned
  let _ ← eatFor .separator .uberGroup
  let id ← number .uberId Decoder.unsigned
  return ⟨group, id⟩

/-- The body of an icon of the given kind. -/
def iconBody : IconKind → Rule Icon
  | .shard => return .shard (← number .shardIcon Decoder.unsigned)
  | .spell => return .spell (← number .spellIcon Decoder.unsigned)
  | .opher => return .opher (← number .opherIcon Decoder.unsigned)
  | .lupo  => return .lupo (← number .lupoIcon Decoder.unsigned)
  | .grom  => return .grom (← number .gromIcon Decoder.unsigned)
  | .tuley => return .tuley (← number .tuleyIcon Decoder.unsigned)
  | .file  => return .file (← quoted)

/-- An icon: `kind:number`, or `file:"path"`. -/
def icon : Rule (Located Icon) := located do
  let kind ← keyword (Worded.table IconKind) .iconKind
  let _ ← eatFor .colon .iconKind
  iconBody kind

end SeedHeader.Grammar
