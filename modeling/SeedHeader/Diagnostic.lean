import SeedHeader.Text.Quoted
import SeedHeader.Text.Slice
import SeedHeader.Span
import SeedHeader.Token
import SeedHeader.Suggestion

/-!
# Diagnostics

A diagnostic is a message about a span of the source, with the construct that was expected there
if one was.  Its location is the line and the column, both counted from one, of the first
character of the span; only a line feed ends a line.  A diagnostic that is built by hand may have
any span.

While a header is read, what goes wrong is a `Fault`: a cause and the span of a token.
`Fault.diagnostic` words it.
-/

namespace SeedHeader

/-- A message about a span of the source. -/
structure Diagnostic where
  message : String
  span : Span Int
  suggestion : Option Suggestion
deriving DecidableEq, Repr

/-- A line and a column, both counted from one. -/
structure Location where
  line : Nat
  column : Int
deriving DecidableEq, Repr

/-- The length of the text up to and with its last line feed. -/
def lineStart (text : List Char) : Nat :=
  text.length - (text.reverse.takeWhile (· ≠ '\n')).length

/-- The location of the character at offset `n`: one line for each line feed before it, and one
column for each character since the last of them.  What stands before an offset is the slice that
ends there. -/
def locate (text : List Char) (n : Int) : Location :=
  let before := Text.slice text 0 n
  ⟨before.count '\n' + 1, n - lineStart before + 1⟩

namespace Diagnostic

/-- Where the diagnostic starts. -/
def location (d : Diagnostic) (text : List Char) : Location := locate text d.span.start

/-- The label of the suggestion in brackets. -/
def bracket : Option Suggestion → String
  | some s => s!" [{s.label}]"
  | none   => ""

/-- One line for the reader: file, location, message and suggestion. -/
def format (d : Diagnostic) (text : List Char) (file : String) : String :=
  let place := d.location text
  s!"{file}:L{place.line}:{place.column}: {d.message}" ++ bracket d.suggestion

/-- The text that shows a diagnostic. -/
def describe (d : Diagnostic) : String :=
  let suggestion := match d.suggestion with
    | some s => ", " ++ s.name
    | none   => ""
  s!"ParseError({Text.quote d.message}, {d.span.start}..{d.span.stop}{suggestion})"

/-- One line for each diagnostic. -/
def formatAll (ds : List Diagnostic) (text : List Char) (file : String) : String :=
  "\n".intercalate (ds.map fun d => d.format text file)

/-- The text that shows a list of diagnostics. -/
def describeAll (ds : List Diagnostic) : String :=
  "ParseErrorCollection([" ++ ", ".intercalate (ds.map describe) ++ "])"

/-- The message that refuses a header: how many diagnostics there are, then each of them. -/
def refusal (ds : List Diagnostic) (text : List Char) (file : String) : String :=
  s!"{ds.length} error(s) in {file}\n{formatAll ds text file}"

end Diagnostic

/-! ### Faults -/

/-- What can go wrong while a header is read. -/
inductive Cause where
  /-- Another type of token was needed. -/
  | expectedToken (type : TokenType)
  /-- The construct does not start here. -/
  | expected (what : Suggestion)
  /-- The token has the right type, but no meaning as the construct. -/
  | invalid (what : Suggestion)
  /-- The construct is a string, and there is none. -/
  | expectedString (what : Suggestion)
  /-- The closing quote of a string is missing. -/
  | unterminatedString (what : Suggestion)
  /-- Water has no amount. -/
  | waterNotZero
deriving DecidableEq, Repr

namespace Cause

/-- The wording of a cause. -/
def message : Cause → String
  | expectedToken t      => "Expected " ++ t.label
  | expected s           => "Expected " ++ s.label
  | invalid s            => "Invalid " ++ s.label
  | expectedString _     => "Expected string"
  | unterminatedString _ => "Unterminated string"
  | waterNotZero         => "Invalid water, expected 0"

/-- The construct that was expected. -/
def suggestion : Cause → Option Suggestion
  | expectedToken _ => none
  | expected s | invalid s | expectedString s | unterminatedString s => some s
  | waterNotZero => some .integer

end Cause

/-- A cause and the span of the token it concerns. -/
structure Fault where
  cause : Cause
  span : Span
deriving DecidableEq, Repr

namespace Fault

/-- The diagnostic for a fault. -/
def diagnostic (f : Fault) : Diagnostic := ⟨f.cause.message, f.span, f.cause.suggestion⟩

/-- The fault moved `n` characters to the right. -/
def shift (n : Nat) (f : Fault) : Fault := ⟨f.cause, f.span.shift n⟩

end Fault

end SeedHeader
