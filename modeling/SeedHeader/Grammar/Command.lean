import SeedHeader.Document.Content
import SeedHeader.Grammar.Item

/-!
# Grammar — Commands

A command is a word and, except for `endif`, a gap and its arguments.
-/

namespace SeedHeader.Grammar

open Rule

/-- The whitespace between two arguments. -/
def gap : Rule Unit := do
  let _ ← eat .whitespace

/-- An item and the gap after it. -/
def itemThenGap : Rule (Located Item) := do
  let i ← item
  gap
  return i

/-- The default of a parameter of the given type. -/
def defaultValue : ParameterType → Rule Default
  | .bool => do
    let word ← eatFor .identifier .boolean
    return .bool (← decoded Decoder.boolean .boolean word.span word.val)
  | .int    => return .int (← number .integer Decoder.integer)
  | .float  => return .float (← number .float Decoder.float)
  | .string => return .string (← freeText .string)

/-- The arguments of the command with the given word. -/
def arguments : CommandWord → Rule Command
  | .includeHeader => return .needs (← identifier)
  | .excludeHeader => return .forbids (← identifier)
  | .add           => return .add (← item)
  | .remove        => return .remove (← item)
  | .name          => return .name (← itemThenGap) (← freeText)
  | .display       => return .display (← itemThenGap) (← freeText)
  | .description   => return .description (← itemThenGap) (← freeText)
  | .price         => return .price (← itemThenGap) (← numberField .integer Decoder.unsigned)
  | .icon          => return .icon (← itemThenGap) (← icon)
  | .parameter     => do
    let name ← identifier
    gap
    let type ← keyword (Worded.table ParameterType) .parameterType
    let _ ← eatFor .colon .parameterType
    return .parameter name (← defaultValue type)
  | .setState      => return .setState (← uberIdentifier)
  | .ifState       => do
    let state ← uberIdentifier
    bar .uberId
    return .ifState state (← numberField .uberConditionValue Decoder.text)
  | .endif         => return .endif

/-- A command: `word arguments`, or `endif` alone. -/
def command : Rule Command := do
  let word ← keyword (Worded.table CommandWord) .headerCommand
  if word = .endif then return .endif
  else do
    gap
    arguments word

end SeedHeader.Grammar
