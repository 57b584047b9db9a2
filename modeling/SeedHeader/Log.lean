import SeedHeader.Reading

/-!
# The log

What happens while a header is read is recorded as a list of events: the opening of a file, each
fault, and how reading ended.
-/

namespace SeedHeader

/-- What can be recorded. -/
inductive Event where
  /-- A file is about to be read. -/
  | opening (file : String)
  /-- A line is given up. -/
  | skipping (file : String) (location : Location) (message : String)
  /-- Reading ended, and some lines had faults. -/
  | discarded (file : String) (faults contents : Nat)
  /-- Reading ended without a fault. -/
  | parsed (file : String) (contents : Nat)
deriving DecidableEq, Repr

namespace Event

/-- The wording of an event. -/
def message : Event → String
  | opening file => s!"Parsing header file {file}"
  | skipping file location message =>
    s!"{file}:L{location.line}:{location.column}: {message}, skipping to next line"
  | discarded file faults contents =>
    s!"{file}: {faults} error(s), discarding {contents} statement(s)"
  | parsed file contents => s!"{file}: parsed {contents} statement(s)"

end Event

namespace Reading

/-- How a reading ended. -/
def outcome (r : Reading) (file : String) : Event :=
  if r.faults.isEmpty then .parsed file r.contents.length
  else .discarded file r.faults.length r.contents.length

/-- What is recorded while a text is read. -/
def events (r : Reading) (text : List Char) (file : String) : List Event :=
  r.faults.map (fun f => .skipping file (locate text f.span.start) f.cause.message) ++
    [r.outcome file]

end Reading

end SeedHeader
