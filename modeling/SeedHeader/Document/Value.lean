import SeedHeader.Decimal.Binary64
import SeedHeader.Span

/-!
# Document — Values

The leaves of a document.  An uber state, a variable of the game, has a group and a number within
it.  A value is written out as a literal or left to a parameter that is bound later.  An icon is
numbered within one of six families, or is a file.
-/

namespace SeedHeader

/-- The uber state with number `id` in its group. -/
structure UberIdentifier where
  group : Nat
  id : Nat
deriving DecidableEq, Repr

/-- A literal, or the name of a parameter that stands for one. -/
inductive Value (α : Type) where
  | literal (value : α)
  | parameter (name : String)
deriving DecidableEq, Repr

/-- A value where it was read. -/
abbrev Field (α : Type) := Located (Value α)

/-- A condition on an uber state: any change of it fires, or only the change to a value.  The
value is kept as it is written. -/
structure Trigger where
  identifier : Located UberIdentifier
  value : Option (Field String)
deriving DecidableEq, Repr

/-- An icon. -/
inductive Icon where
  | shard (number : Nat)
  | spell (number : Nat)
  | opher (number : Nat)
  | lupo (number : Nat)
  | grom (number : Nat)
  | tuley (number : Nat)
  | file (path : String)
deriving DecidableEq, Repr

end SeedHeader
