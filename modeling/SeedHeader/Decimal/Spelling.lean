import SeedHeader.Text.Blank
import SeedHeader.Text.DecimalDigit
import SeedHeader.Decimal.Binary64

/-!
# Decimal — Spelled numbers

The freest way to write a float.  Spaces around the number do not matter, the digits may be those
of any script, and a single underscore may stand between two digits.  What is left is a sign, if
there is one, and a decimal with a point and an exponent or a word for a special value.
-/

namespace SeedHeader

/-- A decimal digit of any script as an ASCII digit, and any other character as it is. -/
def plainDigit (c : Char) : Char :=
  ((Text.decimalValue? c).map Nat.digitChar).getD c

/-- Removes the underscores between digits.  There is no result if one stands elsewhere; `digit`
tells whether the character before the text is a digit. -/
def ungroup? : (digit : Bool) → List Char → Option (List Char)
  | _, [] => some []
  | _, ['_'] => none
  | digit, '_' :: c :: cs =>
    if digit && c.isDigit then (ungroup? true cs).map (c :: ·) else none
  | _, c :: cs => (ungroup? c.isDigit cs).map (c :: ·)

/-- A number without the spaces around it, in ASCII digits, and without underscores. -/
def plainSpelling? (cs : List Char) : Option (List Char) :=
  ungroup? false ((Text.trimBy Text.isSpace cs).map plainDigit)

namespace Binary64

/-- The special value that a word in any case stands for. -/
def special? (negative : Bool) (word : List Char) : Option Binary64 :=
  match String.ofList (word.map Char.toLower) with
  | "inf" | "infinity" => some (infinite negative)
  | "nan"              => some nan
  | _                  => none

/-- Reads a spelled number. -/
def read? (cs : List Char) : Option Binary64 := do
  let (negative, body) := splitSign (← plainSpelling? cs)
  match special? negative body with
  | some x => some x
  | none   => (Decimal.read? body).map (ofDecimal negative)

end Binary64

end SeedHeader
