/-!
# Decimals

A decimal is a natural number of units of a power of ten.  `digitsValue` reads a row of ASCII
digits, `Decimal.read?` a number with a point and an exponent.
-/

namespace SeedHeader

/-- The number `digits · 10 ^ scale`. -/
structure Decimal where
  digits : Nat
  scale : Int
deriving DecidableEq, Repr

/-- The value of an ASCII digit. -/
def digitValue (c : Char) : Nat := c.toNat - '0'.toNat

/-- The value of a row of ASCII digits. -/
def digitsValue (cs : List Char) : Nat :=
  cs.foldl (fun n c => 10 * n + digitValue c) 0

/-- The row is nonempty and holds ASCII digits only. -/
def isDigits (cs : List Char) : Bool :=
  !cs.isEmpty && cs.all Char.isDigit

/-- The sign in front of a text, and the text after it. -/
def splitSign : List Char → Bool × List Char
  | '-' :: cs => (true, cs)
  | '+' :: cs => (false, cs)
  | cs        => (false, cs)

namespace Decimal

/-- Reads digits with at most one point among them; there must be a digit on one of its sides. -/
def readPlain? (cs : List Char) : Option Decimal :=
  let whole := cs.takeWhile Char.isDigit
  match cs.dropWhile Char.isDigit with
  | [] => if whole.isEmpty then none else some ⟨digitsValue whole, 0⟩
  | c :: places =>
    if c = '.' && places.all Char.isDigit && !(whole.isEmpty && places.isEmpty) then
      some ⟨digitsValue (whole ++ places), -places.length⟩
    else none

/-- The character that separates a number from its exponent. -/
def isExponentMark (c : Char) : Bool := c = 'e' || c = 'E'

/-- Reads an exponent: a row of digits after an optional sign. -/
def readExponent? (cs : List Char) : Option Int :=
  let (negative, ds) := splitSign cs
  if isDigits ds then some (if negative then -(digitsValue ds : Int) else digitsValue ds) else none

/-- Reads digits with at most one point among them, and the exponent that may follow. -/
def read? (cs : List Char) : Option Decimal := do
  let d ← readPlain? (cs.takeWhile (!isExponentMark ·))
  match cs.dropWhile (!isExponentMark ·) with
  | [] => some d
  | _ :: exponent => some ⟨d.digits, d.scale + (← readExponent? exponent)⟩

end Decimal

end SeedHeader
