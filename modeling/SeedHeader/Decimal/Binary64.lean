import SeedHeader.Decimal.Basic

/-!
# Decimal — Binary floating point

A number of the binary format with 53 significant bits is an integer mantissa times a power of
two.  A quotient of naturals is rounded to the nearest such number, a tie going to the even
mantissa; a quotient that is too large becomes infinite.  All arithmetic is exact.
-/

namespace SeedHeader

/-- The numbers of the binary format with 53 significant bits.  A finite number is
`± mantissa · 2 ^ exponent`; zero has a sign. -/
inductive Binary64 where
  | nan
  | infinite (negative : Bool)
  | finite (negative : Bool) (mantissa : Nat) (exponent : Int)
deriving DecidableEq, Repr

/-- An exact value: a rational number or one of the two infinities. -/
inductive Quantity where
  | rational (value : Rat)
  | infinite (negative : Bool)
deriving DecidableEq

namespace Binary64

/-- The least exponent. -/
def leastExponent : Int := -1074

/-- The greatest exponent. -/
def greatestExponent : Int := 971

/-- `n / d` to the nearest natural number, a tie going to the even one. -/
def roundDiv (n d : Nat) : Nat :=
  let q := n / d
  let r := n % d
  if d < 2 * r || (d = 2 * r && q % 2 = 1) then q + 1 else q

/-- The quotient `num / den` in units of `2 ^ q`, as a quotient of naturals. -/
def inUnits (num den : Nat) (q : Int) : Nat × Nat :=
  (num * Nat.pow 2 (-q).toNat, den * Nat.pow 2 q.toNat)

/-- The exponent of the number nearest to `num / den`: with it the mantissa fits into 53 bits and
uses all of them, unless the exponent is the least. -/
def exponentFor (num den : Nat) : Int :=
  let q := max ((num.log2 : Int) - den.log2 - 53) leastExponent
  let (n, d) := inUnits num den q
  if n / d < Nat.pow 2 53 then q else q + 1

/-- The number nearest to `num / den`. -/
def ofRatio (negative : Bool) (num den : Nat) : Binary64 :=
  if num = 0 then finite negative 0 leastExponent
  else
    let q := exponentFor num den
    let (n, d) := inUnits num den q
    let m := roundDiv n d
    let (m, q) := if m = Nat.pow 2 53 then (Nat.pow 2 52, q + 1) else (m, q)
    if greatestExponent < q then infinite negative else finite negative m q

/-- The number nearest to a decimal.  A decimal of more than 310 places before the point is
infinite, and one with more than 330 zeros after it is zero, whatever the digits. -/
def ofDecimal (negative : Bool) (d : Decimal) : Binary64 :=
  let top := (Nat.toDigits 10 d.digits).length + d.scale
  if d.digits = 0 || top < -330 then ofRatio negative 0 1
  else if 310 < top then infinite negative
  else ofRatio negative (d.digits * Nat.pow 10 d.scale.toNat) (Nat.pow 10 (-d.scale).toNat)

/-- The exact value; only the result of an undefined operation has none. -/
def quantity? : Binary64 → Option Quantity
  | nan => none
  | infinite negative => some (.infinite negative)
  | finite negative m q =>
    let n : Int := m * Nat.pow 2 q.toNat
    some (.rational (mkRat (if negative then -n else n) (Nat.pow 2 (-q).toNat)))

end Binary64

end SeedHeader
