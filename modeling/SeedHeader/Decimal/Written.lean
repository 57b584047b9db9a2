import SeedHeader.Decimal.Shortest

/-!
# Decimal — Written numbers

A float is written with its shortest digits.  `floatStyle` holds the decisions of the format:
numbers whose leading digit stands between 10⁻⁴ and 10¹⁵ are written with a point and at least
one place after it, all others with an exponent of a sign and at least two digits.
-/

namespace SeedHeader

/-- The decisions of a format for numbers. -/
structure NumberStyle where
  /-- The least exponent of the leading digit for which no exponent is written. -/
  leastPlain : Int
  /-- The greatest exponent of the leading digit for which no exponent is written. -/
  greatestPlain : Int
  /-- The least number of digits of a written exponent. -/
  exponentWidth : Nat
  infinity : String
  undefined : String

/-- Floats: plain from 10⁻⁴ to below 10¹⁶, and an exponent has two digits. -/
def floatStyle : NumberStyle := ⟨-4, 15, 2, "inf", "nan"⟩

namespace NumberStyle

/-- The exponent of the leading digit of a row of `count` digits in units of `10 ^ scale`. -/
def leadingExponent (count : Nat) (scale : Int) : Int := count + scale - 1

/-- Digits with a point after the one of exponent zero. -/
def plain (ds : List Char) (e : Int) : List Char :=
  if e < 0 then '0' :: '.' :: (List.replicate (-e - 1).toNat '0' ++ ds)
  else
    let count := e.toNat + 1
    let whole := ds.take count
    let places := ds.drop count
    whole ++ List.replicate (count - whole.length) '0' ++
      '.' :: (if places.isEmpty then ['0'] else places)

/-- The digits of an exponent, with zeros in front up to the least width. -/
def exponentDigits (style : NumberStyle) (e : Nat) : List Char :=
  let ds := Nat.toDigits 10 e
  List.replicate (style.exponentWidth - ds.length) '0' ++ ds

/-- Digits with a point after the first of them, and the exponent. -/
def scientific (style : NumberStyle) (ds : List Char) (e : Int) : List Char :=
  let places := ds.drop 1
  ds.take 1 ++ (if places.isEmpty then [] else '.' :: places) ++
    'e' :: (if e < 0 then '-' else '+') :: style.exponentDigits e.natAbs

/-- A decimal in this style. -/
def decimal (style : NumberStyle) (d : Decimal) : List Char :=
  let ds := Nat.toDigits 10 d.digits
  let e := leadingExponent ds.length d.scale
  if style.leastPlain ≤ e && e ≤ style.greatestPlain then plain ds e else style.scientific ds e

/-- A sign in front of a text. -/
def signed (negative : Bool) (s : String) : String := if negative then "-" ++ s else s

/-- A binary number in this style. -/
def write (style : NumberStyle) : Binary64 → String
  | .nan => style.undefined
  | .infinite negative => signed negative style.infinity
  | .finite negative m q => signed negative (String.ofList (style.decimal (Binary64.shortest m q)))

end NumberStyle

/-- The written form of a float. -/
def Binary64.toText (x : Binary64) : String := floatStyle.write x

end SeedHeader
