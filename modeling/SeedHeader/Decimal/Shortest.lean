import SeedHeader.Decimal.Binary64

/-!
# Decimal — Shortest digits

The decimal that shows a binary number has the fewest digits among those that read back as the
number; among several of them it is the one nearest to it.

The reals that read back as `m · 2 ^ q` form an interval around it, whose ends belong to it when
`m` is even.  In units of `2 ^ (q - 2)` the number is `4 m`; the upper end is two units above, the
lower end two units below, or one unit where the numbers below lie half as far apart.  A power of
ten after the other, from a coarse one to finer ones, the two multiples around the number are
tried; the first one inside the interval is taken.
-/

namespace SeedHeader.Binary64

/-- The distance of the lower end of the interval, in quarters of a unit of the mantissa. -/
def lowerGap (m : Nat) (q : Int) : Nat :=
  if m = Nat.pow 2 52 && leastExponent < q then 1 else 2

/-- The decimal `d` is read as `m · 2 ^ q`. -/
def readsBack (m : Nat) (q : Int) (d : Decimal) : Bool :=
  let x := d.digits * Nat.pow 10 d.scale.toNat * Nat.pow 2 (2 - q).toNat
  let unit := Nat.pow 10 (-d.scale).toNat * Nat.pow 2 (q - 2).toNat
  let low := (4 * m - lowerGap m q) * unit
  let high := (4 * m + 2) * unit
  if m % 2 = 0 then low ≤ x && x ≤ high else low < x && x < high

/-- Of the two multiples of `10 ^ p` around `m · 2 ^ q`, the one that reads back; if both do, the
nearer one, a tie going to the even one. -/
def onGrid? (m : Nat) (q p : Int) : Option Decimal :=
  let num := m * Nat.pow 2 q.toNat * Nat.pow 10 (-p).toNat
  let den := Nat.pow 2 (-q).toNat * Nat.pow 10 p.toNat
  let below : Decimal := ⟨num / den, p⟩
  let above : Decimal := ⟨num / den + 1, p⟩
  match readsBack m q below, readsBack m q above with
  | true, true   => some ⟨roundDiv num den, p⟩
  | true, false  => some below
  | false, true  => some above
  | false, false => none

/-- The first grid from `10 ^ p` downwards that holds a decimal that reads back; at most `fuel`
grids are tried. -/
def firstOnGrid (m : Nat) (q : Int) : (fuel : Nat) → (p : Int) → Decimal
  | 0, p =>
    ⟨roundDiv (m * Nat.pow 2 q.toNat * Nat.pow 10 (-p).toNat)
      (Nat.pow 2 (-q).toNat * Nat.pow 10 p.toNat), p⟩
  | fuel + 1, p =>
    match onGrid? m q p with
    | some d => d
    | none   => firstOnGrid m q fuel (p - 1)

/-- An exponent `p` with `m · 2 ^ q < 10 ^ p`, at most three too large. -/
def topExponent (m : Nat) (q : Int) : Int :=
  Int.fdiv ((m.log2 + q + 1) * 30103) 100000 + 2

/-- The shortest decimal that reads back as `m · 2 ^ q`.  Seventeen digits always suffice. -/
def shortest (m : Nat) (q : Int) : Decimal :=
  if m = 0 then ⟨0, 0⟩ else firstOnGrid m q 21 (topExponent m q)

end SeedHeader.Binary64
