/-!
# Text — Slices

A slice is named by two offsets.  A negative offset counts from the end of the text, offsets
beyond either end are moved to that end, and a slice whose offsets cross is empty.
-/

namespace SeedHeader.Text

/-- The place in a text of length `n` that the offset `i` names. -/
def clamp (n : Nat) (i : Int) : Nat :=
  if i < 0 then (n + i).toNat else min i.toNat n

/-- The characters from offset `i` up to offset `j`. -/
def slice {α : Type} (cs : List α) (i j : Int) : List α :=
  let start := clamp cs.length i
  let stop := clamp cs.length j
  (cs.take stop).drop start

/-- The place of the element at offset `i` in a list of length `n`, a negative offset counting from
the end. -/
def index? (n : Nat) (i : Int) : Option Nat :=
  let k := if i < 0 then n + i else i
  if 0 ≤ k && k < n then some k.toNat else none

/-- The element at offset `i`. -/
def at? {α : Type} (xs : List α) (i : Int) : Option α :=
  (index? xs.length i).bind fun k => xs[k]?

/-- The list with another element at offset `i`. -/
def setAt {α : Type} (xs : List α) (i : Int) (x : α) : List α :=
  (index? xs.length i).elim xs fun k => xs.set k x

end SeedHeader.Text
