/-!
# Spans

A span is a stretch of the source text by the offsets of its two ends, counted in characters.
A value that was read from the text keeps the span it was read from beside it (`Located`).  The
offsets of such a span are natural numbers; a value that is built by hand may be given any
integers.
-/

namespace SeedHeader

/-- The characters from offset `start` up to, not including, offset `stop`. -/
structure Span (ι : Type := Nat) where
  start : ι
  stop : ι
deriving DecidableEq, Repr

namespace Span

/-- The span of a value that was not read from any place of the text. -/
def nowhere {ι : Type} [OfNat ι 0] : Span ι := ⟨0, 0⟩

/-- The span moved `n` characters to the right. -/
def shift (n : Nat) (s : Span) : Span := ⟨n + s.start, n + s.stop⟩

/-- The span with its offsets as integers. -/
def toInt (s : Span) : Span Int := ⟨s.start, s.stop⟩

instance : Coe Span (Span Int) := ⟨toInt⟩

end Span

/-- A value and where it was read. -/
structure Located (α : Type) where
  span : Span
  val : α
deriving DecidableEq, Repr

end SeedHeader
