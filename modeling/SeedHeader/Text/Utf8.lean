/-!
# Text — Decoding bytes

Bytes are decoded as UTF-8.  A byte that starts no character, and a longest beginning of a
character that the next byte does not continue, each become one replacement character; decoding
goes on with the byte that did not fit.  A byte order mark is kept.

Line ends are then made uniform: a carriage return, with the line feed that may follow it,
becomes one line feed.
-/

namespace SeedHeader.Text

/-- The character that stands for bytes that cannot be decoded. -/
def replacement : Char := Char.ofNat 0xFFFD

/-- What a first byte announces: the high bits of the code point, and the range in which each of
the bytes that follow must lie. -/
def announce (b : UInt8) : Option (Nat × List (UInt8 × UInt8)) :=
  if b < 0x80 then some (b.toNat, [])
  else if b < 0xC2 then none
  else if b < 0xE0 then some (b.toNat % 0x20, [(0x80, 0xBF)])
  else if b = 0xE0 then some (0x0, [(0xA0, 0xBF), (0x80, 0xBF)])
  else if b = 0xED then some (0xD, [(0x80, 0x9F), (0x80, 0xBF)])
  else if b < 0xF0 then some (b.toNat % 0x10, [(0x80, 0xBF), (0x80, 0xBF)])
  else if b = 0xF0 then some (0x0, [(0x90, 0xBF), (0x80, 0xBF), (0x80, 0xBF)])
  else if b < 0xF4 then some (b.toNat % 0x8, [(0x80, 0xBF), (0x80, 0xBF), (0x80, 0xBF)])
  else if b = 0xF4 then some (0x4, [(0x80, 0x8F), (0x80, 0xBF), (0x80, 0xBF)])
  else none

/-- Reads the bytes that follow a first byte: the character, and the bytes left. -/
def follow : (bits : Nat) → List (UInt8 × UInt8) → List UInt8 → Char × List UInt8
  | bits, [], bs => (Char.ofNat bits, bs)
  | _, _ :: _, [] => (replacement, [])
  | bits, r :: rs, b :: bs =>
    if r.1 ≤ b && b ≤ r.2 then follow (bits * 0x40 + b.toNat % 0x40) rs bs
    else (replacement, b :: bs)

theorem follow_length_le (bits : Nat) (rs : List (UInt8 × UInt8)) (bs : List UInt8) :
    (follow bits rs bs).2.length ≤ bs.length := by
  induction rs generalizing bits bs with
  | nil => simp [follow]
  | cons r rs ih =>
    cases bs with
    | nil => simp [follow]
    | cons b bs =>
      simp only [follow]
      split
      · exact Nat.le_succ_of_le (ih _ bs)
      · exact Nat.le_refl _

/-- The text that bytes stand for. -/
def decodeUtf8 : List UInt8 → List Char
  | [] => []
  | b :: bs =>
    match announce b with
    | none => replacement :: decodeUtf8 bs
    | some (bits, ranges) =>
      (follow bits ranges bs).1 :: decodeUtf8 (follow bits ranges bs).2
termination_by bs => bs.length
decreasing_by
  · simp
  · exact Nat.lt_succ_of_le (follow_length_le bits ranges bs)

/-- Every line end as one line feed. -/
def unifyNewlines : List Char → List Char
  | [] => []
  | '\r' :: '\n' :: cs => '\n' :: unifyNewlines cs
  | '\r' :: cs => '\n' :: unifyNewlines cs
  | c :: cs => c :: unifyNewlines cs

end SeedHeader.Text
