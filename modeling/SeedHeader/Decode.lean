import SeedHeader.Text.Quoted
import SeedHeader.Decimal.Written
import SeedHeader.Game.Numbered
import SeedHeader.Keyword

/-!
# Decoding literals

Each type of literal has its own text form.  Unsigned integers are rows of ASCII digits below
2³², integers may have a minus sign and lie between -2³¹ and 2³¹ - 1, and neither may have more
than 4300 digits; a float has digits and one point at most; a boolean is one of two words in any
case, or one of the digits `0` and `1`; a member of a numbered enumeration is given by its
number.
-/

namespace SeedHeader

/-- Why a text is not a literal of the type asked for. -/
inductive DecodeError where
  | notUnsigned (text : String)
  | notInteger (text : String)
  | notFloat (text : String)
  | notDecimal (text : String)
  | notBoolean (text : String)
  | notBit (text : String)
  | outOfRange (text : String)
  | tooLong (digits : Nat)
  | notMember (number : Nat) (enumeration : String)
deriving DecidableEq, Repr

/-- The greatest number of digits of an integer. -/
def digitLimit : Nat := 4300

namespace DecodeError

/-- The wording of an error. -/
def message : DecodeError → String
  | notUnsigned s => "not an unsigned integer: " ++ Text.quote s
  | notInteger s  => "not an integer: " ++ Text.quote s
  | notFloat s    => "not a float: " ++ Text.quote s
  | notDecimal s  => "could not convert string to float: " ++ Text.quote s
  | notBoolean s  => "not a boolean: " ++ Text.quote s
  | notBit s      => "not a numeric boolean: " ++ Text.quote s
  | outOfRange s  => "out of range: " ++ Text.quote s
  | tooLong n     =>
    s!"Exceeds the limit ({digitLimit} digits) for integer string conversion: " ++
    s!"value has {n} digits; use sys.set_int_max_str_digits() to increase the limit"
  | notMember n e => s!"{n} is not a valid {e}"

end DecodeError

/-- The meaning of a text as a literal. -/
abbrev Decoder (α : Type) := List Char → Except DecodeError α

namespace Decoder

/-- The greatest unsigned integer. -/
def unsignedMax : Nat := 0xffffffff

/-- Unsigned integers. -/
def unsigned : Decoder Nat := fun cs =>
  if !isDigits cs then .error (.notUnsigned (String.ofList cs))
  else if digitLimit < cs.length then .error (.tooLong cs.length)
  else if unsignedMax < digitsValue cs then .error (.outOfRange (String.ofList cs))
  else .ok (digitsValue cs)

/-- Whether a text starts with a minus sign, and the text after it. -/
def splitMinus : List Char → Bool × List Char
  | '-' :: cs => (true, cs)
  | cs        => (false, cs)

/-- A number with the sign in front of it. -/
def signed (negative : Bool) (n : Nat) : Int := if negative then -n else n

/-- Integers. -/
def integer : Decoder Int := fun cs =>
  let (negative, ds) := splitMinus cs
  let i := signed negative (digitsValue ds)
  if !isDigits ds then .error (.notInteger (String.ofList cs))
  else if digitLimit < ds.length then .error (.tooLong ds.length)
  else if i < -0x80000000 || 0x80000000 ≤ i then .error (.outOfRange (String.ofList cs))
  else .ok i

/-- The characters of which a float consists. -/
def isFloatChar (c : Char) : Bool := c.isDigit || c = '.'

/-- Floats.  A row of digits and points with more than one point, or with no digit, is told apart
from a text that holds anything else. -/
def float : Decoder Binary64 := fun cs =>
  let (negative, ds) := splitMinus cs
  if ds.isEmpty || !ds.all isFloatChar then .error (.notFloat (String.ofList cs))
  else match Decimal.readPlain? ds with
    | some d => .ok (.ofDecimal negative d)
    | none   => .error (.notDecimal (String.ofList cs))

/-- Booleans written as words. -/
def boolean : Decoder Bool := fun cs =>
  match keyword? booleans cs with
  | some b => .ok b
  | none   => .error (.notBoolean (String.ofList cs))

/-- Booleans written as digits. -/
def bit : Decoder Bool := fun cs =>
  match cs with
  | ['0'] => .ok false
  | ['1'] => .ok true
  | _     => .error (.notBit (String.ofList cs))

/-- Texts stand for themselves. -/
def text : Decoder String := fun cs => .ok (String.ofList cs)

/-- Members of a numbered enumeration. -/
def member (α : Type) [Numbered α] : Decoder α := fun cs => do
  let n ← unsigned cs
  match Numbered.ofNumber? n with
  | some a => .ok a
  | none   => .error (.notMember n (Numbered.title α))

end Decoder

end SeedHeader
