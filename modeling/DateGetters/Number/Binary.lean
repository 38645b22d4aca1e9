/-!
# Binary floating point, exactly

A double-precision number is a natural number times a power of two.  `decode` gives those two, so
that comparing and printing can be done in exact arithmetic, and `nearest` goes the other way: it
gives the double nearest to a quotient of natural numbers, a half going to the even neighbour.
-/

namespace DateGetters.Number

/-- A finite double: a sign, and a magnitude `significand · 2 ^ exponent`. -/
structure Decoded where
  negative : Bool
  significand : Nat
  exponent : Int
  /-- Whether the doubles below are half as far apart as those above. -/
  atBoundary : Bool

/-- What a double is: finite, infinite with a sign, or not a number. -/
inductive Class where
  | finite (decoded : Decoded)
  | infinite (negative : Bool)
  | notANumber

/-- The bit above the fifty-two stored bits of a significand. -/
def hiddenBit : Nat := 0x10000000000000

/-- The meaning of a double's sixty-four bits. -/
def decode (number : Float) : Class :=
  let bits := number.toBits.toNat
  let negative := bits >>> 63 == 1
  let biased : Nat := (bits >>> 52) % 0x800
  let fraction : Nat := bits % hiddenBit
  if biased = 0x7FF then
    if fraction = 0 then .infinite negative else .notANumber
  else if biased = 0 then
    .finite ⟨negative, fraction, -1074, false⟩
  else
    .finite ⟨negative, hiddenBit + fraction, (biased : Int) - 1075, fraction == 0 && 1 < biased⟩

/-- Numerator and denominator of `factor · 2 ^ exponent`. -/
def scaled (factor : Nat) (exponent : Int) : Nat × Nat :=
  (factor <<< exponent.toNat, 1 <<< (-exponent).toNat)

/-- The quotient rounded to the nearest natural number, a half going to the even one. -/
def roundQuotient (numerator denominator : Nat) : Nat :=
  let below := numerator / denominator
  let twice := 2 * (numerator % denominator)
  if twice < denominator then below
  else if denominator < twice then below + 1
  else below + below % 2

/--
The double nearest to a quotient of natural numbers.  The exponent is the one that leaves
fifty-three significant bits, or the least exponent there is.  A significand that rounds up to
the next power of two carries into the exponent field by itself.
-/
def nearest (numerator denominator : Nat) : Float :=
  if numerator = 0 then 0.0
  else
    let guess : Int := (numerator.log2 : Int) - (denominator.log2 : Int) - 53
    let significandAt (exponent : Int) : Nat × Nat :=
      (numerator <<< (-exponent).toNat, denominator <<< exponent.toNat)
    let (high, low) := significandAt guess
    let fitted := if high / low < 2 * hiddenBit then guess else guess + 1
    let exponent := max fitted (-1074)
    let (high, low) := significandAt exponent
    let bits := (exponent + 1074).toNat * hiddenBit + roundQuotient high low
    Float.ofBits (UInt64.ofNat (min bits (0x7FF * hiddenBit)))

/-- The number of decimal digits of a natural number. -/
def digitCount (number : Nat) : Nat :=
  (Nat.toDigits 10 number).length

/--
The double nearest to `digits · 10 ^ exponent`.  Numbers far beyond the range of doubles are told
by their number of digits, before any power of ten is computed.
-/
def nearestDecimal (digits : Nat) (exponent : Int) : Float :=
  let magnitude := (digitCount digits : Int) + exponent
  if digits = 0 ∨ magnitude < -400 then 0.0
  else if 400 < magnitude then Float.ofBits 0x7FF0000000000000
  else nearest (digits * Nat.pow 10 exponent.toNat) (Nat.pow 10 (-exponent).toNat)

/-- Whether a double is exactly the given integer. -/
def isInteger (number : Float) (integer : Int) : Bool :=
  match decode number with
  | .finite decoded =>
    let (numerator, denominator) := scaled decoded.significand decoded.exponent
    let signed : Int := if decoded.negative then -numerator else numerator
    signed == integer * denominator
  | _ => false

end DateGetters.Number
