/-!
# Decimal digits

Every script with decimal digits has them in one run from zero to nine.  `decimalDigit?` is the
value of a digit of any script.
-/

namespace DateGetters.Text

/-- The code points of the digit zero in each script. -/
def zeroDigits : List Nat := [
  48, 1632, 1776, 1984, 2406, 2534, 2662, 2790, 2918, 3046, 3174, 3302, 3430, 3558, 3664, 3792,
  3872, 4160, 4240, 6112, 6160, 6470, 6608, 6784, 6800, 6992, 7088, 7232, 7248, 42528, 43216, 43264,
  43472, 43504, 43600, 44016, 65296, 66720, 68912, 69734, 69872, 69942, 70096, 70384, 70736, 70864,
  71248, 71360, 71472, 71904, 72016, 72784, 73040, 73120, 92768, 92864, 93008, 120782, 120792,
  120802, 120812, 120822, 123200, 123632, 125264, 130032]

/-- The value of a decimal digit of any script. -/
def decimalDigit? (character : Char) : Option Nat :=
  let code := character.toNat
  (zeroDigits.find? fun first => first ≤ code && code ≤ first + 9).map (code - ·)

/-- The value of an ASCII digit or letter read as a digit of base thirty-six. -/
def letterDigit? (character : Char) : Option Nat :=
  let code := character.toNat
  if 0x30 ≤ code && code ≤ 0x39 then some (code - 0x30)
  else if 0x61 ≤ code && code ≤ 0x7A then some (code - 0x61 + 10)
  else if 0x41 ≤ code && code ≤ 0x5A then some (code - 0x41 + 10)
  else none

end DateGetters.Text
