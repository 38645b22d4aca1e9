import DateGetters.Number.Binary
import DateGetters.Text.Blank
import DateGetters.Text.Digits

/-!
# Reading numbers

Integers in a base from two to thirty-six and decimal numbers, as they are written in text.
Blanks around a number are skipped, except the information separators; a sign may stand in front;
digits may come from any script.
-/

namespace DateGetters.Number

open DateGetters.Text

/-- Whether a character may stand around a number. -/
def isPadding (character : Char) : Bool :=
  isBlank character && !(0x1C ≤ character.toNat && character.toNat ≤ 0x1F)

/-- The characters between the padding at both ends. -/
def unpadded (characters : List Char) : List Char :=
  ((characters.dropWhile isPadding).reverse.dropWhile isPadding).reverse

/-- A sign in front, and what follows it. -/
def signed : List Char → Bool × List Char
  | '-' :: rest => (true, rest)
  | '+' :: rest => (false, rest)
  | characters => (false, characters)

def digitIn? (base : Nat) (character : Char) : Option Nat := do
  let digit ← (decimalDigit? character).or (letterDigit? character)
  guard (digit < base)
  return digit

/-- The number that a non-empty run of digits denotes. -/
def digitsValue? (base : Nat) (characters : List Char) : Option Nat :=
  if characters.isEmpty then none
  else
    characters.foldlM
      (fun total character => (digitIn? base character).map (total * base + ·)) 0

/-- What follows the mark that may announce the base, such as `0x` for base sixteen. -/
def afterBaseMark (base : Nat) : List Char → List Char
  | '0' :: mark :: rest =>
    let announced :=
      match mark with
      | 'x' | 'X' => base == 16
      | 'o' | 'O' => base == 8
      | 'b' | 'B' => base == 2
      | _ => false
    if announced then rest else '0' :: mark :: rest
  | characters => characters

/-- The integer that a text denotes in a base. -/
def readInteger? (base : Nat) (text : String) : Option Int :=
  let (negative, unsigned) := signed (unpadded text.toList)
  (digitsValue? base (afterBaseMark base unsigned)).map fun magnitude =>
    if negative then -(magnitude : Int) else magnitude

/-- The longest run of decimal digits in front, and what follows it. -/
def spanDigits (characters : List Char) : List Nat × List Char :=
  match characters with
  | [] => ([], [])
  | character :: rest =>
    match decimalDigit? character with
    | some digit =>
      let (digits, after) := spanDigits rest
      (digit :: digits, after)
    | none => ([], character :: rest)

/-- The number that a list of decimal digits denotes. -/
def ofDigits (digits : List Nat) : Nat :=
  digits.foldl (fun total digit => total * 10 + digit) 0

/-- An exponent part, which may be absent: `e`, an optional sign, and digits to the end. -/
def readExponent? : List Char → Option Int
  | [] => some 0
  | mark :: rest => do
    guard (mark = 'e' ∨ mark = 'E')
    let (negative, unsigned) := signed rest
    let (digits, after) := spanDigits unsigned
    guard (!digits.isEmpty && after.isEmpty)
    return if negative then -(ofDigits digits : Int) else ofDigits digits

/-- The names of infinity and of the value that is not a number, in any case. -/
def namedNumber? (characters : List Char) : Option Float :=
  match String.ofList (characters.map Char.toLower) with
  | "inf" | "infinity" => some (Float.ofBits 0x7FF0000000000000)
  | "nan" => some (Float.ofBits 0x7FF8000000000000)
  | _ => none

/-- A decimal number without a sign. -/
def readMagnitude? (characters : List Char) : Option Float :=
  (namedNumber? characters).or do
    let (whole, afterWhole) := spanDigits characters
    let (fraction, afterFraction) :=
      match afterWhole with
      | '.' :: rest => spanDigits rest
      | rest => ([], rest)
    guard (!(whole.isEmpty && fraction.isEmpty))
    let exponent ← readExponent? afterFraction
    return nearestDecimal (ofDigits (whole ++ fraction)) (exponent - (fraction.length : Int))

/-- The double nearest to the decimal number that a text denotes. -/
def readDecimal? (text : String) : Option Float :=
  let (negative, unsigned) := signed (unpadded text.toList)
  (readMagnitude? unsigned).map fun magnitude => if negative then -magnitude else magnitude

end DateGetters.Number
