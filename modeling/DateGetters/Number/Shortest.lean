import DateGetters.Number.Binary

/-!
# Shortest decimal text of a double

The digits of a double are the fewest that read back as the same number, and of those the nearest
to it.  Between two grids of decimals the coarser wins; on one grid only the two neighbours of the
number can lie in the interval of reals that round to it.

The digits are written positionally when the first of them stands for at least `10 ^ -4` and at
most `10 ^ 15`, with at least one digit after the point, and otherwise with an exponent of at
least two digits and its sign.
-/

namespace DateGetters.Number

/-- A decimal number `digits · 10 ^ exponent`. -/
structure Decimal where
  digits : Nat
  exponent : Int
deriving DecidableEq, Repr

namespace Decimal

/-- The same number without zeros at the end of its digits. -/
def trimZeros (decimal : Decimal) : Decimal :=
  let rec strip : (steps : Nat) → (digits : Nat) → (exponent : Int) → Decimal
    | 0, digits, exponent => ⟨digits, exponent⟩
    | steps + 1, digits, exponent =>
      if digits ≠ 0 ∧ digits % 10 = 0 then strip steps (digits / 10) (exponent + 1)
      else ⟨digits, exponent⟩
  strip (digitCount decimal.digits) decimal.digits decimal.exponent

end Decimal

/--
The interval of reals that round to a double, over one denominator: its ends, the double itself,
and whether the ends belong to it.
-/
structure Interval where
  low : Nat
  value : Nat
  high : Nat
  denominator : Nat
  closed : Bool

/-- The interval of reals that round to a decoded double. -/
def Decoded.interval (decoded : Decoded) : Interval :=
  let quarter := 4 * decoded.significand
  let (factor, denominator) := scaled 1 (decoded.exponent - 2)
  { low := (quarter - if decoded.atBoundary then 1 else 2) * factor
    value := quarter * factor
    high := (quarter + 2) * factor
    denominator := denominator
    closed := decoded.significand % 2 == 0 }

namespace Interval

/-- The power of ten that the first significant digit of the value stands for. -/
def leadingExponent (interval : Interval) : Int :=
  if interval.denominator ≤ interval.value then
    (digitCount (interval.value / interval.denominator) : Int) - 1
  else
    let ceiling := (interval.denominator + interval.value - 1) / interval.value
    Int.negOfNat (digitCount (ceiling - 1))

/-- The decimal on the grid of multiples of `10 ^ exponent` that lies in the interval and is
nearest to the value, a tie going to the even one. -/
def onGrid? (interval : Interval) (exponent : Int) : Option Decimal :=
  let up := Nat.pow 10 exponent.toNat * interval.denominator
  let down := Nat.pow 10 (-exponent).toNat
  let value := interval.value * down
  let inside (digits : Nat) : Bool :=
    let point := digits * up
    if interval.closed then
      interval.low * down ≤ point && point ≤ interval.high * down
    else
      interval.low * down < point && point < interval.high * down
  let below := value / up
  let above := below + 1
  match inside below, inside above with
  | false, false => none
  | true, false => some ⟨below, exponent⟩
  | false, true => some ⟨above, exponent⟩
  | true, true => some ⟨roundQuotient value up, exponent⟩

/-- The shortest decimal in the interval; seventeen digits always suffice. -/
def shortest (interval : Interval) : Decimal :=
  let leading := interval.leadingExponent
  let found := (List.range 17).findSome? fun (more : Nat) =>
    interval.onGrid? (leading - (more : Int))
  (found.getD ⟨0, 0⟩).trimZeros

end Interval

/-- Where positional notation ends, and how many digits an exponent has at least. -/
structure Layout where
  leastPositional : Int
  greatestPositional : Int
  exponentWidth : Nat

/-- Numbers from `10 ^ -4` to below `10 ^ 16` are positional; exponents have two digits. -/
def layout : Layout := ⟨-4, 15, 2⟩

def zeros (count : Nat) : List Char :=
  List.replicate count '0'

/-- A natural number with at least `width` digits. -/
def padded (width : Nat) (number : Nat) : List Char :=
  let digits := Nat.toDigits 10 number
  zeros (width - digits.length) ++ digits

def Decimal.chars (layout : Layout) (decimal : Decimal) : List Char :=
  let digits := Nat.toDigits 10 decimal.digits
  let leading : Int := decimal.exponent + (digits.length : Int) - 1
  if layout.leastPositional ≤ leading ∧ leading ≤ layout.greatestPositional then
    if leading < 0 then
      '0' :: '.' :: zeros (-leading - 1).toNat ++ digits
    else
      let whole := leading.toNat + 1
      let fraction := digits.drop whole
      digits.take whole ++ zeros (whole - digits.length) ++
        '.' :: (if fraction.isEmpty then ['0'] else fraction)
  else
    let fraction := digits.drop 1
    digits.take 1 ++ (if fraction.isEmpty then [] else '.' :: fraction) ++
      'e' :: (if leading < 0 then '-' else '+') :: padded layout.exponentWidth leading.natAbs

def text (number : Float) : String :=
  match decode number with
  | .notANumber => "nan"
  | .infinite negative => if negative then "-inf" else "inf"
  | .finite decoded =>
    let magnitude : Decimal :=
      if decoded.significand = 0 then ⟨0, 0⟩ else decoded.interval.shortest
    let sign := if decoded.negative then ['-'] else []
    String.ofList (sign ++ magnitude.chars layout)

end DateGetters.Number
