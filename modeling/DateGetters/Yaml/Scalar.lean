import DateGetters.Fault
import DateGetters.Number.Reading
import DateGetters.Text.Base64
import DateGetters.Text.Lower
import DateGetters.Yaml.Form

/-!
# Values of scalars

`Tag.read` reads a scalar as a value of its type.  A scalar is given by its code points, because an
escape may have put half of a surrogate pair into it; a text may hold one, and nothing else may.
A fault names the part of the scalar that could not be read.
-/

namespace DateGetters.Yaml

namespace Scalar

/-- What follows a text, if it is in front. -/
def behind? (front : String) (codes : List Nat) : Option (List Nat) :=
  let expected := Text.codes front
  if expected.isPrefixOf codes then some (codes.drop expected.length) else none

/-- Code points without underscores. -/
def withoutUnderscores (codes : List Nat) : List Nat :=
  codes.filter (· != '_'.toNat)

/-- The sign in front of a number, which must not be empty, and what follows it. -/
def signed (codes : List Nat) : Outcome (Bool × List Nat) :=
  if codes.isEmpty then .error .emptyNumber
  else
    match behind? "-" codes, behind? "+" codes with
    | some rest, _ => .ok (true, rest)
    | none, some rest => .ok (false, rest)
    | none, none => .ok (false, codes)

/-! ### Integers -/

/-- The number of digits with which an integer in base ten begins. -/
def leadingDigits (codes : List Nat) : Nat :=
  let characters := (codes.map Text.shownAlone).dropWhile Number.isPadding
  (Number.spanDigits (Number.signed characters).2).1.length

/-- An integer in a base.  In base ten it must not begin with too many digits. -/
def integerIn (base : Nat) (codes : List Nat) : Outcome Int :=
  let digits := leadingDigits codes
  if base = 10 ∧ Value.digitLimit < digits then .error (.tooManyDigits (some digits))
  else
    match (Text.ofCodes? codes).bind (Number.readInteger? base) with
    | some number => .ok number
    | none => .error (.notInteger base codes)

/-- The number whose digits of base sixty are given, the first one first. -/
def inSixties (digits : List Int) : Int :=
  digits.foldl (fun total digit => total * 60 + digit) 0

/-- The magnitude of an integer, by the form it is written in. -/
def magnitude (codes : List Nat) : Outcome Int :=
  if codes.isEmpty then .error .emptyNumber
  else if codes = Text.codes "0" then .ok 0
  else
    match behind? "0b" codes, behind? "0x" codes, behind? "0" codes with
    | some digits, _, _ => integerIn 2 digits
    | none, some digits, _ => integerIn 16 digits
    | none, none, some _ => integerIn 8 codes
    | none, none, none =>
      if codes.contains ':'.toNat then
        ((Text.pieces ':'.toNat codes).mapM (integerIn 10)).map inSixties
      else integerIn 10 codes

def readInteger (codes : List Nat) : Outcome Value := do
  let (negative, rest) ← signed (withoutUnderscores codes)
  let number ← magnitude rest
  return .integer (if negative then -number else number)

/-! ### Decimal numbers -/

/-- A part of a decimal number. -/
def decimalPart (codes : List Nat) : Outcome Float :=
  match (Text.ofCodes? codes).bind Number.readDecimal? with
  | some number => .ok number
  | none => .error (.notDecimal codes)

/-- The sum of the parts of a decimal number in base sixty, the last one first; `base` is what the
next part counts for. -/
def sumSixties (total : Float) (base : Nat) : List Float → Outcome Float
  | [] => .ok total
  | digit :: others =>
    let factor := Number.nearest base 1
    if factor.isInf then .error .integerTooLarge
    else sumSixties (total + digit * factor) (base * 60) others

/-- The magnitude of a decimal number, written in small letters. -/
def decimalMagnitude (codes : List Nat) : Outcome Float :=
  if codes = Text.codes ".inf" then .ok (Float.ofBits 0x7FF0000000000000)
  else if codes = Text.codes ".nan" then .ok (Float.ofBits 0x7FF8000000000000)
  else if codes.contains ':'.toNat then do
    let parts ← (Text.pieces ':'.toNat codes).mapM decimalPart
    sumSixties 0.0 1 parts.reverse
  else decimalPart codes

/-- The sign of a decimal number, and what follows it in small letters. -/
def signedDecimal (codes : List Nat) : Outcome (Bool × List Nat) :=
  signed (Text.lower (withoutUnderscores codes))

def readDecimal (codes : List Nat) : Outcome Value := do
  let (negative, rest) ← signedDecimal codes
  let number ← decimalMagnitude rest
  return .decimal (if negative then -number else number)

/-- Whether a decimal number is the one value that is not a number, called by the name it has in
documents. -/
def isNamedNaN (codes : List Nat) : Bool :=
  match signedDecimal codes with
  | .ok (_, rest) => rest = Text.codes ".nan"
  | .error _ => false

/-! ### Other types -/

def readFlag (codes : List Nat) : Outcome Value :=
  let small := Text.lower codes
  match Text.ofCodes? small with
  | some "yes" | some "true" | some "on" => .ok (.bool true)
  | some "no" | some "false" | some "off" => .ok (.bool false)
  | _ => .error (.notFlag small)

/-- Read bytes in base sixty-four, written in ASCII. -/
def readBytes (codes : List Nat) : Outcome Value :=
  if codes.all (· < 0x80) then
    match Text.base64? (codes.map Char.ofNat) with
    | some bytes => .ok (.bytes bytes)
    | none => .error .malformed
  else .error .malformed

/-- The date or moment that is written, which must exist. -/
def existing (written : Form.WrittenMoment) : Outcome Value :=
  if written.hasTime then
    match written.moment.fault? with
    | some fault => .error (.calendar fault)
    | none => .ok (.moment written.moment)
  else
    match written.moment.date.fault? with
    | some fault => .error (.calendar fault)
    | none => .ok (.date written.moment.date)

/-- Read a date or a moment.  One line feed at its end does not count. -/
def readMoment (codes : List Nat) : Outcome Value :=
  match (Text.ofCodes? codes).bind fun content =>
      Form.writtenMoment? (Form.withoutFeed content.toList) with
  | none => .error (.noOperation Value.null.kindName "groupdict")
  | some written => existing written

end Scalar

namespace Tag

/-- The type of a scalar by its form, given its code points. -/
def ofCodes (codes : List Nat) : Tag :=
  match Text.ofCodes? codes with
  | some content => ofForm content.toList
  | none => text

def read (codes : List Nat) : Tag → Outcome Value
  | text => .ok (.ofCodes codes)
  | integer => Scalar.readInteger codes
  | decimal => Scalar.readDecimal codes
  | flag => Scalar.readFlag codes
  | null => .ok .null
  | moment => Scalar.readMoment codes
  | bytes => Scalar.readBytes codes
  | merge | value | sequence | mapping | set | pairs | unknown => .error .malformed

end Tag

end DateGetters.Yaml
