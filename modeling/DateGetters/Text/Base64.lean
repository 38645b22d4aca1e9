/-!
# Bytes in base sixty-four

Four digits of base sixty-four hold three bytes.  Reading is lenient: characters that are no digits
are passed over.  Equals signs fill the last four up; where they complete it the text ends, whatever
follows.  The last four must be complete, with two digits at least.
-/

namespace DateGetters.Text

/-- The digit of base sixty-four that a character is. -/
def base64Digit? (character : Char) : Option Nat :=
  if character.isUpper then some (character.toNat - 0x41)
  else if character.isLower then some (character.toNat - 0x61 + 26)
  else if character.isDigit then some (character.toNat - 0x30 + 52)
  else if character = '+' then some 62
  else if character = '/' then some 63
  else none

/-- The bytes that are complete in one to four digits. -/
def base64Bytes : List Nat → List UInt8
  | [first, second] => [UInt8.ofNat (first * 4 + second / 16)]
  | [first, second, third] =>
    [UInt8.ofNat (first * 4 + second / 16), UInt8.ofNat (second % 16 * 16 + third / 4)]
  | [first, second, third, fourth] =>
    [UInt8.ofNat (first * 4 + second / 16), UInt8.ofNat (second % 16 * 16 + third / 4),
      UInt8.ofNat (third % 4 * 64 + fourth)]
  | _ => []

/-- The bytes in what remains of a text, given the digits of the four that is begun and how many
equals signs stand behind them. -/
def base64From (digits : List Nat) (signs : Nat) : List Char → Option (List UInt8)
  | [] => if digits.isEmpty then some [] else none
  | character :: rest =>
    if character = '=' then
      if 2 ≤ digits.length then
        if 4 ≤ digits.length + signs + 1 then some (base64Bytes digits)
        else base64From digits (signs + 1) rest
      else base64From digits signs rest
    else
      match base64Digit? character with
      | none => base64From digits signs rest
      | some digit =>
        let digits := digits ++ [digit]
        if digits.length = 4 then (base64From [] 0 rest).map (base64Bytes digits ++ ·)
        else base64From digits 0 rest

/-- The bytes that a text holds in base sixty-four. -/
def base64? (characters : List Char) : Option (List UInt8) :=
  base64From [] 0 characters

end DateGetters.Text
