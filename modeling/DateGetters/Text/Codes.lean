/-!
# Code points

An escape can write half of a surrogate pair as if it were a character.  A text with such a half is
no `String`; it is kept as the list of its code points.  `ofCodes?` is the text of code points that
are characters one and all, and `mended` is what shows of any list of code points.
-/

namespace DateGetters.Text

/-- Whether a code point is a character and not half of a surrogate pair. -/
def isCharacter (code : Nat) : Bool :=
  code < 0xD800 || (0xDFFF < code && code ≤ 0x10FFFF)

/-- The code points of a text. -/
def codes (text : String) : List Nat :=
  text.toList.map Char.toNat

/-- The text of code points that are all characters. -/
def ofCodes? (codes : List Nat) : Option String :=
  if codes.all isCharacter then some (String.ofList (codes.map Char.ofNat)) else none

/-- Whether a code point is the first half of a surrogate pair. -/
def isHighHalf (code : Nat) : Bool :=
  0xD800 ≤ code && code < 0xDC00

/-- Whether a code point is the second half of a surrogate pair. -/
def isLowHalf (code : Nat) : Bool :=
  0xDC00 ≤ code && code < 0xE000

/-- The character of a code point; half a pair alone shows as the replacement character. -/
def shownAlone (code : Nat) : Char :=
  if isCharacter code then Char.ofNat code else '\uFFFD'

/-- The characters that code points show as: two halves that meet are one character. -/
def mended : List Nat → List Char
  | high :: low :: rest =>
    if isHighHalf high && isLowHalf low then
      Char.ofNat (0x10000 + (high - 0xD800) * 0x400 + (low - 0xDC00)) :: mended rest
    else shownAlone high :: mended (low :: rest)
  | [code] => [shownAlone code]
  | [] => []

theorem isCharacter_toNat (character : Char) : isCharacter character.toNat = true := by
  have valid := character.valid
  simp only [UInt32.isValidChar, Nat.isValidChar] at valid
  simp only [isCharacter, Char.toNat, Bool.or_eq_true, Bool.and_eq_true, decide_eq_true_eq]
  omega

end DateGetters.Text
