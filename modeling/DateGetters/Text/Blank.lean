/-!
# Blank characters and trimming

A character is blank when it is white space or separates lines or paragraphs.  Besides the blanks
of ASCII this includes the four information separators `U+001C` to `U+001F`, the next-line
control, and the spaces of every width.  The zero-width space, the byte order mark and the
Mongolian vowel separator are not blank.

`trim` removes the blanks at both ends of a text and touches nothing between them.
-/

namespace DateGetters.Text

/-- Whether a character is white space or a separator of lines or paragraphs. -/
def isBlank (character : Char) : Bool :=
  let code := character.toNat
  (0x09 ≤ code && code ≤ 0x0D) || (0x1C ≤ code && code ≤ 0x20) ||
    code == 0x85 || code == 0xA0 || code == 0x1680 ||
    (0x2000 ≤ code && code ≤ 0x200A) || code == 0x2028 || code == 0x2029 ||
    code == 0x202F || code == 0x205F || code == 0x3000

/-- The characters that remain once the blanks at the front are dropped. -/
def trimFront (characters : List Char) : List Char :=
  characters.dropWhile isBlank

/-- The characters that remain once the blanks at both ends are dropped. -/
def trimChars (characters : List Char) : List Char :=
  (trimFront (trimFront characters).reverse).reverse

/-- A text without the blanks at its ends. -/
def trim (text : String) : String :=
  String.ofList (trimChars text.toList)

@[simp]
theorem toList_trim (text : String) : (trim text).toList = trimChars text.toList := by
  simp [trim]

end DateGetters.Text
