import DateGetters.Text.Codes
import DateGetters.Text.Hexadecimal
import DateGetters.Text.Printable

/-!
# Quoted texts

The form in which a text stands inside a written list or mapping, and in messages that quote it.
It is put between single quotes, or between double quotes if it holds a single quote and no double
one.  A backslash, the quote in use, tab, line feed and carriage return are escaped by a letter,
and every other character that does not show as itself by its code point.  Half of a surrogate pair
is escaped like a character that does not show.

Bytes are quoted by the same rules as the characters of ASCII, with a letter in front.
-/

namespace DateGetters.Text

/-- The quote that needs fewer escapes: single unless only the double one is absent. -/
def quoteMark (characters : List Char) : Char :=
  if '\'' ∈ characters ∧ '"' ∉ characters then '"' else '\''

/-- One character as it stands between the given quotes. -/
def quotedChar (mark : Char) (character : Char) : List Char :=
  if character = mark ∨ character = '\\' then ['\\', character]
  else if character = '\n' then ['\\', 'n']
  else if character = '\r' then ['\\', 'r']
  else if character = '\t' then ['\\', 't']
  else if isPrintable character then [character]
  else
    let code := character.toNat
    if code < 0x100 then '\\' :: 'x' :: hexDigits 2 code
    else if code < 0x10000 then '\\' :: 'u' :: hexDigits 4 code
    else '\\' :: 'U' :: hexDigits 8 code

def quoted (text : String) : String :=
  let characters := text.toList
  let mark := quoteMark characters
  String.ofList (mark :: characters.flatMap (quotedChar mark) ++ [mark])

/-- One code point as it stands between the given quotes. -/
def quotedCode (mark : Char) (code : Nat) : List Char :=
  if isCharacter code then quotedChar mark (Char.ofNat code) else '\\' :: 'u' :: hexDigits 4 code

/-- Code points between quotes. -/
def quotedCodes (codes : List Nat) : String :=
  let mark := quoteMark (codes.map shownAlone)
  String.ofList (mark :: codes.flatMap (quotedCode mark) ++ [mark])

/-- One byte as it stands between the given quotes. -/
def quotedByte (mark : Char) (byte : UInt8) : List Char :=
  if byte < 0x80 then quotedChar mark (Char.ofNat byte.toNat)
  else '\\' :: 'x' :: hexDigits 2 byte.toNat

def quotedBytes (bytes : List UInt8) : String :=
  let mark := quoteMark (bytes.map fun byte => Char.ofNat byte.toNat)
  String.ofList ('b' :: mark :: bytes.flatMap (quotedByte mark) ++ [mark])

end DateGetters.Text
