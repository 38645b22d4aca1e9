import DateGetters.Text.Codes
import DateGetters.Text.Hexadecimal

/-!
# String literals in plain ASCII

A text written as a string literal that holds nothing but the characters from the space to the
tilde.  It stands between double quotes; a double quote and a backslash are escaped by a
backslash, five control characters by a letter, and every other character outside that range by
`\u` and four hexadecimal digits for each of its UTF-16 units, of which a character beyond the
basic plane has two.  A text with half of a surrogate pair is written from its code points; the
half is escaped as the unit that it is.

`literalCodes?` reads a literal as code points.  It takes each `\u` escape for the one code point
with that number and pairs no surrogates, so a text of the basic plane is read back as it was.
-/

namespace DateGetters.Text

/-- The UTF-16 units of a character: one in the basic plane, two beyond it. -/
def utf16Units (character : Char) : List Nat :=
  let code := character.toNat
  if code < 0x10000 then [code]
  else [0xD800 + (code - 0x10000) / 0x400, 0xDC00 + (code - 0x10000) % 0x400]

def unitEscape (unit : Nat) : List Char :=
  '\\' :: 'u' :: hexDigits 4 unit

/-- The letter that escapes a control character, if it has one. -/
def controlLetter? : Char → Option Char
  | '\n' => some 'n'
  | '\r' => some 'r'
  | '\t' => some 't'
  | '\x08' => some 'b'
  | '\x0c' => some 'f'
  | _ => none

def literalChar (character : Char) : List Char :=
  if character = '"' ∨ character = '\\' then ['\\', character]
  else
    match controlLetter? character with
    | some letter => ['\\', letter]
    | none =>
      if 0x20 ≤ character.toNat ∧ character.toNat ≤ 0x7E then [character]
      else (utf16Units character).flatMap unitEscape

/-- The characters of a literal, quotes included. -/
def literalOf (characters : List Char) : List Char :=
  '"' :: characters.flatMap literalChar ++ ['"']

def literal (text : String) : String :=
  String.ofList (literalOf text.toList)

/-- What a code point is written as in a literal. -/
def literalCode (code : Nat) : List Char :=
  if isCharacter code then literalChar (Char.ofNat code) else unitEscape code

/-- The literal of a text that is given by its code points. -/
def literalOfCodes (codes : List Nat) : String :=
  String.ofList ('"' :: codes.flatMap literalCode ++ ['"'])

theorem literalCode_toNat (character : Char) :
    literalCode character.toNat = literalChar character := by
  rw [literalCode, isCharacter_toNat, if_pos rfl, Char.ofNat_toNat]

/-- The code points of a text are written as the text is. -/
theorem literalOfCodes_codes (text : String) : literalOfCodes (codes text) = literal text := by
  simp [literalOfCodes, literal, literalOf, codes, List.flatMap_map, literalCode_toNat]

/-! ### Reading a literal -/

/-- The control character, quote or backslash that a letter after a backslash stands for. -/
def escapedBy? : Char → Option Char
  | '"' => some '"'
  | '\\' => some '\\'
  | 'n' => some '\n'
  | 'r' => some '\r'
  | 't' => some '\t'
  | 'b' => some '\x08'
  | 'f' => some '\x0c'
  | _ => none

/-- The number that four hexadecimal digits denote. -/
def hexValue4? (first second third fourth : Char) : Option Nat := do
  let a ← hexValue? first
  let b ← hexValue? second
  let c ← hexValue? third
  let d ← hexValue? fourth
  return ((a * 16 + b) * 16 + c) * 16 + d

/--
The code points denoted by what follows the opening quote, up to the closing quote, which must be
the last character.  A `\u` escape denotes the one code point with that number, so half a
surrogate pair is a code point too.
-/
def readLiteral? : List Char → Option (List Nat)
  | [] => none
  | ['"'] => some []
  | '"' :: _ => none
  | '\\' :: 'u' :: first :: second :: third :: fourth :: rest => do
    let code ← hexValue4? first second third fourth
    let codes ← readLiteral? rest
    return code :: codes
  | '\\' :: letter :: rest => do
    let character ← escapedBy? letter
    let codes ← readLiteral? rest
    return character.toNat :: codes
  | character :: rest =>
    if character = '\\' then none
    else do
      let codes ← readLiteral? rest
      return character.toNat :: codes

/-- The code points that a literal denotes. -/
def literalCodes? : List Char → Option (List Nat)
  | '"' :: rest => readLiteral? rest
  | _ => none

end DateGetters.Text
