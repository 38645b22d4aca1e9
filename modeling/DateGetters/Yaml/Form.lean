import DateGetters.Calendar
import DateGetters.Text.Hexadecimal
import DateGetters.Text.Pieces
import DateGetters.Yaml.Tag

/-!
# Forms of scalars

A scalar without a tag is typed by its form: it is a flag, a decimal number, an integer, a null or
a date if it has the form of one, and a text otherwise.  Two forms have a meaning of their own as
keys: `<<` merges another mapping, and `=` stands for the value as a whole.  A mark that stands
alone where a tag, an anchor or an alias could begin is of no known type.  One line feed at the end
does not count.
-/

namespace DateGetters.Yaml

namespace Form

/-- Whether a character is a digit of a number or an underscore between digits. -/
def isDigitOr (digits : Char → Bool) (character : Char) : Bool :=
  digits character || character == '_'

/-- Whether there are characters and all have a property. -/
def someAll (property : Char → Bool) (characters : List Char) : Bool :=
  !characters.isEmpty && characters.all property

/-- A run of digits and underscores that begins with a digit. -/
def isNumeral (characters : List Char) : Bool :=
  match characters with
  | first :: rest => first.isDigit && rest.all (isDigitOr Char.isDigit)
  | [] => false

/-- What follows an optional sign. -/
def unsigned : List Char → List Char
  | '-' :: rest => rest
  | '+' :: rest => rest
  | characters => characters

/-- One digit, or two of which the first is below six. -/
def isSixtieth : List Char → Bool
  | [digit] => digit.isDigit
  | [first, second] => first.isDigit && first.toNat < 0x36 && second.isDigit
  | _ => false

/-- A numeral and, behind colons, at least one number below sixty. -/
def isSexagesimal (characters : List Char) : Bool :=
  match Text.pieces ':' characters with
  | first :: second :: others => isNumeral first && (second :: others).all isSixtieth
  | _ => false

/-- The parts before and after the first point, if there is one. -/
def atPoint? (characters : List Char) : Option (List Char × List Char) :=
  let before := characters.takeWhile (· != '.')
  match characters.drop before.length with
  | _ :: after => some (before, after)
  | [] => none

/-- Nothing, or an exponent: `e`, a sign and digits. -/
def isExponent : List Char → Bool
  | [] => true
  | mark :: sign :: digits =>
    (mark == 'e' || mark == 'E') && (sign == '-' || sign == '+') && someAll Char.isDigit digits
  | _ => false

/-- Digits and underscores, and an exponent behind them. -/
def isFraction (characters : List Char) : Bool :=
  isExponent (characters.dropWhile (isDigitOr Char.isDigit))

def isFlag (content : String) : Bool :=
  ["yes", "Yes", "YES", "no", "No", "NO", "true", "True", "TRUE", "false", "False", "FALSE",
    "on", "On", "ON", "off", "Off", "OFF"].contains content

def isNull (content : String) : Bool :=
  ["", "~", "null", "Null", "NULL"].contains content

/-- The form of a mark with which a tag, an anchor or an alias begins. -/
def isMark (content : String) : Bool :=
  ["!", "&", "*"].contains content

/-- The form of an integer: binary, octal, decimal, hexadecimal or sexagesimal. -/
def isInteger (characters : List Char) : Bool :=
  let magnitude := unsigned characters
  let octal (digit : Char) := '0' ≤ digit && digit ≤ '7'
  (match magnitude with
    | ['0'] => true
    | '0' :: 'b' :: digits => someAll (isDigitOr fun digit => digit == '0' || digit == '1') digits
    | '0' :: 'x' :: digits => someAll (isDigitOr fun digit => (Text.hexValue? digit).isSome) digits
    | '0' :: digits => someAll (isDigitOr octal) digits
    | digits => isNumeral digits) ||
  (magnitude.head? != some '0' && isSexagesimal magnitude)

/-- The form of a decimal number.  It has a point, and an exponent has a sign. -/
def isDecimal (characters : List Char) : Bool :=
  let magnitude := unsigned characters
  (match atPoint? magnitude with
    | some ([], after) => ["inf".toList, "Inf".toList, "INF".toList].contains after
    | some (before, after) =>
      (isNumeral before && isFraction after) ||
        (isSexagesimal before && after.all (isDigitOr Char.isDigit))
    | none => false) ||
  (match characters with
    | '.' :: after =>
      (after.head?.any Char.isDigit && isFraction after) ||
        ["nan".toList, "NaN".toList, "NAN".toList].contains after
    | _ => false)

/-! ### Dates and moments -/

/-- Between so many digits in front, as a number, how many they are, and what follows. -/
def digits? (least greatest : Nat) (characters : List Char) : Option (Nat × Nat × List Char) :=
  let run := (characters.take greatest).takeWhile Char.isDigit
  if least ≤ run.length then
    some (run.foldl (fun total digit => total * 10 + (digit.toNat - 0x30)) 0, run.length,
      characters.drop run.length)
  else none

/-- What follows a character, if it is in front. -/
def after? (expected : Char) : List Char → Option (List Char)
  | character :: rest => if character = expected then some rest else none
  | [] => none

/-- An offset from universal time in minutes, which may be absent. -/
def offset? (characters : List Char) : Option (Option Int) :=
  match characters with
  | [] => some none
  | _ =>
    match characters.dropWhile fun character => character == ' ' || character == '\t' with
    | ['Z'] => some (some 0)
    | sign :: rest => do
      guard (sign = '-' ∨ sign = '+')
      let (hours, _, afterHours) ← digits? 1 2 rest
      let minutes ←
        match afterHours with
        | [] => some 0
        | ':' :: afterColon => do
          let (minutes, _, afterMinutes) ← digits? 2 2 afterColon
          guard afterMinutes.isEmpty
          some minutes
        | _ => none
      let total : Int := (hours * 60 + minutes : Nat)
      return some (if sign = '-' then -total else total)
    | [] => none

/-- The first six digits of a fraction of a second, as microseconds. -/
def microseconds (digits : List Char) : Nat :=
  let first := digits.take 6
  (first ++ List.replicate (6 - first.length) '0').foldl
    (fun total digit => total * 10 + (digit.toNat - 0x30)) 0

/-- A date, or a date and a time of day, as it is written. -/
structure WrittenMoment where
  moment : Moment
  hasTime : Bool
  /-- Whether month and day have two digits each. -/
  padded : Bool

/-- What follows the letter or the white space between a date and a time. -/
def afterDate? (characters : List Char) : Option (List Char) :=
  match characters with
  | 'T' :: rest | 't' :: rest => some rest
  | _ =>
    let rest := characters.dropWhile fun character => character == ' ' || character == '\t'
    if rest.length < characters.length then some rest else none

/-- The time of day and the offset behind a date. -/
def time? (date : Date) (padded : Bool) (characters : List Char) : Option WrittenMoment := do
  let (hour, _, afterHour) ← digits? 1 2 characters
  let (minute, _, afterMinute) ← digits? 2 2 (← after? ':' afterHour)
  let (second, _, afterSecond) ← digits? 2 2 (← after? ':' afterMinute)
  let (fraction, afterFraction) :=
    match afterSecond with
    | '.' :: rest => (rest.takeWhile Char.isDigit, rest.dropWhile Char.isDigit)
    | rest => ([], rest)
  let offset ← offset? afterFraction
  return ⟨⟨date, hour, minute, second, microseconds fraction, offset⟩, true, padded⟩

/-- Read a date or a moment. -/
def writtenMoment? (characters : List Char) : Option WrittenMoment := do
  let (year, _, afterYear) ← digits? 4 4 characters
  let (month, monthDigits, afterMonth) ← digits? 1 2 (← after? '-' afterYear)
  let (day, dayDigits, afterDay) ← digits? 1 2 (← after? '-' afterMonth)
  let date : Date := ⟨year, month, day⟩
  let padded := monthDigits == 2 && dayDigits == 2
  if afterDay.isEmpty then return ⟨⟨date, 0, 0, 0, 0, none⟩, false, padded⟩
  else time? date padded (← afterDate? afterDay)

/-- The form of a date or a moment: month and day of a date alone have two digits each. -/
def isMoment (characters : List Char) : Bool :=
  match writtenMoment? characters with
  | some written => written.hasTime || written.padded
  | none => false

/-! ### The type by the form -/

/-- A text without the line feed at its end, if it ends with one and holds something else. -/
def withoutFeed (characters : List Char) : List Char :=
  if characters.getLast? = some '\n' ∧ characters ≠ ['\n'] then characters.dropLast
  else characters

end Form

/-- The type of a scalar by its form. -/
def Tag.ofForm (characters : List Char) : Tag :=
  let characters := Form.withoutFeed characters
  let content := String.ofList characters
  if Form.isFlag content then flag
  else if Form.isDecimal characters then decimal
  else if Form.isInteger characters then integer
  else if content = "<<" then merge
  else if Form.isNull content then null
  else if Form.isMoment characters then moment
  else if content = "=" then value
  else if Form.isMark content then unknown
  else text

end DateGetters.Yaml
