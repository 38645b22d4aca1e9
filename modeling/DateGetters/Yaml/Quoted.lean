import DateGetters.Text.Hexadecimal
import DateGetters.Yaml.Cursor

/-!
# Quoted scalars

A scalar in single quotes holds everything as it is, a single quote written twice.  In double
quotes a backslash begins an escape, which may stand for half of a surrogate pair.  White space at
line ends folds as in plain scalars, but the indentation does not matter; a line that begins with a
mark that separates documents is an error, and so is a missing closing quote.
-/

namespace DateGetters.Yaml.Quoted

/-- The character that a letter behind a backslash stands for. -/
def escaped? : Char → Option Char
  | '0' => some '\x00'
  | 'a' => some '\x07'
  | 'b' => some '\x08'
  | 't' => some '\t'
  | '\t' => some '\t'
  | 'n' => some '\n'
  | 'v' => some '\x0b'
  | 'f' => some '\x0c'
  | 'r' => some '\r'
  | 'e' => some '\x1b'
  | ' ' => some ' '
  | '"' => some '"'
  | '\\' => some '\\'
  | '/' => some '/'
  | 'N' => some '\x85'
  | '_' => some '\xa0'
  | 'L' => some '\u2028'
  | 'P' => some '\u2029'
  | _ => none

/-- The number of hexadecimal digits behind a letter that begins a numeric escape. -/
def digitCount? : Char → Option Nat
  | 'x' => some 2
  | 'u' => some 4
  | 'U' => some 8
  | _ => none

/-- The number that exactly so many hexadecimal digits denote. -/
def hexNumber (count : Nat) (cursor : Cursor) : Outcome Nat := do
  let digits := cursor.rest.take count
  match digits.foldlM (fun total digit => (Text.hexValue? digit).map (total * 16 + ·)) 0 with
  | none => throw .malformed
  | some number =>
    if (← cursor.window count).length = count then return number else throw .malformed

/-- The code point with a number.  Half a surrogate pair is one; a number beyond the last fails on
its own account. -/
def codeOf (number : Nat) : Outcome Nat :=
  if 0x10FFFF < number then .error (.noCharacter (0x7FFFFFFF < number)) else .ok number

/-- The line ends among white space and line ends. -/
def lineEnds : (steps : Nat) → Cursor → List Char → Outcome (List Char × Cursor)
  | 0, cursor, found => return (found, cursor)
  | steps + 1, cursor, found => do
    if ← cursor.atSeparator then throw .malformed
    else
      let afterWhite ← cursor.skipWhile isWhite
      match ← afterWhite.lineBreak? with
      | some (lineEnd, next) => lineEnds steps next (found ++ [lineEnd])
      | none => return (found, afterWhite)

/-- White space inside a quoted scalar: what it counts as and the position behind it. -/
def gap (cursor : Cursor) : Outcome (List Char × Cursor) := do
  let (white, afterWhite) ← cursor.span isWhite
  match ← afterWhite.lineBreak? with
  | none => return (white, afterWhite)
  | some (first, afterFirst) =>
    let (others, next) ← lineEnds (afterFirst.left + 1) afterFirst []
    let content :=
      if first != '\n' then first :: others
      else if others.isEmpty then [' '] else others
    return (content, next)

/-- The code points that a backslash and what follows it stand for, given the position behind the
backslash. -/
def escape (cursor : Cursor) : Outcome (List Nat × Cursor) :=
  match cursor.peek with
  | none => .error .malformed
  | some letter =>
    match escaped? letter with
    | some character => cursor.next.map fun next => ([character.toNat], next)
    | none =>
      match digitCount? letter with
      | some count => do
        let digits ← cursor.next
        let code ← codeOf (← hexNumber count digits)
        return ([code], ← digits.skip count)
      | none => do
        match ← cursor.lineBreak? with
        | some (_, next) =>
          let (found, next) ← lineEnds (next.left + 1) next []
          return (found.map Char.toNat, next)
        | none => throw .malformed

/-- Go on reading a quoted scalar; the code points so far are kept in reverse. -/
def readOn (double : Bool) : (steps : Nat) → Cursor → List Nat → Outcome (List Nat × Cursor)
  | 0, _, _ => throw .malformed
  | steps + 1, cursor, reversed => do
    match cursor.peek with
    | none => throw .malformed
    | some character =>
      if character = (if double then '"' else '\'') then
        let next ← cursor.next
        if !double && next.peek == some '\'' then
          readOn double steps (← next.next) ('\''.toNat :: reversed)
        else return (reversed.reverse, next)
      else if double && character == '\\' then
        let (found, next) ← escape (← cursor.next)
        readOn double steps next (found.reverseAux reversed)
      else if isWhite character || isBreak character then
        let (found, next) ← gap cursor
        readOn double steps next ((found.map Char.toNat).reverseAux reversed)
      else readOn double steps (← cursor.next) (character.toNat :: reversed)

/-- The quoted scalar whose opening quote is at a position. -/
def read (cursor : Cursor) : Outcome (List Nat × Cursor) := do
  readOn (cursor.peek == some '"') (cursor.left + 1) (← cursor.next) []

end DateGetters.Yaml.Quoted
