import DateGetters.Yaml.Source
import DateGetters.Yaml.Token

/-!
# Positions in a document

A cursor is what remains of a document, together with the number of characters that remain and the
line and column at which it stands.  A byte order mark takes no column.

A cursor stands on a character that has been read or at the end of the document.  So whatever moves
it, or looks further ahead, fails where the document cannot be read so far.
-/

namespace DateGetters.Yaml

/-- A position in a document. -/
structure Cursor where
  rest : List Char
  /-- The number of characters that remain. -/
  left : Nat
  line : Nat
  column : Nat
  /-- What stands behind the characters that remain, if not the end of the document. -/
  ending : Option Fault

namespace Cursor

/-- The position itself, which must have been read. -/
def reached (cursor : Cursor) : Outcome Cursor :=
  match cursor.rest, cursor.ending with
  | [], some fault => .error fault
  | _, _ => .ok cursor

/-- The position at the beginning of a document. -/
def start (source : Source) : Outcome Cursor :=
  reached ⟨source.characters, source.characters.length, 0, 0, source.ending⟩

/-! ### Looking ahead -/

/-- The next character; there is none at the end. -/
def peek (cursor : Cursor) : Option Char :=
  cursor.rest.head?

/-- The character so many places further on; there is none behind the end. -/
def peekAt (cursor : Cursor) (places : Nat) : Outcome (Option Char) :=
  match cursor.rest[places]?, cursor.ending with
  | some character, _ => .ok (some character)
  | none, none => .ok none
  | none, some fault => .error fault

/-- The next characters, so many unless the document ends before. -/
def window (cursor : Cursor) (count : Nat) : Outcome (List Char) :=
  let characters := cursor.rest.take count
  match cursor.ending with
  | none => .ok characters
  | some fault => if characters.length < count then .error fault else .ok characters

/-- Whether the next character has a property; there is none at the end. -/
def nextIs (property : Char → Bool) (cursor : Cursor) : Bool :=
  cursor.peek.any property

def atLineEnd (cursor : Cursor) : Bool :=
  match cursor.peek with
  | none => true
  | some character => isBreak character

/-- Whether a mark of three characters stands here as a word. -/
def atMark (mark : Char) (cursor : Cursor) : Outcome Bool := do
  if (← cursor.window 3) = [mark, mark, mark] then return endsWord (← cursor.peekAt 3)
  else return false

/-- Whether a mark that separates documents stands here. -/
def atSeparator (cursor : Cursor) : Outcome Bool := do
  if ← cursor.atMark '-' then return true else cursor.atMark '.'

/-! ### Moving -/

/-- The position behind the next character, read or not. -/
def advance (cursor : Cursor) : Cursor :=
  match cursor.rest with
  | [] => cursor
  | character :: rest =>
    let moved := { cursor with rest := rest, left := cursor.left - 1 }
    if isBreak character then { moved with line := cursor.line + 1, column := 0 }
    else if character = '\uFEFF' then moved
    else { moved with column := cursor.column + 1 }

/-- The position a number of characters further on, read or not. -/
def advanceBy : (count : Nat) → Cursor → Cursor
  | 0, cursor => cursor
  | count + 1, cursor => advanceBy count cursor.advance

/-- The position behind the next character. -/
def next (cursor : Cursor) : Outcome Cursor :=
  cursor.advance.reached

/-- The position a number of characters further on. -/
def skip (count : Nat) (cursor : Cursor) : Outcome Cursor :=
  (cursor.advanceBy count).reached

/-- The longest run of characters with a property, and the position behind it. -/
def span (property : Char → Bool) (cursor : Cursor) : Outcome (List Char × Cursor) :=
  let run := cursor.rest.takeWhile property
  (cursor.skip run.length).map fun next => (run, next)

/-- The position behind the longest run of characters with a property. -/
def skipWhile (property : Char → Bool) (cursor : Cursor) : Outcome Cursor :=
  (cursor.span property).map Prod.snd

/-- The end of a line, if it is here: what it counts as in a scalar, and the position behind it. -/
def lineBreak? (cursor : Cursor) : Outcome (Option (Char × Cursor)) :=
  match cursor.peek with
  | none => .ok none
  | some character =>
    if isBreak character then
      let counted := if character = '\x85' then '\n' else character
      cursor.next.map fun next => some (counted, next)
    else .ok none

/-- The position behind the spaces and the comment that may follow. -/
def skipBlank (cursor : Cursor) : Outcome Cursor := do
  let afterSpaces ← cursor.skipWhile (· == ' ')
  if afterSpaces.peek = some '#' then afterSpaces.skipWhile (!isBreak ·) else return afterSpaces

/-- The position behind the spaces, the comment and the end of the line that may follow; anything
else on the line is an error. -/
def skipLine (cursor : Cursor) : Outcome Cursor := do
  let atEnd ← cursor.skipBlank
  match ← atEnd.lineBreak? with
  | some (_, next) => return next
  | none => if atEnd.rest.isEmpty then return atEnd else throw .malformed

end Cursor

end DateGetters.Yaml
