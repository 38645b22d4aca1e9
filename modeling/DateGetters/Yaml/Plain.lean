import DateGetters.Yaml.Cursor

/-!
# Plain scalars

A plain scalar is written without quotes.  It ends at a colon or a comment that is set apart by
white space, in a flow collection also at the characters that structure it, and in a block at a
line that is indented too little.  It may go on over several lines: a single line end inside it
becomes a space, and of several the first is dropped.
-/

namespace DateGetters.Yaml.Plain

/-- Whether a colon ends the scalar, given what follows the colon. -/
def endsAtColon (flow : Bool) (next : Option Char) : Bool :=
  endsWord next ||
    (flow && next.any fun character => [',', '[', ']', '\x7b', '\x7d'].contains character)

/-- Whether a character structures a flow collection. -/
def isFlowMark (character : Char) : Bool :=
  [',', '?', '[', ']', '\x7b', '\x7d'].contains character

/-- The run of characters up to the next place where the scalar may end. -/
def run (flow : Bool) : List Char → List Char
  | [] => []
  | character :: rest =>
    if isWhite character || isBreak character ||
        (character == ':' && endsAtColon flow rest.head?) || (flow && isFlowMark character) then []
    else character :: run flow rest

/-- The run at a position and the position behind it.  Whether a colon ends the run is seen from
what follows the colon. -/
def runAt (flow : Bool) (cursor : Cursor) : Outcome (List Char × Cursor) := do
  let found := run flow cursor.rest
  let next ← cursor.skip found.length
  if next.peek = some ':' then
    let _ ← next.peekAt 1
    return (found, next)
  else return (found, next)

/-- The line ends among spaces and line ends, unless a line begins with a mark that separates
documents. -/
def lineEnds : (steps : Nat) → Cursor → List Char → Outcome (Option (List Char) × Cursor)
  | 0, cursor, found => return (some found, cursor)
  | steps + 1, cursor, found => do
    if cursor.peek = some ' ' then lineEnds steps (← cursor.next) found
    else
      match ← cursor.lineBreak? with
      | none => return (some found, cursor)
      | some (lineEnd, next) =>
        if ← next.atSeparator then return (none, next)
        else lineEnds steps next (found ++ [lineEnd])

/-- The white space between two runs. -/
structure Gap where
  /-- What it counts as; it is empty if the scalar ends with the run before. -/
  content : List Char
  /-- The position behind it. -/
  cursor : Cursor
  /-- Whether it holds the end of a line. -/
  crossesLine : Bool

/-- The white space behind a run. -/
def gap (cursor : Cursor) : Outcome Gap := do
  let (spaces, afterSpaces) ← cursor.span (· == ' ')
  match ← afterSpaces.lineBreak? with
  | none => return ⟨spaces, afterSpaces, false⟩
  | some (first, afterFirst) =>
    if ← afterFirst.atSeparator then return ⟨[], afterFirst, true⟩
    else
      match ← lineEnds afterFirst.left afterFirst [] with
      | (none, next) => return ⟨[], next, true⟩
      | (some others, next) =>
        let content :=
          if first != '\n' then first :: others
          else if others.isEmpty then [' '] else others
        return ⟨content, next, true⟩

/-- A plain scalar's text so far, in reverse, the position behind it, and whether white space with a
line end has been passed since. -/
structure Reading where
  reversed : List Char
  cursor : Cursor
  crossedLine : Bool

/-- Go on reading a plain scalar in a block that wants its lines indented by more than `indent`. -/
def readOn (flow : Bool) (indent : Int) :
    (steps : Nat) → Reading → (spaces : List Char) → Outcome Reading
  | 0, reading, _ => return reading
  | steps + 1, reading, spaces => do
    if reading.cursor.peek = some '#' then return reading
    else
      let (found, afterRun) ← runAt flow reading.cursor
      if found.isEmpty then return reading
      else
        let gap ← gap afterRun
        let reversed := found.reverseAux (spaces.reverseAux reading.reversed)
        let reading : Reading := ⟨reversed, gap.cursor, gap.crossesLine⟩
        if gap.content.isEmpty || (!flow && (gap.cursor.column : Int) ≤ indent) then return reading
        else readOn flow indent steps reading gap.content

/-- The plain scalar at a position. -/
def read (flow : Bool) (indent : Int) (cursor : Cursor) : Outcome Reading :=
  readOn flow indent cursor.left ⟨[], cursor, false⟩ []

/-- The code points that have been read. -/
def Reading.codes (reading : Reading) : List Nat :=
  reading.reversed.reverse.map Char.toNat

end DateGetters.Yaml.Plain
