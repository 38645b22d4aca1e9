import DateGetters.Yaml.Cursor

/-!
# Block scalars

A block scalar is introduced by a bar, which keeps its lines, or a greater-than sign, which folds
them: a single line end between two lines that begin with neither a space nor a tab becomes a
space.  A sign behind the introduction says what becomes of the line ends at the end of the
scalar, and a digit says how far it is indented; otherwise the first line shows that.
-/

namespace DateGetters.Yaml.Block

/-- What becomes of the line ends at the end of a block scalar. -/
inductive Chomping where
  /-- One is kept. -/
  | clip
  /-- None is kept. -/
  | strip
  /-- All are kept. -/
  | keep
deriving DecidableEq, Repr

/-- The sign that says how to chomp. -/
def chomping? : Option Char → Option Chomping
  | some '+' => some .keep
  | some '-' => some .strip
  | _ => none

/-- The digit that says how far the scalar is indented; it must not be zero. -/
def increment? : Option Char → Outcome (Option Nat)
  | some character =>
    if character = '0' then .error .malformed
    else if character.isDigit then .ok (some (character.toNat - 0x30))
    else .ok none
  | none => .ok none

/-- The sign and the digit behind the introduction, in either order. -/
def header (cursor : Cursor) : Outcome (Chomping × Option Nat × Cursor) := do
  let (chomping, increment, next) ←
    match chomping? cursor.peek with
    | some chomping => do
      let afterSign ← cursor.next
      match ← increment? afterSign.peek with
      | some increment => pure (chomping, some increment, ← afterSign.next)
      | none => pure (chomping, none, afterSign)
    | none =>
      match ← increment? cursor.peek with
      | some increment => do
        let afterDigit ← cursor.next
        match chomping? afterDigit.peek with
        | some chomping => pure (chomping, some increment, ← afterDigit.next)
        | none => pure (Chomping.clip, some increment, afterDigit)
      | none => pure (Chomping.clip, none, cursor)
  if next.atLineEnd || next.peek == some ' ' then return (chomping, increment, next)
  else throw .malformed

/-- Line ends that have been passed and the position behind them. -/
structure Ends where
  content : List Char
  cursor : Cursor

/-- The line ends in front of the first line, and the greatest column that spaces lead to. -/
def firstIndent : (steps : Nat) → Ends → Nat → Outcome (Nat × Ends)
  | 0, ends, greatest => return (greatest, ends)
  | steps + 1, ⟨found, cursor⟩, greatest => do
    if cursor.peek = some ' ' then
      let next ← cursor.next
      firstIndent steps ⟨found, next⟩ (max greatest next.column)
    else
      match ← cursor.lineBreak? with
      | some (lineEnd, next) => firstIndent steps ⟨found ++ [lineEnd], next⟩ greatest
      | none => return (greatest, ⟨found, cursor⟩)

/-- The position behind the spaces in front of a column. -/
def skipIndent (indent : Nat) : (steps : Nat) → Cursor → Outcome Cursor
  | 0, cursor => return cursor
  | steps + 1, cursor => do
    if cursor.column < indent && cursor.peek == some ' ' then
      skipIndent indent steps (← cursor.next)
    else return cursor

/-- The line ends in front of the next line, each behind no more than the indentation. -/
def lineEnds (indent : Nat) : (steps : Nat) → Ends → Outcome Ends
  | 0, ends => return ends
  | steps + 1, ⟨found, cursor⟩ => do
    let afterSpaces ← skipIndent indent cursor.left cursor
    match ← afterSpaces.lineBreak? with
    | some (lineEnd, next) => lineEnds indent steps ⟨found ++ [lineEnd], next⟩
    | none => return ⟨found, afterSpaces⟩

/-- What has been read of a block scalar: its text in reverse, the end of its last line, and the
line ends behind that. -/
structure Reading where
  reversed : List Char
  lastEnd : List Char
  pending : Ends

/-- Whether a line of the scalar begins here. -/
def atLine (indent : Nat) (cursor : Cursor) : Bool :=
  cursor.column == indent && !cursor.rest.isEmpty

/-- Go on reading the lines of a block scalar. -/
def lines (folded : Bool) (indent : Nat) : (steps : Nat) → Reading → Outcome Reading
  | 0, reading => return reading
  | steps + 1, reading => do
    let start := reading.pending.cursor
    if atLine indent start then
      let (line, atEnd) ← start.span (!isBreak ·)
      let (lineEnd, afterEnd) ←
        match ← atEnd.lineBreak? with
        | some (character, next) => pure ([character], next)
        | none => pure ([], atEnd)
      let pending ← lineEnds indent (afterEnd.left + 1) ⟨[], afterEnd⟩
      let reversed := line.reverseAux (reading.pending.content.reverseAux reading.reversed)
      if atLine indent pending.cursor then
        let joint :=
          if folded && lineEnd == ['\n'] && !start.nextIs isWhite &&
              !pending.cursor.nextIs isWhite then
            if pending.content.isEmpty then [' '] else []
          else lineEnd
        lines folded indent steps ⟨joint.reverseAux reversed, lineEnd, pending⟩
      else return ⟨reversed, lineEnd, pending⟩
    else return reading

/-- The block scalar whose introduction is at a position, in a block that is indented by
`parent`. -/
def read (parent : Int) (cursor : Cursor) : Outcome (List Char × Cursor) := do
  let folded := cursor.peek == some '>'
  let (chomping, increment, afterHeader) ← header (← cursor.next)
  let start ← afterHeader.skipLine
  let least := (max (parent + 1) 1).toNat
  let steps := start.left + 1
  let (indent, pending) ←
    match increment with
    | some columns => do
      let indent := least + columns - 1
      pure (indent, ← lineEnds indent steps ⟨[], start⟩)
    | none => do
      let (greatest, pending) ← firstIndent steps ⟨[], start⟩ 0
      pure (max least greatest, pending)
  let reading ← lines folded indent steps ⟨[], [], pending⟩
  let kept :=
    match chomping with
    | .strip => []
    | .clip => reading.lastEnd
    | .keep => reading.lastEnd ++ reading.pending.content
  return (reading.reversed.reverseAux kept, reading.pending.cursor)

end DateGetters.Yaml.Block
