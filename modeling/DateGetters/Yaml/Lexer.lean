import DateGetters.Yaml.Block
import DateGetters.Yaml.Mark
import DateGetters.Yaml.Plain
import DateGetters.Yaml.Quoted

/-!
# Reading tokens

The tokens of a document are read one after the other.  A key need not be marked: what stands in
front of a colon is one if it began on the same line, no more than 1024 characters before, at a
place where a key may begin.  Such a place is remembered as a candidate, and the key token is put
in front of it once the colon is found.

In a block, a token that stands further to the right than the block opens a new block, and one
that stands further to the left closes blocks.

A document that is not well formed still has tokens in front of the place where it goes wrong.
They count, because a document may be refused for what they are before that place is reached.  A
token counts once it is certain what stands in front of it, that is, if no candidate does.
-/

namespace DateGetters.Yaml

/-- A place at which a key may have begun. -/
structure KeyCandidate where
  /-- The number of tokens in front of it. -/
  tokensBefore : Nat
  /-- The number of characters that remain from it on. -/
  left : Nat
  line : Nat
  column : Nat
  /-- Whether it stands where nothing but a key may stand. -/
  required : Bool

/-- What is known while tokens are read. -/
structure Lexer where
  cursor : Cursor
  /-- The tokens so far, the last one first. -/
  reversed : List Token
  /-- How many tokens there are so far. -/
  count : Nat
  /-- The column of the block, which is -1 outside all blocks. -/
  indent : Int
  /-- The columns of the blocks around it. -/
  outer : List Int
  /-- How many flow collections are open. -/
  flowLevel : Nat
  /-- Whether a key may begin here. -/
  keyAllowed : Bool
  /-- The candidate of each flow level that has one. -/
  candidates : List (Nat × KeyCandidate)

namespace Lexer

/-- The state at a position where no token has been read. -/
def start (cursor : Cursor) : Lexer where
  cursor := cursor
  reversed := []
  count := 0
  indent := -1
  outer := []
  flowLevel := 0
  keyAllowed := true
  candidates := []

/-- Whether a flow collection is open. -/
def inFlow (lexer : Lexer) : Bool :=
  lexer.flowLevel != 0

def emit (lexer : Lexer) (token : Token) : Lexer :=
  { lexer with reversed := token :: lexer.reversed, count := lexer.count + 1 }

/-- Put tokens in front of which there are so many others. -/
def insert (lexer : Lexer) (tokensBefore : Nat) (tokens : List Token) : Lexer :=
  let (later, earlier) := lexer.reversed.splitAt (lexer.count - tokensBefore)
  { lexer with
    reversed := later ++ tokens.reverse ++ earlier
    count := lexer.count + tokens.length }

/-- Move on without a token. -/
def moveTo (lexer : Lexer) (cursor : Cursor) : Lexer :=
  { lexer with cursor := cursor }

/-- Add a token that is one character long. -/
def emitMark (lexer : Lexer) (token : Token) : Outcome Lexer :=
  lexer.cursor.next.map (lexer.emit token).moveTo

/-- Say whether a key may begin next. -/
def allowKey (lexer : Lexer) (allowed : Bool) : Lexer :=
  { lexer with keyAllowed := allowed }

/-- Skip white space, comments and line ends up to the next token.  Outside flow collections a
key may begin behind a line end. -/
def skipToToken : (steps : Nat) → Lexer → Outcome Lexer
  | 0, lexer => return lexer
  | steps + 1, lexer => do
    let atEnd ← lexer.cursor.skipBlank
    match ← atEnd.lineBreak? with
    | some (_, next) =>
      skipToToken steps ((lexer.moveTo next).allowKey (lexer.keyAllowed || !lexer.inFlow))
    | none => return lexer.moveTo atEnd

/-- Whether a candidate is too far away for a key: on another line, or too many characters. -/
def isStale (lexer : Lexer) (candidate : KeyCandidate) : Bool :=
  candidate.line != lexer.cursor.line || 1024 < candidate.left - lexer.cursor.left

/-- Drop the candidates that are too far away; none of them may be required. -/
def dropStale (lexer : Lexer) : Outcome Lexer :=
  if lexer.candidates.any fun (_, candidate) => candidate.required && lexer.isStale candidate then
    .error .malformed
  else
    .ok { lexer with candidates :=
      lexer.candidates.filter fun (_, candidate) => !lexer.isStale candidate }

/-- Drop the candidate of the current flow level; it must not be required. -/
def dropCandidate (lexer : Lexer) : Outcome Lexer :=
  match lexer.candidates.lookup lexer.flowLevel with
  | none => .ok lexer
  | some candidate =>
    if candidate.required then .error .malformed
    else .ok { lexer with candidates := lexer.candidates.filter (·.1 != lexer.flowLevel) }

/-- Remember the current place if a key may begin here. -/
def saveCandidate (lexer : Lexer) : Outcome Lexer :=
  if lexer.keyAllowed then do
    let cleared ← lexer.dropCandidate
    let required := !lexer.inFlow && lexer.indent == (lexer.cursor.column : Int)
    let candidate : KeyCandidate :=
      ⟨lexer.count, lexer.cursor.left, lexer.cursor.line, lexer.cursor.column, required⟩
    return { cleared with candidates := (lexer.flowLevel, candidate) :: cleared.candidates }
  else .ok lexer

/-- Close the blocks that stand to the right of a column. -/
def closeBlocks (column : Int) : (outer : List Int) → Lexer → Lexer
  | [], lexer => lexer
  | next :: others, lexer =>
    if column < lexer.indent then
      closeBlocks column others { lexer.emit .blockEnd with indent := next, outer := others }
    else lexer

/-- Close the blocks that stand to the right of a column, unless a flow collection is open. -/
def unwind (lexer : Lexer) (column : Int) : Lexer :=
  if lexer.inFlow then lexer else closeBlocks column lexer.outer lexer

/-- Open a block at a column that stands to the right of the current one; says whether it did. -/
def openBlock (lexer : Lexer) (column : Nat) : Bool × Lexer :=
  if lexer.indent < (column : Int) then
    (true, { lexer with indent := column, outer := lexer.indent :: lexer.outer })
  else (false, lexer)

/-- Open a block at the current column, with the token that begins it. -/
def openHere (lexer : Lexer) (token : Token) : Lexer :=
  let (opened, next) := lexer.openBlock lexer.cursor.column
  if opened then next.emit token else next

/-- End the document: close all blocks and drop the candidate. -/
def settle (lexer : Lexer) : Outcome Lexer := do
  let lexer ← (lexer.unwind (-1)).dropCandidate
  return lexer.allowKey false

def endStream (lexer : Lexer) : Outcome Lexer := do
  let lexer ← lexer.settle
  return { lexer.emit .streamEnd with candidates := [] }

/-- A token that is read from the text by a rule of its own. -/
def readToken (lexer : Lexer) (read : Cursor → Outcome (Token × Cursor)) : Outcome Lexer := do
  let (token, next) ← read lexer.cursor
  return (lexer.emit token).moveTo next

/-- A mark that separates documents. -/
def separator (lexer : Lexer) (token : Token) : Outcome Lexer := do
  let lexer ← lexer.settle
  return (lexer.emit token).moveTo (← lexer.cursor.skip 3)

/-- The beginning of a flow collection. -/
def openFlow (lexer : Lexer) (token : Token) : Outcome Lexer := do
  let lexer ← lexer.saveCandidate
  ({ lexer with flowLevel := lexer.flowLevel + 1 }.allowKey true).emitMark token

/-- The end of a flow collection, of which one must be open. -/
def closeFlow (lexer : Lexer) (token : Token) : Outcome Lexer := do
  let lexer ← lexer.dropCandidate
  let closed ← ({ lexer with flowLevel := lexer.flowLevel - 1 }.allowKey false).emitMark token
  if lexer.inFlow then return closed else throw .malformed

/-- A comma between the items of a flow collection. -/
def flowEntry (lexer : Lexer) : Outcome Lexer := do
  let lexer ← (lexer.allowKey true).dropCandidate
  lexer.emitMark .flowEntry

/-- A hyphen in front of an item of a block sequence. -/
def blockEntry (lexer : Lexer) : Outcome Lexer := do
  if !lexer.inFlow && !lexer.keyAllowed then .error .malformed
  else
    let opened := if lexer.inFlow then lexer else lexer.openHere .blockSequenceStart
    let lexer ← (opened.allowKey true).dropCandidate
    lexer.emitMark .blockEntry

/-- A question mark in front of a key. -/
def keyMark (lexer : Lexer) : Outcome Lexer := do
  if !lexer.inFlow && !lexer.keyAllowed then .error .malformed
  else
    let opened := if lexer.inFlow then lexer else lexer.openHere .blockMappingStart
    let lexer ← (opened.allowKey (!opened.inFlow)).dropCandidate
    lexer.emitMark .key

/-- A colon in front of a value: the candidate becomes a key, and if there is none the key is
empty. -/
def valueMark (lexer : Lexer) : Outcome Lexer :=
  match lexer.candidates.lookup lexer.flowLevel with
  | some candidate =>
    let cleared :=
      { lexer with candidates := lexer.candidates.filter (·.1 != lexer.flowLevel) }
    let (opened, next) :=
      if cleared.inFlow then (false, cleared) else cleared.openBlock candidate.column
    let tokens := if opened then [.blockMappingStart, .key] else [.key]
    ((next.insert candidate.tokensBefore tokens).allowKey false).emitMark .value
  | none => do
    if !lexer.inFlow && !lexer.keyAllowed then .error .malformed
    else
      let opened := if lexer.inFlow then lexer else lexer.openHere .blockMappingStart
      let lexer ← (opened.allowKey (!opened.inFlow)).dropCandidate
      lexer.emitMark .value

/-- A token that may be a key as a whole. -/
def keyToken (lexer : Lexer) (read : Cursor → Outcome (Token × Cursor)) : Outcome Lexer := do
  let lexer ← lexer.saveCandidate
  (lexer.allowKey false).readToken read

def reference (cursor : Cursor) : Outcome (Token × Cursor) :=
  (Mark.anchorName cursor).map fun (name, next) => (.reference name, next)

def anchor (cursor : Cursor) : Outcome (Token × Cursor) :=
  (Mark.anchorName cursor).map fun (name, next) => (.anchor name, next)

def quoted (cursor : Cursor) : Outcome (Token × Cursor) :=
  (Quoted.read cursor).map fun (codes, next) => (.scalar codes false, next)

def blockScalar (lexer : Lexer) : Outcome Lexer := do
  let lexer ← (lexer.allowKey true).dropCandidate
  let (content, next) ← Block.read lexer.indent lexer.cursor
  return (lexer.emit (.scalar (content.map Char.toNat) false)).moveTo next

/-- A plain scalar; a key may begin behind it if it ends with a line. -/
def plainScalar (lexer : Lexer) : Outcome Lexer := do
  let lexer ← lexer.saveCandidate
  let reading ← Plain.read lexer.inFlow lexer.indent lexer.cursor
  let scalar := Token.scalar reading.codes true
  return ((lexer.emit scalar).moveTo reading.cursor).allowKey reading.crossedLine

/-- The characters that have a meaning of their own at the beginning of a token. -/
def signs : List Char := "-?:,[]\x7b\x7d#&*!|>'\"%@\x60".toList

/-- Whether a character is one that may begin a token only as a word of its own: a hyphen, or
outside flow collections a question mark or a colon. -/
def isWordSign (lexer : Lexer) (character : Char) : Bool :=
  character == '-' || (!lexer.inFlow && (character == '?' || character == ':'))

/-- A token that begins with a character that no other rule wants, which must be a plain scalar. -/
def otherToken (lexer : Lexer) (character : Char) : Outcome Lexer := do
  if !isWhite character && !isBreak character && !signs.contains character then lexer.plainScalar
  else if !endsWord (← lexer.cursor.peekAt 1) && lexer.isWordSign character then lexer.plainScalar
  else throw .malformed

/-- Whether the character at a position is a word of its own. -/
def isWord (cursor : Cursor) : Outcome Bool :=
  (cursor.peekAt 1).map endsWord

/-- The token that begins with a character, wherever it stands on its line. -/
def innerToken (lexer : Lexer) (character : Char) : Outcome Lexer := do
  match character with
  | '[' => lexer.openFlow .flowSequenceStart
  | '\x7b' => lexer.openFlow .flowMappingStart
  | ']' => lexer.closeFlow .flowSequenceEnd
  | '\x7d' => lexer.closeFlow .flowMappingEnd
  | ',' => lexer.flowEntry
  | '*' => lexer.keyToken reference
  | '&' => lexer.keyToken anchor
  | '!' => lexer.keyToken Mark.tag
  | '\'' | '"' => lexer.keyToken quoted
  | '-' => if ← isWord lexer.cursor then lexer.blockEntry else lexer.otherToken character
  | '?' =>
    if lexer.inFlow then lexer.keyMark
    else if ← isWord lexer.cursor then lexer.keyMark
    else lexer.otherToken character
  | ':' =>
    if lexer.inFlow then lexer.valueMark
    else if ← isWord lexer.cursor then lexer.valueMark
    else lexer.otherToken character
  | '|' | '>' => if lexer.inFlow then lexer.otherToken character else lexer.blockScalar
  | _ => lexer.otherToken character

/-- The token that begins with a character.  Directives and the marks that separate documents stand
at the beginning of a line. -/
def tokenAt (lexer : Lexer) (character : Char) : Outcome Lexer := do
  if lexer.cursor.column ≠ 0 then lexer.innerToken character
  else
    match character with
    | '%' => (← lexer.settle).readToken Mark.directive
    | '-' =>
      if ← lexer.cursor.atMark '-' then lexer.separator .documentStart
      else lexer.innerToken character
    | '.' =>
      if ← lexer.cursor.atMark '.' then lexer.separator .documentEnd
      else lexer.innerToken character
    | _ => lexer.innerToken character

/-- What comes of reading one token more. -/
inductive Progress where
  /-- Other tokens may follow. -/
  | more (lexer : Lexer)
  /-- It was the end of the text. -/
  | done (lexer : Lexer)

/-- Read one token more. -/
def readNext (lexer : Lexer) : Outcome Progress := do
  let lexer ← (← lexer.skipToToken (lexer.cursor.left + 1)).dropStale
  let lexer := lexer.unwind lexer.cursor.column
  match lexer.cursor.peek with
  | none => return .done (← lexer.endStream)
  | some character => return .more (← lexer.tokenAt character)

/-- The tokens so far. -/
def found (lexer : Lexer) : List Token :=
  lexer.reversed.reverse

/-- The number of tokens in front of which no others will be put. -/
def certain (lexer : Lexer) : Nat :=
  lexer.candidates.foldl (fun least (_, candidate) => min least candidate.tokensBefore) lexer.count

/-- The tokens that count if reading goes wrong, and the fault: a required key that is too far away
comes before what is wrong behind it. -/
def giveUp (lexer : Lexer) (fault : Fault) : List Token × Option Fault :=
  match lexer.dropStale with
  | .ok lexer => (lexer.found.take lexer.certain, some fault)
  | .error missed => (lexer.found, some missed)

/-- Read the tokens that remain.  Every step but the last takes at least one character. -/
def readAll : (steps : Nat) → Lexer → List Token × Option Fault
  | 0, lexer => lexer.giveUp .malformed
  | steps + 1, lexer =>
    match lexer.readNext with
    | .ok (.more next) => readAll steps next
    | .ok (.done last) => (last.found, none)
    | .error fault => lexer.giveUp fault

end Lexer

/-- The tokens of a document as far as it can be read, and what is wrong behind them if anything is.
A byte order mark in front of the document is skipped. -/
def tokens (source : Source) : List Token × Option Fault :=
  let first := do
    let cursor ← Cursor.start source
    if cursor.peek = some '\uFEFF' then cursor.next else return cursor
  match first with
  | .ok cursor => (Lexer.start cursor).readAll (source.characters.length + 1)
  | .error fault => ([], some fault)

end DateGetters.Yaml
