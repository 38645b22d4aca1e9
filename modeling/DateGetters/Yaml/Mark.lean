import DateGetters.Number.Reading
import DateGetters.Text.Hexadecimal
import DateGetters.Yaml.Cursor

/-!
# Directives, names and tags

The marks of a document other than scalars that take more than one character: directives in front
of a document, the names of anchors and aliases, and tags.
-/

namespace DateGetters.Yaml.Mark

/-- A name, which must not be empty, and the position behind it. -/
def name (cursor : Cursor) : Outcome (String × Cursor) := do
  let (characters, next) ← cursor.span isNameChar
  if characters.isEmpty then throw .malformed else return (String.ofList characters, next)

/-- A character that may follow the name of an anchor or an alias. -/
def endsName (next : Option Char) : Bool :=
  endsWord next || next.any fun character =>
    ['?', ':', ',', ']', '\x7d', '%', '@', '\x60'].contains character

/-- The name of the anchor or alias whose sign is at a position. -/
def anchorName (cursor : Cursor) : Outcome (String × Cursor) := do
  let (name, next) ← name (← cursor.next)
  if endsName next.peek then return (name, next) else throw .malformed

/-- Whether a word that no tab may end ends here. -/
def endsField (cursor : Cursor) : Bool :=
  cursor.atLineEnd || cursor.peek == some ' '

/-! ### Tags -/

/-- A tag handle: an exclamation mark, or a name between two. -/
def tagHandle (cursor : Cursor) : Outcome (String × Cursor) := do
  if cursor.peek = some '!' then
    let afterMark ← cursor.next
    if afterMark.peek = some ' ' then return ("!", afterMark)
    else
      let (characters, next) ← afterMark.span isNameChar
      if next.peek = some '!' then
        return (String.ofList ('!' :: characters ++ ['!']), ← next.next)
      else throw .malformed
  else throw .malformed

/-- Whether a character may stand in the rest of a tag as it is. -/
def isTagChar (character : Char) : Bool :=
  character.isAlphanum || "-;/?:@&=+$,_.!~*'()[]".toList.contains character

/-- The value of the hexadecimal digit at a position, and the position behind it. -/
def hexDigit (cursor : Cursor) : Outcome (Nat × Cursor) :=
  match cursor.peek.bind Text.hexValue? with
  | some value => cursor.next.map fun next => (value, next)
  | none => .error .malformed

/-- The bytes that a run of percent signs, each with two hexadecimal digits, denotes. -/
def percentBytes : (steps : Nat) → Cursor → List UInt8 → Outcome (List UInt8 × Cursor)
  | 0, cursor, found => return (found, cursor)
  | steps + 1, cursor, found => do
    if cursor.peek = some '%' then
      let (high, afterFirst) ← hexDigit (← cursor.next)
      let (low, next) ← hexDigit afterFirst
      percentBytes steps next (found ++ [UInt8.ofNat (high * 16 + low)])
    else return (found, cursor)

/-- Go on reading the rest of a tag. -/
def tagTextOn : (steps : Nat) → Cursor → List Char → Outcome (List Char × Cursor)
  | 0, cursor, found => return (found, cursor)
  | steps + 1, cursor, found => do
    let (run, next) ← cursor.span isTagChar
    let found := found ++ run
    if next.peek = some '%' then
      let (bytes, afterEscapes) ← percentBytes next.left next []
      match String.fromUTF8? ⟨bytes.toArray⟩ with
      | some content => tagTextOn steps afterEscapes (found ++ content.toList)
      | none => throw .malformed
    else return (found, next)

/-- The rest of a tag, which must not be empty. -/
def tagText (cursor : Cursor) : Outcome (String × Cursor) := do
  let (characters, next) ← tagTextOn (cursor.left + 1) cursor []
  if cursor.left = next.left then throw .malformed else return (String.ofList characters, next)

/-- Whether the word at a position has a second exclamation mark, which ends a handle. -/
def hasHandle (cursor : Cursor) : Outcome Bool := do
  let ends (character : Char) := character == ' ' || character == '!' || isBreak character
  let atEnd ← (← cursor.next).skipWhile (!ends ·)
  return atEnd.peek == some '!'

/-- The tag whose exclamation mark is at a position. -/
def tag (cursor : Cursor) : Outcome (Token × Cursor) := do
  let afterMark ← cursor.next
  let (token, next) ←
    if afterMark.peek = some '<' then do
      let (content, next) ← tagText (← afterMark.next)
      if next.peek = some '>' then pure (Token.tag none content, ← next.next)
      else throw .malformed
    else if endsWord afterMark.peek then
      pure (Token.tag none "!", afterMark)
    else if ← hasHandle cursor then do
      let (handle, afterHandle) ← tagHandle cursor
      let (content, next) ← tagText afterHandle
      pure (Token.tag (some handle) content, next)
    else do
      let (content, next) ← tagText afterMark
      pure (Token.tag (some "!") content, next)
  if endsField next then return (token, next) else throw .malformed

/-! ### Directives -/

/-- A number, which must have a digit and not too many. -/
def number (cursor : Cursor) : Outcome (Nat × Cursor) := do
  let (digits, next) ← cursor.span Char.isDigit
  if digits.isEmpty then throw .malformed
  else if Value.digitLimit < digits.length then throw (.tooManyDigits (some digits.length))
  else return (Number.ofDigits (digits.map fun digit => digit.toNat - 0x30), next)

/-- The two numbers of a version. -/
def version (cursor : Cursor) : Outcome (Directive × Cursor) := do
  let (major, afterMajor) ← number (← cursor.skipWhile (· == ' '))
  if afterMajor.peek = some '.' then
    let (_, next) ← number (← afterMajor.next)
    if endsField next then return (.version major, next) else throw .malformed
  else throw .malformed

/-- The handle of a tag and what it stands for. -/
def tagPrefix (cursor : Cursor) : Outcome (Directive × Cursor) := do
  let (handle, afterHandle) ← tagHandle (← cursor.skipWhile (· == ' '))
  if afterHandle.peek = some ' ' then
    let (content, next) ← tagText (← afterHandle.skipWhile (· == ' '))
    if endsField next then return (.tagPrefix handle content, next) else throw .malformed
  else throw .malformed

/-- The directive whose percent sign is at a position. -/
def directive (cursor : Cursor) : Outcome (Token × Cursor) := do
  let (name, afterName) ← name (← cursor.next)
  if endsField afterName then
    let (directive, next) ←
      match name with
      | "YAML" => version afterName
      | "TAG" => tagPrefix afterName
      | _ => do pure (Directive.other, ← afterName.skipWhile (!isBreak ·))
    let next ← next.skipLine
    return (.directive directive, next)
  else throw .malformed

end DateGetters.Yaml.Mark
