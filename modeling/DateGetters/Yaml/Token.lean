/-!
# Tokens of a YAML document

A document is read as a sequence of tokens.  Indentation shows as tokens that open and close block
collections, and a key that is not marked as one still has a key token in front of it.
-/

namespace DateGetters.Yaml

/-- A line in front of a document that begins with a percent sign. -/
inductive Directive where
  | version (major : Nat)
  | tagPrefix (handle content : String)
  | other
deriving DecidableEq, Repr

/-- A token. -/
inductive Token where
  | directive (directive : Directive)
  | documentStart
  | documentEnd
  | streamEnd
  | blockSequenceStart
  | blockMappingStart
  | blockEnd
  | flowSequenceStart
  | flowSequenceEnd
  | flowMappingStart
  | flowMappingEnd
  | flowEntry
  | blockEntry
  | key
  | value
  | reference (name : String)
  | anchor (name : String)
  /-- A tag: a handle, which is absent from a tag written in full, and what follows it. -/
  | tag (handle : Option String) (content : String)
  /-- A scalar by its code points; it is plain if it was written without quotes and not as a
  block. -/
  | scalar (codes : List Nat) (plain : Bool)
deriving DecidableEq, Repr

/-! ### Classes of characters -/

/-- Whether a character ends a line. -/
def isBreak (character : Char) : Bool :=
  character == '\n' || character == '\x85' || character == '\u2028' || character == '\u2029'

/-- Whether a character is a space or a tab. -/
def isWhite (character : Char) : Bool :=
  character == ' ' || character == '\t'

/-- Whether a word ends here: at white space, the end of a line or the end of the text. -/
def endsWord : Option Char → Bool
  | none => true
  | some character => isWhite character || isBreak character

/-- Whether a name of an anchor or a tag handle may hold a character. -/
def isNameChar (character : Char) : Bool :=
  character.isAlphanum || character == '-' || character == '_'

end DateGetters.Yaml
