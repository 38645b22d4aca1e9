import DateGetters.Fault
import DateGetters.Value.Equal

/-!
# Names of getters

The identifier of a column is derived from its name: the ASCII letters and digits, with the first
of each run put in upper case.  Everything else only separates runs.

The name of a getter is a format in which the identifier takes the place of the placeholder `%s`.
A format is valid if it holds the placeholder exactly once.
-/

namespace DateGetters

/-- Whether a character can stand in a derived identifier: an ASCII letter or digit. -/
def isWordChar (character : Char) : Bool :=
  character.isAlphanum

/-- The word characters in order; the first of each run is put in upper case, and that of the
first run only if `fresh` holds. -/
def capitalizeRuns (fresh : Bool) : List Char → List Char
  | [] => []
  | character :: rest =>
    if isWordChar character then
      (if fresh then character.toUpper else character) :: capitalizeRuns false rest
    else
      capitalizeRuns true rest

def identifier (name : String) : String :=
  String.ofList (capitalizeRuns true name.toList)

/-- The identifier derived from a column's name, which must be a text or say nothing. -/
def identifierOf (name : Value) : Outcome String :=
  (name.orBlank.asText "strip").map identifier

namespace NameFormat

/-- The number of placeholders in a format; two of them never overlap. -/
def occurrences : List Char → Nat
  | '%' :: 's' :: rest => occurrences rest + 1
  | _ :: rest => occurrences rest
  | [] => 0

/-- The format with the first placeholder replaced. -/
def fillChars (replacement : List Char) : List Char → List Char
  | '%' :: 's' :: rest => replacement ++ rest
  | character :: rest => character :: fillChars replacement rest
  | [] => []

/-- The format with the first placeholder replaced by an identifier. -/
def fill (format identifier : String) : String :=
  String.ofList (fillChars identifier.toList format.toList)

/-- The number of placeholders of a format, or of equal items if the format is a list. -/
def count (format : Value) : Outcome Nat :=
  match format.orBlank with
  | .text content => .ok (occurrences content.toList)
  | .brokenText codes => .ok (occurrences (Text.mended codes))
  | .list items => .ok (items.countP (·.same (.text "%s")))
  | other => .error (.noOperation other.kindName "count")

/-- Check that a format holds the placeholder exactly once. -/
def validate (format : Value) : Outcome Unit := do
  let found ← count format
  if found = 1 then .ok () else .error (.invalidFormat format (.integer found))

/-- A format as it is, which must hold the placeholder exactly once. -/
def checked (format : Value) : Outcome Value := do
  validate format
  return format

/-- The name that a format gives to the getter of a column with an identifier. -/
def methodName (format identifier : Value) : Outcome String := do
  let format ← format.asText "replace"
  match identifier with
  | .text content => .ok (fill format content)
  | other => .error (.notReplacement other.kindName)

theorem count_text (content : String) :
    count (.text content) = .ok (occurrences content.toList) := by
  simp [count]

@[simp]
theorem methodName_text (format identifier : String) :
    methodName (.text format) (.text identifier) = .ok (fill format identifier) := rfl

end NameFormat

@[simp]
theorem identifierOf_text (name : String) : identifierOf (.text name) = .ok (identifier name) := by
  simp [identifierOf, Except.map]

end DateGetters
