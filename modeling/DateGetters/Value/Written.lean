import DateGetters.Text.Quoted
import DateGetters.Value.Basic

/-!
# Values as text

`written` is the form of a value inside a list or mapping: texts are quoted, dates are in call
form, and the items of a pair stand in parentheses.  `toText` is its form in running text, which
differs for texts, dates and moments only.

An integer of more than 4300 digits is never written.  `isWritable` says that a value holds no
such integer.
-/

namespace DateGetters.Value

mutual

/-- A value as it stands inside a written list or mapping. -/
def written : Value → String
  | null => "None"
  | bool flag => if flag then "True" else "False"
  | integer number => toString number
  | decimal number => Number.text number
  | text content => Text.quoted content
  | brokenText codes => Text.quotedCodes codes
  | bytes content => Text.quotedBytes content
  | date day => day.callText
  | moment time => time.callText
  | list items => "[" ++ ", ".intercalate (writtenItems items) ++ "]"
  | pair first second => "(" ++ written first ++ ", " ++ written second ++ ")"
  | set items =>
    if items.isEmpty then "set()" else "\x7b" ++ ", ".intercalate (writtenItems items) ++ "\x7d"
  | map entries => "\x7b" ++ ", ".intercalate (writtenEntries entries) ++ "\x7d"

def writtenItems : List Value → List String
  | [] => []
  | item :: others => written item :: writtenItems others

/-- The entries of a mapping, each written with a colon between key and value. -/
def writtenEntries : List (Value × Value) → List String
  | [] => []
  | (key, value) :: others => (written key ++ ": " ++ written value) :: writtenEntries others

end

/-- A value in running text.  Half of a surrogate pair is in no `String`: it shows as the replacement
character. -/
def toText : Value → String
  | text content => content
  | brokenText codes => String.ofList (Text.mended codes)
  | date day => day.text
  | moment time => time.text
  | value => value.written

/-- The greatest number of digits with which an integer is written. -/
def digitLimit : Nat := 4300

mutual

/-- Whether no integer in a value has more digits than are ever written. -/
def isWritable : Value → Bool
  | integer number => number.natAbs < Nat.pow 10 digitLimit
  | list items | set items => areWritable items
  | pair first second => isWritable first && isWritable second
  | map entries => areWritableEntries entries
  | _ => true

def areWritable : List Value → Bool
  | [] => true
  | item :: others => isWritable item && areWritable others

/-- Whether all keys and values of a mapping are writable. -/
def areWritableEntries : List (Value × Value) → Bool
  | [] => true
  | (key, value) :: others => isWritable key && isWritable value && areWritableEntries others

end

@[simp]
theorem toText_text (content : String) : (text content).toText = content := rfl

@[simp]
theorem isWritable_text (content : String) : (text content).isWritable = true := by
  simp [isWritable]

end DateGetters.Value
