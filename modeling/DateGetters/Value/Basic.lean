import DateGetters.Calendar
import DateGetters.Text.Codes

/-!
# Option values

Options come from configuration files and from callers, and may hold any value: nothing at all,
flags, numbers, texts, dates, lists and mappings.  A mapping keeps its entries in order.

Configuration files can hold some more: texts with half of a surrogate pair, bytes, sets, and pairs
as the items of a list.
-/

namespace DateGetters

/-- A value of an option. -/
inductive Value where
  | null
  | bool (flag : Bool)
  | integer (number : Int)
  | decimal (number : Float)
  | text (content : String)
  /-- A text with half of a surrogate pair, as its code points. -/
  | brokenText (codes : List Nat)
  | bytes (content : List UInt8)
  | date (date : Date)
  | moment (moment : Moment)
  | list (items : List Value)
  | pair (first second : Value)
  | set (items : List Value)
  | map (entries : List (Value × Value))
deriving Inhabited

namespace Value

/-- The text of code points. -/
def ofCodes (codes : List Nat) : Value :=
  match Text.ofCodes? codes with
  | some content => text content
  | none => brokenText codes

/-- The name of a value's kind, as messages give it. -/
def kindName : Value → String
  | null => "NoneType"
  | bool _ => "bool"
  | integer _ => "int"
  | decimal _ => "float"
  | text _ | brokenText _ => "str"
  | bytes _ => "bytes"
  | date _ => "date"
  | moment _ => "datetime"
  | list _ => "list"
  | pair _ _ => "tuple"
  | set _ => "set"
  | map _ => "dict"

/-- Whether a value says something: it is not null, false, zero or empty. -/
def isTruthy : Value → Bool
  | null => false
  | bool flag => flag
  | integer number => number != 0
  | decimal number => number != 0.0
  | text content => content != ""
  | bytes content => !content.isEmpty
  | list items | set items => !items.isEmpty
  | map entries => !entries.isEmpty
  | brokenText _ | date _ | moment _ | pair _ _ => true

/-- The value itself if it says something, and the empty text otherwise. -/
def orBlank (value : Value) : Value :=
  if value.isTruthy then value else text ""

/-- Whether a value can be a key of a mapping: collections cannot. -/
def isKey : Value → Bool
  | list _ | set _ | map _ => false
  | pair first second => first.isKey && second.isKey
  | _ => true

/-- The items of a value, if it has any: those of a collection, the keys of a mapping, the
characters of a text and the bytes of bytes. -/
def items? : Value → Option (List Value)
  | list items | set items => some items
  | pair first second => some [first, second]
  | map entries => some (entries.map Prod.fst)
  | text content => some (content.toList.map fun character => text (String.ofList [character]))
  | brokenText codes => some (codes.map fun code => ofCodes [code])
  | bytes content => some (content.map fun byte => integer byte.toNat)
  | _ => none

@[simp]
theorem orBlank_text (content : String) : (text content).orBlank = text content := by
  by_cases blank : content = ""
  · simp [orBlank, isTruthy, blank]
  · simp [orBlank, isTruthy, blank]

@[simp]
theorem orBlank_null : null.orBlank = text "" := rfl

@[simp]
theorem isTruthy_text (content : String) : (text content).isTruthy = (content != "") := rfl

end Value

end DateGetters
