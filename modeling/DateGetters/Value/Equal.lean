import DateGetters.Value.Basic

/-!
# Loose equality of values

Numbers are equal when they are the same number, whatever their kind, and `true` and `false` count
as one and zero; what is not a number equals nothing, not even itself.  Moments with known offsets
are equal when they are the same point in time.  Mappings are equal when they have the same entries,
and sets when they have the same items, in any order.
-/

namespace DateGetters.Value

/-- The number that a flag or an integer is. -/
def wholeNumber? : Value → Option Int
  | bool flag => some (if flag then 1 else 0)
  | integer number => some number
  | _ => none

/-- Whether two values that hold no others are equal. -/
def sameScalar (left right : Value) : Bool :=
  match left.wholeNumber?, right.wholeNumber? with
  | some first, some second => first == second
  | some first, none =>
    match right with
    | decimal second => Number.isInteger second first
    | _ => false
  | none, some second =>
    match left with
    | decimal first => Number.isInteger first second
    | _ => false
  | none, none =>
    match left, right with
    | null, null => true
    | decimal first, decimal second => first == second
    | text first, text second => first == second
    | brokenText first, brokenText second => first == second
    | bytes first, bytes second => first == second
    | date first, date second => first == second
    | moment first, moment second => first.same second
    | _, _ => false

mutual

/-- Whether two values are equal. -/
def same (left : Value) (right : Value) : Bool :=
  match left with
  | list items =>
    match right with
    | list others => sameItems items others
    | _ => false
  | pair first second =>
    match right with
    | pair third fourth => same first third && same second fourth
    | _ => false
  | set items =>
    match right with
    | set others => items.length == others.length && containsItems items others
    | _ => false
  | map entries =>
    match right with
    | map others => entries.length == others.length && sameEntries entries others
    | _ => false
  | null => sameScalar null right
  | bool flag => sameScalar (bool flag) right
  | integer number => sameScalar (integer number) right
  | decimal number => sameScalar (decimal number) right
  | text content => sameScalar (text content) right
  | brokenText codes => sameScalar (brokenText codes) right
  | bytes content => sameScalar (bytes content) right
  | date day => sameScalar (date day) right
  | moment time => sameScalar (moment time) right

/-- Whether two lists have equal items in the same order. -/
def sameItems (left : List Value) (right : List Value) : Bool :=
  match left, right with
  | [], [] => true
  | first :: others, second :: more => same first second && sameItems others more
  | _, _ => false

/-- Whether every item of the left list has an equal one in the right one. -/
def containsItems (left : List Value) (right : List Value) : Bool :=
  match left with
  | [] => true
  | first :: others => right.any (fun item => same first item) && containsItems others right

/-- Whether every entry of the left mapping has an equal entry in the right one. -/
def sameEntries (left : List (Value × Value)) (right : List (Value × Value)) : Bool :=
  match left with
  | [] => true
  | (key, value) :: others =>
    right.any (fun entry => same key entry.1 && same value entry.2) && sameEntries others right

end

@[simp]
theorem same_text (first second : String) : same (text first) (text second) = (first == second) :=
  by simp [same, sameScalar, wholeNumber?]

/-- A text equals no value of another kind. -/
theorem same_text_iff (value : Value) (content : String) :
    same value (text content) = true ↔ value = text content := by
  cases value <;> simp [same, sameScalar, wholeNumber?]

end DateGetters.Value
