import DateGetters.Number.Shortest

/-!
# Dates and moments

Calendar dates from year 1 to year 9999, and moments, which add a time of day in microseconds and,
if known, the offset of the local clock from universal time in minutes.  Each has two written
forms: the plain one, as it appears in running text, and the call form, as it appears inside a
written list or mapping.
-/

namespace DateGetters

/-- A calendar date. -/
structure Date where
  year : Nat
  month : Nat
  day : Nat
deriving DecidableEq, Repr

/-- A date with a time of day and perhaps an offset from universal time, in minutes. -/
structure Moment where
  date : Date
  hour : Nat
  minute : Nat
  second : Nat
  microsecond : Nat
  offset : Option Int
deriving DecidableEq, Repr

/-- What can be wrong with the parts of a date or a moment. -/
inductive CalendarFault where
  | year (number : Nat)
  | month
  | day
  | hour
  | minute
  | second
  | offset (minutes : Int)
deriving DecidableEq, Repr

namespace Date

/-- Whether a year has a twenty-ninth of February. -/
def isLeapYear (year : Nat) : Bool :=
  year % 4 == 0 && (year % 100 != 0 || year % 400 == 0)

def daysInMonth (year month : Nat) : Nat :=
  if month = 2 then (if isLeapYear year then 29 else 28)
  else if month = 4 ∨ month = 6 ∨ month = 9 ∨ month = 11 then 30
  else 31

/-- The first fault of a date, looking at the year, then the month, then the day. -/
def fault? (date : Date) : Option CalendarFault :=
  if date.year = 0 ∨ 9999 < date.year then some (.year date.year)
  else if date.month = 0 ∨ 12 < date.month then some .month
  else if date.day = 0 ∨ daysInMonth date.year date.month < date.day then some .day
  else none

/-- The number of days from the first day of year 1 to the date. -/
def ordinal (date : Date) : Nat :=
  let before := date.year - 1
  let months := (List.range (date.month - 1)).foldl
    (fun days month => days + daysInMonth date.year (month + 1)) 0
  before * 365 + before / 4 - before / 100 + before / 400 + months + (date.day - 1)

/-- A natural number with at least `width` digits. -/
def field (width number : Nat) : String :=
  String.ofList (Number.padded width number)

/-- Year, month and day with a hyphen between them. -/
def text (date : Date) : String :=
  field 4 date.year ++ "-" ++ field 2 date.month ++ "-" ++ field 2 date.day

/-- Year, month and day as arguments. -/
def arguments (date : Date) : List String :=
  [toString date.year, toString date.month, toString date.day]

/-- The call form of a date. -/
def callText (date : Date) : String :=
  "datetime.date(" ++ ", ".intercalate date.arguments ++ ")"

end Date

/-- A length of time as whole days and the seconds left over, in call form. -/
def durationText (minutes : Int) : String :=
  let days := Int.fdiv minutes 1440
  let seconds := Int.fmod minutes 1440 * 60
  let parts := (if days = 0 then [] else ["days=" ++ toString days]) ++
    (if seconds = 0 then [] else ["seconds=" ++ toString seconds])
  "datetime.timedelta(" ++ (if parts.isEmpty then "0" else ", ".intercalate parts) ++ ")"

namespace CalendarFault

/-- The wording of a calendar fault. -/
def message : CalendarFault → String
  | year number => "year " ++ toString number ++ " is out of range"
  | month => "month must be in 1..12"
  | day => "day is out of range for month"
  | hour => "hour must be in 0..23"
  | minute => "minute must be in 0..59"
  | second => "second must be in 0..59"
  | offset minutes =>
    "offset must be a timedelta strictly between -timedelta(hours=24) and timedelta(hours=24), not "
      ++ durationText minutes ++ "."

end CalendarFault

namespace Moment

/-- The first fault of a moment: of its offset, then of its date, then of its time of day. -/
def fault? (moment : Moment) : Option CalendarFault :=
  let ofOffset : Option CalendarFault := moment.offset.bind fun minutes =>
    if minutes.natAbs < 1440 then none else some (.offset minutes)
  let ofTime : Option CalendarFault :=
    if 23 < moment.hour then some .hour
    else if 59 < moment.minute then some .minute
    else if 59 < moment.second then some .second
    else none
  (ofOffset.or moment.date.fault?).or ofTime

/-- The point in time, in microseconds of universal time, if the offset is known. -/
def instant? (moment : Moment) : Option Int :=
  moment.offset.map fun offset =>
    let minutes : Int := (moment.date.ordinal * 1440 + moment.hour * 60 + moment.minute : Nat)
    ((minutes - offset) * 60 + (moment.second : Int)) * 1000000 + (moment.microsecond : Int)

/-- Whether two moments are the same point in time, or the same reading of an unknown clock. -/
def same (left right : Moment) : Bool :=
  match left.instant?, right.instant? with
  | some first, some second => first == second
  | none, none => left == right
  | _, _ => false

/-- An offset as a sign, hours and minutes. -/
def offsetText (minutes : Int) : String :=
  let size := minutes.natAbs
  (if minutes < 0 then "-" else "+") ++ Date.field 2 (size / 60) ++ ":" ++ Date.field 2 (size % 60)

/-- The date, the time of day to the second, and what else is known and not zero. -/
def text (moment : Moment) : String :=
  moment.date.text ++ " " ++ Date.field 2 moment.hour ++ ":" ++ Date.field 2 moment.minute ++
    ":" ++ Date.field 2 moment.second ++
    (if moment.microsecond = 0 then "" else "." ++ Date.field 6 moment.microsecond) ++
    (moment.offset.map offsetText).getD ""

/-- The offset from universal time in call form. -/
def offsetCallText (minutes : Int) : String :=
  if minutes = 0 then "datetime.timezone.utc"
  else "datetime.timezone(" ++ durationText minutes ++ ")"

/-- The call form of a moment: seconds and microseconds are left out if they end the time with
zeros. -/
def callText (moment : Moment) : String :=
  let time := [toString moment.hour, toString moment.minute] ++
    (if moment.second = 0 ∧ moment.microsecond = 0 then [] else [toString moment.second]) ++
    (if moment.microsecond = 0 then [] else [toString moment.microsecond]) ++
    (moment.offset.map fun offset => "tzinfo=" ++ offsetCallText offset).toList
  "datetime.datetime(" ++ ", ".intercalate (moment.date.arguments ++ time) ++ ")"

end Moment

end DateGetters
