import DateGetters.Config.Location
import DateGetters.Run
import DateGetters.Value.Written

/-!
# Faults

Every way in which generating getters, building a schema or reading a configuration can fail, as
its cause.  `Fault.message` is the wording of each.
-/

namespace DateGetters

/-- A cause of failure. -/
inductive Fault where
  /-- A requested column is not in the table. -/
  | columnNotFound (column table : Value)
  /-- A requested column holds no dates; `declared` is its type as stored. -/
  | notTemporal (column table declared : Value)
  /-- A name format does not hold the placeholder exactly once. -/
  | invalidFormat (format occurrences : Value)
  /-- A failure of generation with a text of its own. -/
  | generation (details : List Value)
  /-- A value of this kind does not offer the operation. -/
  | noOperation (kind operation : String)
  /-- A value of this kind was to stand for the placeholder. -/
  | notReplacement (kind : String)
  /-- A value of this kind cannot be looked up. -/
  | notKey (kind : String)
  /-- A record was built with a field that it does not have. -/
  | unexpectedField (record field : String)
  /-- A record was built without some of its fields. -/
  | missingFields (record : String) (fields : List String)
  /-- A record was built with more fields than it has. -/
  | surplusFields (record : String) (expected given : Nat)
  /-- Two columns of a table have the same name. -/
  | duplicateColumn (column table : Value)
  /-- Two columns of a mapped table have the same key, or the same name under two keys. -/
  | duplicateMapped (distinction : String) (column table : String)
  /-- A column that was looked up is not there. -/
  | noColumn (column table : Value)
  /-- A field of a finished record was to be changed. -/
  | frozenField (field : String)
  /-- A value of this kind was given as the name of a field. -/
  | notFieldName (kind : String)
  /-- There is no template of this name. -/
  | unknownTemplate (kind : Value)
  /-- An integer has more digits than are written or, if a number is given, read. -/
  | tooManyDigits (found : Option Nat)
  /-- None of the places looked at holds a configuration. -/
  | noConfiguration (searched : List String)
  /-- A path or a part of it is longer than file systems allow. -/
  | nameTooLong (path : String)
  /-- A directory stands where a file was expected. -/
  | isDirectory (path : String)
  /-- The bytes of a file are not UTF-8. -/
  | notUtf8
  /-- A configuration is not a well-formed document. -/
  | malformed
  /-- A configuration is not a mapping. -/
  | notMapping (path : String)
  /-- A section of a configuration is not a mapping. -/
  | sectionNotMapping (key path kind : String)
  /-- The options of a table are not a mapping. -/
  | optionsNotMapping (table path kind : String)
  /-- A date or time in a configuration does not exist. -/
  | calendar (fault : CalendarFault)
  /-- A text, given by its code points, was to be read as an integer. -/
  | notInteger (base : Nat) (codes : List Nat)
  /-- A text, given by its code points, was to be read as a decimal number. -/
  | notDecimal (codes : List Nat)
  /-- A text, given by its code points, was to be read as a flag. -/
  | notFlag (codes : List Nat)
  /-- An empty text was to be read as a number. -/
  | emptyNumber
  /-- An integer was to be used with doubles that has none near it. -/
  | integerTooLarge
  /-- A number in an escape stands for no character; `wide` if it has more than 31 bits. -/
  | noCharacter (wide : Bool)
  /-- A mapping was to be read as a date or moment. -/
  | momentFromMapping
  /-- The search for the value as a whole of a mapping leads back to it. -/
  | endlessSearch
  /-- A value of this kind was given for entries, and it has no items. -/
  | notIterable (kind : String)
  /-- An item that was given for an entry has no items of its own. -/
  | entryNotSequence (index : Nat)
  /-- An item that was given for an entry has not two items of its own. -/
  | entryLength (index length : Nat)
  /-- A mapped column has no name. -/
  | unnamedColumn

namespace Fault

/-- What is wrong with changing a field of a finished record: the record is never changed, and only
a text names a field at all. -/
def ofAssignment : Value → Fault
  | .text field => frozenField field
  | field => notFieldName field.kindName

/-- What every failure of generation begins with. -/
def heading : String :=
  "Error when resolving behavior \"localized_date\""

/-- Names in quotes, as a sentence lists them. -/
def listed : List String → String
  | [] => ""
  | [name] => "'" ++ name ++ "'"
  | [first, second] => "'" ++ first ++ "' and '" ++ second ++ "'"
  | names =>
    ", ".intercalate ((names.dropLast).map fun name => "'" ++ name ++ "'") ++
      ", and '" ++ (names.getLast?.getD "") ++ "'"

/-- The first characters of a quoted text, two hundred at most. -/
def excerpt (codes : List Nat) : String :=
  String.ofList ((Text.quotedCodes codes).toList.take 200)

/-- The text of details: none, the only one, or all of them in parentheses. -/
def detailText : List Value → String
  | [] => ""
  | [detail] => detail.toText
  | details => "(" ++ ", ".intercalate (Value.writtenItems details) ++ ")"

/-- The wording of a fault. -/
def message : Fault → String
  | columnNotFound column table =>
    heading ++ ": column \"" ++ column.toText ++ "\" is not available in table \"" ++
      table.toText ++ "\""
  | notTemporal column table declared =>
    heading ++ ": column \"" ++ column.toText ++ "\" in table \"" ++ table.toText ++
      "\" is not a date column, but \"" ++ declared.toText ++ "\""
  | invalidFormat format occurrences =>
    heading ++ ":\n" ++
      "  Parameter \"function_name_format\" must contain exactly one occurrence of \"%s\"\n" ++
      "  i.e. \"get%sWithLocalNames\" to generate method names like " ++
      "\"getMyDateColumnWithLocalNames()\"\n" ++
      "  Supplied value is \"" ++ format.toText ++ "\" (" ++ occurrences.toText ++ " occurrences)"
  | generation details => detailText details
  | noOperation kind operation => "'" ++ kind ++ "' object has no attribute '" ++ operation ++ "'"
  | notReplacement kind => "replace() argument 2 must be str, not " ++ kind
  | notKey kind => "unhashable type: '" ++ kind ++ "'"
  | unexpectedField record field =>
    record ++ ".__init__() got an unexpected keyword argument '" ++ field ++ "'"
  | missingFields record fields =>
    record ++ ".__init__() missing " ++ toString fields.length ++ " required positional argument" ++
      (if fields.length = 1 then "" else "s") ++ ": " ++ listed fields
  | surplusFields record expected given =>
    record ++ ".__init__() takes " ++ toString expected ++ " positional arguments but " ++
      toString given ++ " were given"
  | duplicateColumn column table =>
    "Duplicate column '" ++ column.toText ++ "' in table '" ++ table.toText ++ "'."
  | duplicateMapped distinction column table =>
    "A column with " ++ distinction ++ " '" ++ column ++ "' is already present in table '" ++
      table ++ "'."
  | noColumn column table =>
    "Column '" ++ column.toText ++ "' not found in table '" ++ table.toText ++ "'."
  | frozenField field => "cannot assign to field " ++ Text.quoted field
  | notFieldName kind => "attribute name must be string, not '" ++ kind ++ "'"
  | unknownTemplate kind => kind.written ++ " is not a valid TemplateKind"
  | tooManyDigits found =>
    "Exceeds the limit (4300 digits) for integer string conversion" ++
      (match found with
        | some digits => ": value has " ++ toString digits ++ " digits"
        | none => "") ++
      "; use sys.set_int_max_str_digits() to increase the limit"
  | noConfiguration searched =>
    Location.fileName ++ " not found. Searched: " ++ ", ".intercalate searched ++
      ". Provide an explicit path or configure " ++ Location.variableName ++ "."
  | nameTooLong path => "[Errno 36] File name too long: " ++ Text.quoted path
  | isDirectory path => "[Errno 21] Is a directory: " ++ Text.quoted path
  | notUtf8 => "The file is not UTF-8."
  | malformed => "The document is not well formed."
  | notMapping path => path ++ " must contain a mapping at top level."
  | sectionNotMapping key path kind =>
    "Section '" ++ key ++ "' in " ++ path ++ " must be a mapping, got " ++ kind ++ "."
  | optionsNotMapping table path kind =>
    "Options for table '" ++ table ++ "' in " ++ path ++ " must be a mapping, got " ++ kind ++ "."
  | calendar fault => fault.message
  | notInteger base codes =>
    "invalid literal for int() with base " ++ toString base ++ ": " ++ excerpt codes
  | notDecimal codes => "could not convert string to float: " ++ Text.quotedCodes codes
  | notFlag codes => String.ofList (Text.mended codes)
  | emptyNumber => "string index out of range"
  | integerTooLarge => "int too large to convert to float"
  | noCharacter wide =>
    if wide then "Python int too large to convert to C int"
    else "chr() arg not in range(0x110000)"
  | momentFromMapping => "expected string or bytes-like object, got 'list'"
  | endlessSearch => "maximum recursion depth exceeded"
  | notIterable kind => "'" ++ kind ++ "' object is not iterable"
  | entryNotSequence index =>
    "cannot convert dictionary update sequence element #" ++ toString index ++ " to a sequence"
  | entryLength index length =>
    "dictionary update sequence element #" ++ toString index ++ " has length " ++ toString length ++
      "; 2 is required"
  | unnamedColumn =>
    "Column must be constructed with a non-blank name or assign a non-blank .name before " ++
      "adding to a Table."

end Fault

/-- A run of this library. -/
abbrev Outcome := Except Fault

/-- A run of this library with a log. -/
abbrev Logged := Run Fault

namespace Value

/-- The text of a value, unless an integer in it is too long to be written. -/
def toText? (value : Value) : Outcome String :=
  if value.isWritable then .ok value.toText else .error (.tooManyDigits none)

@[simp]
theorem toText?_text (content : String) : (text content).toText? = .ok content := by
  simp [toText?]

/-- The text of a value, as a value.  A text with half of a surrogate pair stays as it is. -/
def textValue? (value : Value) : Outcome Value :=
  match value with
  | brokenText codes => .ok (brokenText codes)
  | value => value.toText?.map text

theorem textValue?_of_unbroken {value : Value} (unbroken : ∀ codes, value ≠ brokenText codes) :
    value.textValue? = value.toText?.map text := by
  cases value with
  | brokenText codes => exact absurd rfl (unbroken codes)
  | _ => rfl

@[simp]
theorem textValue?_text (content : String) : (text content).textValue? = .ok (text content) := by
  simp [textValue?, Except.map]

/-- The text content of a value for an operation that only texts have. -/
def asText (operation : String) : Value → Outcome String
  | text content => .ok content
  | brokenText codes => .ok (String.ofList (Text.mended codes))
  | value => .error (.noOperation value.kindName operation)

@[simp]
theorem asText_text (operation content : String) :
    (text content).asText operation = .ok content := rfl

end Value

end DateGetters
