import DateGetters.Fault
import DateGetters.Value.Entries

/-!
# Options of generation

Four options steer the generation of getters: the format of their names, the columns that get
one, whether the getters take a locale, and which locale they default to.

Options are usually read from a mapping.  Reading is lenient: other keys are ignored, a null is as
good as no entry, numbers and dates become texts, and a list of columns becomes a list in text.
Options that are given directly are taken as they are.
-/

namespace DateGetters

/-- The options of generation. -/
structure Options where
  nameFormat : Value
  columns : Value
  useLocale : Value
  defaultLocale : Value

namespace Options

def nameFormatKey : String := "function_name_format"

def columnsKey : String := "columns"

/-- The key of the switch between the templates. -/
def useLocaleKey : String := "use_intl"

def defaultLocaleKey : String := "default_locale"

/-- The name format if none is given. -/
def builtinNameFormat : String := "get%sUsingLocale"

/-- The default locale if none is given. -/
def builtinLocale : String := "null"

/-- The options if none are given. -/
def builtin : Options where
  nameFormat := .text builtinNameFormat
  columns := .null
  useLocale := .bool false
  defaultLocale := .text builtinLocale

/-- Whether a value that is meant as a flag is on: null, false, zero and the text `false` are off,
everything else is on. -/
def isOn : Value → Bool
  | .null => false
  | .bool flag => flag
  | .text content => content != "false"
  | .integer number => number != 0
  | .decimal number => number != 0.0
  | _ => true

/-- The value of an option that is given and not null. -/
def given? (entries : Entries) (key : String) : Option Value :=
  match entries.find? (.text key) with
  | none | some .null => none
  | some value => some value

def toTexts? : List Value → Outcome (List String)
  | [] => .ok []
  | value :: others => do
    let first ← value.toText?
    let rest ← toTexts? others
    return first :: rest

/-- The columns as one text: the items of a list or pair with commas between them.  The names of
columns are texts, so a text with half of a surrogate pair is taken as it shows. -/
def columnsText? : Value → Outcome String
  | .list items => (toTexts? items).map (", ".intercalate ·)
  | .pair first second => (toTexts? [first, second]).map (", ".intercalate ·)
  | value => value.toText?

def columnsValue? (value : Value) : Outcome Value :=
  (columnsText? value).map .text

/-- An option that is read, or what stands for it if it is not given. -/
def readOr (builtin : Value) (read : Value → Outcome Value) : Option Value → Outcome Value
  | none => .ok builtin
  | some value => read value

/-- Read options from the entries of a mapping. -/
def ofEntries (entries : Entries) : Outcome Options := do
  let columns ← readOr builtin.columns columnsValue? (given? entries columnsKey)
  let nameFormat ← readOr builtin.nameFormat Value.textValue? (given? entries nameFormatKey)
  let defaultLocale ←
    readOr builtin.defaultLocale Value.textValue? (given? entries defaultLocaleKey)
  let useLocale := ((given? entries useLocaleKey).map isOn).getD false
  return ⟨nameFormat, columns, .bool useLocale, defaultLocale⟩

/-- Read options from a value: a mapping, or anything that says nothing. -/
def ofValue (value : Value) : Outcome Options :=
  if value.isTruthy then
    match value with
    | .map entries => ofEntries entries
    | other => .error (.noOperation other.kindName "items")
  else .ok builtin

/-- Options with some fields given directly; a field that options do not have is refused. -/
def ofFields (fields : List (String × Value)) : Outcome Options :=
  let known := [nameFormatKey, columnsKey, useLocaleKey, defaultLocaleKey]
  match fields.find? fun field => !known.contains field.1 with
  | some (unknown, _) => .error (.unexpectedField "BehaviorParameters" unknown)
  | none =>
    .ok { nameFormat := (fields.lookup nameFormatKey).getD builtin.nameFormat
          columns := (fields.lookup columnsKey).getD builtin.columns
          useLocale := (fields.lookup useLocaleKey).getD builtin.useLocale
          defaultLocale := (fields.lookup defaultLocaleKey).getD builtin.defaultLocale }

/-- The entries from which options with these values are read. -/
def toEntries (options : Options) : Entries :=
  [(.text nameFormatKey, options.nameFormat), (.text columnsKey, options.columns),
    (.text useLocaleKey, options.useLocale), (.text defaultLocaleKey, options.defaultLocale)]

end Options

end DateGetters
