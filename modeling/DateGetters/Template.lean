import DateGetters.Fault

/-!
# Templates of getters

A getter is rendered from one of two templates: the basic one, which formats by the locale of the
running process, and the locale-aware one, which takes a locale as a parameter.

A template is a list of lines, and a line is a list of pieces: text that stands as it is, and
slots, which are filled.  The first line of a template is empty, so that getters joined by line
feeds are set apart.  Filling puts the given texts into all slots at once; what is put into a slot
is not looked at again.

`Template.source` is the template as one text, in which a slot is written as its name in braces,
and `Template.scan?` reads such a text.
-/

namespace DateGetters

/-- What a slot of a template stands for. -/
inductive Slot where
  | methodName
  | columnName
  | localeLiteral
deriving DecidableEq, Repr

/-- A piece of a template's line. -/
inductive Piece where
  | verbatim (content : String)
  | slot (slot : Slot)
deriving DecidableEq, Repr

/-- The two templates. -/
inductive TemplateKind where
  | basic
  | localeAware
deriving DecidableEq, Repr

/-- The texts that the slots of a template are filled with. -/
structure Fillings where
  methodName : String
  columnName : String
  localeLiteral : String

namespace Fillings

def textFor (fillings : Fillings) : Slot → String
  | .methodName => fillings.methodName
  | .columnName => fillings.columnName
  | .localeLiteral => fillings.localeLiteral

end Fillings

namespace TemplateKind

def name : TemplateKind → String
  | basic => "basic"
  | localeAware => "locale_aware"

/-- The locale-aware template if the option says something, and the basic one otherwise. -/
def ofOption (useLocale : Value) : TemplateKind :=
  if useLocale.isTruthy then localeAware else basic

def ofName (name : Value) : Outcome TemplateKind :=
  match name with
  | .text "basic" => .ok basic
  | .text "locale_aware" => .ok localeAware
  | other => .error (.unknownTemplate other)

end TemplateKind

namespace Template

/-- The lines after the first two that both templates begin their description with. -/
def summary (formatter : List String) : List (List Piece) :=
  [[.verbatim "    Get the [optionally formatted] temporal [", .slot .columnName,
    .verbatim "] column value using"]] ++
  formatter.map fun line => [.verbatim line]

/-- The lines on what a getter returns. -/
def returned : List String := [
  "    :return: Formatted date/time value as str, the raw date/datetime if",
  "        format is None, None if the column is None, and the raw stored value",
  "        (e.g. 0) if the column value is 0000-00-00."]

/-- The lines that read the column and hand back what is not to be formatted. -/
def guards : List (List Piece) := [
  [.verbatim "    value = self.", .slot .columnName],
  [.verbatim "    if format is None:"],
  [.verbatim "        return value"],
  [.verbatim "    if not isinstance(value, datetime.date):"],
  [.verbatim "        return None"]]

/-- Lines without slots. -/
def plain (lines : List String) : List (List Piece) :=
  lines.map fun line => [.verbatim line]

def basicLines : List (List Piece) :=
  [[], [.verbatim "def ", .slot .methodName, .verbatim "(self, format=None):"]] ++
  plain ["    \"\"\""] ++
  summary ["    strftime(), which honours the LC_TIME locale of the running process."] ++
  plain ([
    "",
    "    :param format: The date/time format string in strftime()-style.",
    "        If format is None, the raw value is returned."] ++
    returned ++ [
    "    :raises ValueError: if the value cannot be formatted with the format.",
    "    \"\"\"",
    "    import datetime",
    ""]) ++
  guards ++
  plain ["    return value.strftime(format)"]

def localeAwareLines : List (List Piece) :=
  [[], [.verbatim "def ", .slot .methodName, .verbatim "(self, format=None, locale=",
    .slot .localeLiteral, .verbatim "):"]] ++
  plain ["    \"\"\""] ++
  summary ["    Babel, which formats with CLDR locale data."] ++
  plain ([
    "",
    "    :param format: The date/time pattern in CLDR syntax, e.g. \"d. MMMM y\".",
    "        If format is None, the raw value is returned.",
    "    :param locale: Locale identifier such as \"de_DE\". If None, the LC_TIME",
    "        locale of the running process is used, or \"en_US_POSIX\" when the",
    "        process has none."] ++
    returned ++ [
    "    :raises babel.core.UnknownLocaleError: if the locale is not known.",
    "    :raises ValueError: if the value cannot be formatted with the pattern.",
    "    \"\"\"",
    "    import datetime",
    "",
    "    from babel.core import default_locale",
    "    from babel.dates import format_datetime",
    ""]) ++
  guards ++
  plain ["    return format_datetime(value, format, " ++
    "locale=locale or default_locale(\"LC_TIME\") or \"en_US_POSIX\")"]

def lines : TemplateKind → List (List Piece)
  | .basic => basicLines
  | .localeAware => localeAwareLines

def fillLine (fillings : Fillings) (line : List Piece) : String :=
  String.join (line.map fun
    | .verbatim content => content
    | .slot slot => fillings.textFor slot)

/-- The lines of a template with their slots filled. -/
def filledLines (kind : TemplateKind) (fillings : Fillings) : List String :=
  (lines kind).map (fillLine fillings)

def fill (kind : TemplateKind) (fillings : Fillings) : String :=
  "\n".intercalate (filledLines kind fillings)

/-- The slots that a template declares. -/
def slots : TemplateKind → List Slot
  | .basic => [.methodName, .columnName]
  | .localeAware => [.methodName, .columnName, .localeLiteral]

/-! ### Templates as text -/

def slotName : Slot → String
  | .methodName => "method_name"
  | .columnName => "column_name"
  | .localeLiteral => "locale_literal"

/-- A piece as it is written in a template's text. -/
def sourceOfPiece : Piece → List Char
  | .verbatim content => content.toList
  | .slot slot => '\x7b' :: (slotName slot).toList ++ ['\x7d']

/-- The pieces of a whole template, its line ends included. -/
def pieces (kind : TemplateKind) : List Piece :=
  [Piece.verbatim "\n"].intercalate (lines kind)

/-- The text that pieces make as they are written. -/
def sourceOf (pieces : List Piece) : List Char :=
  pieces.flatMap sourceOfPiece

def source (kind : TemplateKind) : List Char :=
  sourceOf (pieces kind)

/-- A character of a template that stands for itself, or a slot, named by what its braces hold. -/
inductive Element where
  | character (character : Char)
  | named (name : List Char)
deriving DecidableEq, Repr

/-- Where in a template's text a reader stands. -/
inductive ScanState where
  /-- In text that stands for itself. -/
  | outside
  /-- Behind an opening brace, which may be the first of two. -/
  | opened
  /-- Behind a closing brace, which must be the first of two. -/
  | closed
  /-- Inside a name, whose characters so far are kept in reverse. -/
  | naming (reversed : List Char)
deriving DecidableEq, Repr

/--
Read a template's text.  Two equal braces stand for one; a single opening brace begins a name,
which ends at the next closing brace and holds no opening one; a single closing brace, and a name
without end, are errors.  Whatever else could stand between the braces is read as part of the name,
and no slot has such a name.
-/
def scan? (state : ScanState) : List Char → Option (List Element)
  | [] => if state = .outside then some [] else none
  | character :: rest =>
    match state with
    | .outside =>
      if character = '\x7b' then scan? .opened rest
      else if character = '\x7d' then scan? .closed rest
      else (scan? .outside rest).map (.character character :: ·)
    | .opened =>
      if character = '\x7b' then (scan? .outside rest).map (.character character :: ·)
      else if character = '\x7d' then (scan? .outside rest).map (.named [] :: ·)
      else scan? (.naming [character]) rest
    | .closed =>
      if character = '\x7d' then (scan? .outside rest).map (.character character :: ·)
      else none
    | .naming reversed =>
      if character = '\x7d' then (scan? .outside rest).map (.named reversed.reverse :: ·)
      else if character = '\x7b' then none
      else scan? (.naming (character :: reversed)) rest

/-- The slot of a given name, among those that a template declares. -/
def slotNamed? (kind : TemplateKind) (name : List Char) : Option Slot :=
  (slots kind).find? fun slot => (slotName slot).toList = name

/-- What the elements of a template's text become, if every name is that of a declared slot. -/
def expand? (kind : TemplateKind) (fillings : Fillings) : List Element → Option (List Char)
  | [] => some []
  | .character character :: rest => (expand? kind fillings rest).map (character :: ·)
  | .named name :: rest => do
    let slot ← slotNamed? kind name
    let filled ← expand? kind fillings rest
    return (fillings.textFor slot).toList ++ filled

/-- Format a template's text: read it, then fill its slots. -/
def format? (kind : TemplateKind) (fillings : Fillings) (source : List Char) :
    Option (List Char) :=
  (scan? .outside source).bind (expand? kind fillings)

end Template

/-- Render the getter of a column; the log says which getter was rendered. -/
def renderGetter (kind : TemplateKind) (methodName columnName literal : Value) : Logged String := do
  let fillings : Fillings := ⟨methodName.toText, columnName.toText, literal.toText⟩
  let getter := Template.fill kind fillings
  Run.note .debug ("Rendered " ++ kind.name ++ " getter " ++ fillings.methodName ++
    "() for column " ++ fillings.columnName)
  return getter

end DateGetters
