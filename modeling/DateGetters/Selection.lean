import DateGetters.Schema.Table
import DateGetters.Text.Pieces

/-!
# Selection of columns

Without an option every temporal column of a table gets a getter, in the order of the table.  With
an option, a list of names separated by commas, the named columns get one, in the order of the
list; each must be there and be temporal.  A name that is listed more than once counts once, and
the log says so for each repetition.
-/

namespace DateGetters

/-- The types whose columns get a getter. -/
def temporalTypes : List String :=
  ["DATE", "DATETIME", "TIMESTAMP"]

/-- Whether the text of a type, whatever its case and the blanks around it, is a temporal one. -/
def isTemporalText (declared : String) : Bool :=
  temporalTypes.contains (Text.upper (Text.trim declared))

/-- Whether a declared type, which must be a text or say nothing, is temporal. -/
def isTemporalType (declared : Value) : Outcome Bool :=
  (declared.orBlank.asText "strip").map isTemporalText

namespace Selection

/-- The elements that differ from all before them, given those seen already. -/
def firsts (seen : List String) : List String → List String
  | [] => []
  | name :: others =>
    if seen.contains name then firsts seen others else name :: firsts (name :: seen) others

/-- The elements that equal one before them, given those seen already. -/
def repeats (seen : List String) : List String → List String
  | [] => []
  | name :: others =>
    if seen.contains name then name :: repeats seen others else repeats (name :: seen) others

/-- The warning about a name that is listed again. -/
def repeatWarning (name : String) : LogEntry :=
  ⟨.warning, "Column '" ++ name ++ "' is listed more than once; generating it once."⟩

/-- The trimmed pieces of a list of names. -/
def namesIn (option : String) : List String :=
  (Text.split ',' option).map Text.trim

/-- The different names in a list of names; the log warns of each repetition. -/
def splitText (option : String) : Logged (List String) :=
  let names := namesIn option
  ⟨(repeats [] names).map repeatWarning, .ok (firsts [] names)⟩

/-- The different names in an option, which must be a text or say nothing. -/
def split (option : Value) : Logged (List String) := do
  let content ← option.orBlank.asText "split"
  splitText content

variable {σ : Type} [Schema σ]

/-- The column of a requested name, which must be there and be temporal. -/
def resolve (table : σ) (name : Value) : Outcome Column := do
  if ← Schema.has table name then
    let column ← Schema.get table name
    if ← isTemporalType column.declaredType then
      .ok column
    else
      .error (.notTemporal name (Schema.name table) column.declaredType)
  else
    .error (.columnNotFound name (Schema.name table))

/-- The temporal ones of some columns, in their order. -/
def temporal : List Column → Outcome (List Column)
  | [] => .ok []
  | column :: others => do
    let wanted ← isTemporalType column.declaredType
    let rest ← temporal others
    return if wanted then column :: rest else rest

/-- The columns of the requested names, in the order of the names. -/
def resolveAll (table : σ) : List String → Outcome (List Column)
  | [] => .ok []
  | name :: others => do
    let column ← resolve table (.text name)
    let rest ← resolveAll table others
    return column :: rest

/-- The columns that get a getter. -/
def columns (table : σ) (option : Value) : Logged (List Column) := do
  if option.isTruthy then
    let names ← split option
    resolveAll table names
  else
    temporal (Schema.columns table)

end Selection

end DateGetters
