import DateGetters.Locale
import DateGetters.Options
import DateGetters.Selection
import DateGetters.Template

/-!
# Generation of getters

Getters are generated for the selected columns of a table, one for each, and joined by line feeds.
The name format is checked first and the columns are selected next, so a failure of either leaves
no getter rendered.
-/

namespace DateGetters

variable {σ : Type} [Schema σ]

def columnGetter (options : Options) (column : Column) : Logged String := do
  let methodName ← NameFormat.methodName options.nameFormat column.identifier
  renderGetter (.ofOption options.useLocale) (.text methodName) column.name
    (.text (localeLiteral options.defaultLocale))

/-- The getters of selected columns, in order. -/
def columnGetters (options : Options) : List Column → Logged (List String)
  | [] => return []
  | column :: others => do
    let getter ← columnGetter options column
    let rest ← columnGetters options others
    return getter :: rest

/-- The entry that ends the log of a successful generation. -/
def generatedMessage (count : Nat) (kind : TemplateKind) (table : Value) : String :=
  "Generated " ++ toString count ++ " " ++ kind.name ++ " getter(s) for table " ++ table.toText

def generate (table : σ) (options : Options) : Logged String := do
  NameFormat.validate options.nameFormat
  let columns ← Selection.columns table options.columns
  let getters ← columnGetters options columns
  Run.note .info
    (generatedMessage getters.length (.ofOption options.useLocale) (Schema.name table))
  return "\n".intercalate getters

/-- Generate the getters of a table with options that are read from a value. -/
def generateWith (table : σ) (options : Value) : Logged String := do
  let options ← Options.ofValue options
  generate table options

end DateGetters
