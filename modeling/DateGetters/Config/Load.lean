import DateGetters.Config.Basic
import DateGetters.Config.Search
import DateGetters.Yaml.Document

/-!
# Loading a configuration

A configuration file holds a mapping with two sections, both of which may be absent: `defaults`,
the default options, and `tables`, a mapping from the names of tables to their options.  What says
nothing counts as an empty mapping; anything else that is not a mapping is refused.

The names of tables are turned into texts.
-/

namespace DateGetters

namespace Config

def defaultsKey : String := "defaults"

def tablesKey : String := "tables"

/-- The entries of a value that is a mapping or says nothing. -/
def mappingEntries? (value : Value) : Option Entries :=
  match value with
  | .map entries => some entries
  | value => if value.isTruthy then none else some []

def sectionOf (path : String) (document : Entries) (key : String) : Outcome Entries :=
  let content := (document.find? (.text key)).getD .null
  match mappingEntries? content with
  | some entries => .ok entries
  | none => .error (.sectionNotMapping key path content.kindName)

/-- Check that the options of every table are a mapping or null. -/
def checkTables (path : String) : Entries → Outcome Unit
  | [] => .ok ()
  | (table, options) :: others =>
    match options with
    | .null | .map _ => checkTables path others
    | options => do
      let name ← table.toText?
      .error (.optionsNotMapping name path options.kindName)

/-- The tables under the texts of their names, each with a mapping for options. -/
def namedTables (found : Entries) : Entries → Outcome Entries
  | [] => .ok found
  | (table, options) :: others => do
    let name ← table.textValue?
    namedTables (found.put name (.map ((mappingEntries? options).getD []))) others

/-- The entry that the log has for a loaded configuration. -/
def loadedMessage (path : String) (count : Nat) : String :=
  "Loaded behavior config from " ++ path ++ " (" ++ toString count ++ " tables)"

/-- The entries of a document, which must be a mapping or say nothing. -/
def documentEntries (path : String) (document : Value) : Outcome Entries :=
  match mappingEntries? document with
  | some entries => .ok entries
  | none => .error (.notMapping path)

/-- The configuration in a document that was read from a path. -/
def ofDocument (path : String) (document : Value) : Logged Config := do
  let entries ← documentEntries path document
  let defaults ← sectionOf path entries defaultsKey
  let tables ← sectionOf path entries tablesKey
  checkTables path tables
  Run.note .debug (loadedMessage path tables.length)
  let tables ← namedTables [] tables
  return ⟨defaults, tables, some path⟩

/-- Find a configuration file and load it, where something reads the document in a file. -/
def loadWith (readDocument : ByteArray → Outcome Value) (files : Files) (given : Option String)
    (environment : Environment) : Logged Config := do
  let path ← Search.find files given environment
  let content ← files.read path
  let document ← readDocument content
  ofDocument path.text document

def load (files : Files) (given : Option String) (environment : Environment) : Logged Config :=
  loadWith Yaml.valueOf files given environment

end Config

end DateGetters
