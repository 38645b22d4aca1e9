import DateGetters.Generation

/-!
# Configurations

A configuration holds default options and, for some tables, options of their own.  The options of
a table are the defaults with the table's own options put over them, key by key.

The options of a table are a mapping, or anything from which one can be made: a value whose items
have two items each, a key and a value.  What says nothing stands for no options.
-/

namespace DateGetters

/-- Default options and the options of single tables, each table under its name. -/
structure Config where
  defaults : Entries
  tables : Entries
  /-- The path of the file that the configuration was read from, if it was. -/
  source : Option String := none

namespace Config

/-- The key and the value that an item is, given its place among the items. -/
def entryOf (index : Nat) (item : Value) : Outcome (Value × Value) :=
  match item.items? with
  | none => .error (.entryNotSequence index)
  | some [key, value] => if key.isKey then .ok (key, value) else .error (.notKey key.kindName)
  | some items => .error (.entryLength index items.length)

/-- The keys and values that items are, from a place among the items on. -/
def entriesFrom (index : Nat) : List Value → Outcome (List (Value × Value))
  | [] => .ok []
  | item :: others => do
    let entry ← entryOf index item
    return entry :: (← entriesFrom (index + 1) others)

def entriesOf (value : Value) : Outcome Entries :=
  match value with
  | .map entries => .ok entries
  | value =>
    if value.isTruthy then
      match value.items? with
      | some items => (entriesFrom 0 items).map Entries.ofList
      | none => .error (.notIterable value.kindName)
    else .ok []

def ownOptions (config : Config) (table : Value) : Outcome Entries :=
  entriesOf ((config.tables.find? table).getD .null)

/-- The entries from which the options of a table are read. -/
def mergedEntries (config : Config) (table : Value) : Outcome Entries :=
  (config.ownOptions table).map config.defaults.overlay

def optionsFor (config : Config) (table : Value) : Outcome Options :=
  if table.isKey then do Options.ofEntries (← config.mergedEntries table)
  else .error (.notKey table.kindName)

/-- The names of the tables that have options of their own, in order. -/
def tableNames (config : Config) : List Value :=
  config.tables.keys

def setDefault (config : Config) (key value : Value) : Outcome Config :=
  if key.isKey then .ok { config with defaults := config.defaults.put key value }
  else .error (.notKey key.kindName)

def setTable (config : Config) (table options : Value) : Outcome Config :=
  if table.isKey then .ok { config with tables := config.tables.put table options }
  else .error (.notKey table.kindName)

/-- The configuration that results from setting defaults and tables one by one. -/
def ofSettings (defaults tables : List (Value × Value)) : Outcome Config := do
  let config ← defaults.foldlM (fun config entry => config.setDefault entry.1 entry.2)
    ⟨[], [], none⟩
  tables.foldlM (fun config entry => config.setTable entry.1 entry.2) config

variable {σ : Type} [Schema σ]

def generate (config : Config) (table : σ) : Logged String := do
  let options ← config.optionsFor (Schema.name table)
  DateGetters.generate table options

end Config

end DateGetters
