import DateGetters.Schema.Column
import DateGetters.Schema.SqlType
import DateGetters.Text.Upper
import DateGetters.Text.Blank

/-!
# Tables

Getters are generated for the columns of a table, whatever holds the table.  `Schema` is what
generation needs to know of it: its name, its columns in order, whether it has a column of a given
name, and the column of a given name.

There are two kinds of tables.  A `Table` is assembled from columns and refuses a second column of
the same name; it is asked for a column by going through all of them.  A `MappedTable` stands for a
table of an object mapping: its columns are known by their keys, in a dictionary, and their types
by what they are compiled to, trimmed and in upper case.
-/

namespace DateGetters

/-- What generation needs to know of a table. -/
class Schema (σ : Type) where
  /-- The name of the table. -/
  name : σ → Value
  /-- The columns in order. -/
  columns : σ → List Column
  /-- Whether the table has a column of the given name. -/
  has : σ → Value → Outcome Bool
  /-- The column of the given name, which must be there. -/
  get : σ → Value → Outcome Column

/-- Change a field of a column of the given name.  Columns are never changed, so the outcome is a
fault in any case. -/
def Schema.assignColumn {σ : Type} [Schema σ] (table : σ) (column field : Value) :
    Outcome Unit := do
  let _ ← Schema.get table column
  .error (.ofAssignment field)

/-- A table assembled from columns. -/
structure Table where
  name : Value
  columns : List Column

namespace Table

/-- What is wrong with the first column whose name cannot be looked up or has occurred before. -/
def columnFault? (name : Value) (seen : List Value) : List Column → Option Fault
  | [] => none
  | column :: others =>
    if !column.name.isKey then some (.notKey column.name.kindName)
    else if seen.any (·.same column.name) then some (.duplicateColumn column.name name)
    else columnFault? name (seen ++ [column.name]) others

/-- The table of a name and columns with different names. -/
def make (name : Value) (columns : List Column) : Outcome Table :=
  match columnFault? name [] columns with
  | some fault => .error fault
  | none => .ok ⟨name, columns⟩

/-- Change a field of a table.  Tables are never changed, so the outcome is a fault. -/
def assign (_table : Table) (field : Value) : Outcome Unit :=
  .error (.ofAssignment field)

/-- Whether some column has the given name. -/
def has (table : Table) (column : Value) : Bool :=
  table.columns.any (·.name.same column)

/-- The first column of the given name, which must be there. -/
def get (table : Table) (column : Value) : Outcome Column :=
  match table.columns.find? (·.name.same column) with
  | some found => .ok found
  | none => .error (.noColumn column table.name)

instance : Schema Table where
  name := Table.name
  columns := Table.columns
  has table column := .ok (table.has column)
  get := Table.get

end Table

/-- A column of an object mapping, whose type is one of some library of types.  It is known by its
key, which is its name unless another key is given. -/
structure TypedColumn (τ : Type) where
  name : String
  key : Option String
  type : τ

abbrev MappedColumn := TypedColumn SqlType

/-- A column as it is in a mapped table. -/
structure KeyedColumn where
  /-- The key by which the column is known. -/
  key : String
  identifier : String
  /-- The declaration of the type, trimmed and in upper case. -/
  typeTag : String

/-- The column as generation sees it. -/
def KeyedColumn.toColumn (column : KeyedColumn) : Column :=
  ⟨.text column.key, .text column.typeTag, .text column.identifier⟩

namespace TypedColumn

variable {τ : Type}

/-- The key by which a column is known. -/
def knownAs (column : TypedColumn τ) : String :=
  column.key.getD column.name

def typeTag (compile : τ → Compiled) (column : TypedColumn τ) : String :=
  Text.upper (Text.trim (compile column.type).text)

def keyed (compile : τ → Compiled) (column : TypedColumn τ) : KeyedColumn :=
  ⟨column.knownAs, identifier column.knownAs, column.typeTag compile⟩

/-- What is wrong with the first column that has no name, or repeats the key or the name of an
earlier one. -/
def columnFault? (table : String) (seen : List (TypedColumn τ)) :
    List (TypedColumn τ) → Option Fault
  | [] => none
  | column :: others =>
    if column.name = "" then some .unnamedColumn
    else if seen.any (·.knownAs == column.knownAs) then
      let distinction := if column.knownAs = column.name then "name" else "key"
      some (.duplicateMapped distinction column.knownAs table)
    else if seen.any (·.name == column.name) then
      some (.duplicateMapped "name" column.name table)
    else columnFault? table (seen ++ [column]) others

/-- Columns without a fault have different keys, none of which was seen before. -/
theorem nodup_of_columnFault? {table : String} {seen columns : List (TypedColumn τ)}
    (faultless : columnFault? table seen columns = none) :
    (columns.map knownAs).Nodup ∧ ∀ column ∈ columns, column.knownAs ∉ seen.map knownAs := by
  induction columns generalizing seen with
  | nil => simp
  | cons column others ih =>
    simp only [columnFault?] at faultless
    split at faultless
    · cases faultless
    split at faultless
    · cases faultless
    next isNew =>
    split at faultless
    · cases faultless
    obtain ⟨distinct, unseen⟩ := ih faultless
    have fresh : column.knownAs ∉ seen.map knownAs := by
      simpa using isNew
    have unrepeated : column.knownAs ∉ others.map knownAs := by
      intro again
      obtain ⟨other, member, same⟩ := List.mem_map.mp again
      have unlike := unseen other member
      simp [same] at unlike
    refine ⟨List.nodup_cons.mpr ⟨unrepeated, distinct⟩, ?_⟩
    intro other member
    rcases List.mem_cons.mp member with rfl | inOthers
    · exact fresh
    · have unlike := unseen other inOthers
      simp only [List.map_append, List.mem_append, not_or] at unlike
      exact unlike.1

end TypedColumn

/-- A table of an object mapping.  Its columns have different keys. -/
structure MappedTable where
  name : String
  columns : List KeyedColumn
  distinct : (columns.map KeyedColumn.key).Nodup

namespace MappedTable

section Making

variable {τ : Type}

theorem nodup_keys_keyed
    (compile : τ → Compiled) {columns : List (TypedColumn τ)}
    (distinct : (columns.map TypedColumn.knownAs).Nodup) :
    ((columns.map (TypedColumn.keyed compile)).map KeyedColumn.key).Nodup := by
  rwa [List.map_map]

/-- The table of a name and mapped columns with different keys. -/
def ofColumns (compile : τ → Compiled) (name : String) (columns : List (TypedColumn τ))
    (distinct : (columns.map TypedColumn.knownAs).Nodup) : MappedTable :=
  ⟨name, columns.map (TypedColumn.keyed compile), nodup_keys_keyed compile distinct⟩

/-- The table of a name and mapped columns with names, all of which and whose keys are different,
where something tells what types are compiled to. -/
def makeWith (compile : τ → Compiled) (name : String) (columns : List (TypedColumn τ)) :
    Outcome MappedTable :=
  match faultless : TypedColumn.columnFault? name [] columns with
  | some fault => .error fault
  | none => .ok (ofColumns compile name columns (TypedColumn.nodup_of_columnFault? faultless).1)

end Making

def make (name : String) (columns : List MappedColumn) : Outcome MappedTable :=
  makeWith SqlType.compiled name columns

/-- A dictionary of columns, as what it has under each key. -/
abbrev Index := String → Option KeyedColumn

/-- Put a column under its key, in place of what was there. -/
def Index.put (index : Index) (column : KeyedColumn) : Index :=
  fun key => if key = column.key then some column else index key

/-- The dictionary of some columns, which are put into it in their order. -/
def Index.ofColumns (columns : List KeyedColumn) : Index :=
  columns.foldl Index.put fun _ => none

/-- What is under a key, if the key can be looked up at all. -/
def lookUp (table : MappedTable) (key : Value) : Outcome (Option KeyedColumn) :=
  match key with
  | .text content => .ok (Index.ofColumns table.columns content)
  | other => if other.isKey then .ok none else .error (.notKey other.kindName)

def has (table : MappedTable) (key : Value) : Outcome Bool :=
  (table.lookUp key).map Option.isSome

/-- The column of the given key, which must be there. -/
def get (table : MappedTable) (key : Value) : Outcome Column := do
  match ← table.lookUp key with
  | some column => .ok column.toColumn
  | none => .error (.noColumn key (.text table.name))

instance : Schema MappedTable where
  name table := .text table.name
  columns table := table.columns.map KeyedColumn.toColumn
  has := MappedTable.has
  get := MappedTable.get

end MappedTable

end DateGetters
