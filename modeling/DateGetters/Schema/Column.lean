import DateGetters.Naming

/-!
# Columns

A column has a name, the type it is declared with, and the identifier from which its getter is
named.  An identifier that says nothing is derived from the name.
-/

namespace DateGetters

/-- A column of a table. -/
structure Column where
  name : Value
  declaredType : Value
  identifier : Value

namespace Column

/-- A column whose identifier is the given one, or derived from the name if that says nothing. -/
def make (name declaredType identifier : Value) : Outcome Column :=
  if identifier.isTruthy then .ok ⟨name, declaredType, identifier⟩
  else (identifierOf name).map fun derived => ⟨name, declaredType, .text derived⟩

/-- A column from named fields, all of which must be known and none of the required ones missing. -/
def ofFields (fields : List (String × Value)) : Outcome Column :=
  match fields.find? fun field => field.1 ∉ ["name", "sql_type", "identifier_name"] with
  | some (unknown, _) => .error (.unexpectedField "Column" unknown)
  | none =>
    let missing := ["name", "sql_type"].filter fun required => (fields.lookup required).isNone
    match fields.lookup "name", fields.lookup "sql_type" with
    | some name, some declaredType =>
      make name declaredType ((fields.lookup "identifier_name").getD .null)
    | _, _ => .error (.missingFields "Column" missing)

/-- Whether two columns have equal fields. -/
def same (left right : Column) : Bool :=
  left.name.same right.name && left.declaredType.same right.declaredType &&
    left.identifier.same right.identifier

/-- A column that is named by a text, with a derived identifier. -/
theorem make_text (name : String) (declaredType : Value) :
    make (.text name) declaredType .null =
      .ok ⟨.text name, declaredType, .text (DateGetters.identifier name)⟩ := by
  simp [make, Value.isTruthy, Except.map]

end Column

end DateGetters
