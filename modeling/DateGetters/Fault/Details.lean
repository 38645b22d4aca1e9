import DateGetters.Fault

/-!
# Failures of generation from their details

A failure of generation is made from its details, of which each kind wants a fixed number.
-/

namespace DateGetters

/-- The kinds of failures of generation. -/
inductive FailureKind where
  | general
  | columnNotFound
  | notTemporal
  | invalidFormat
deriving DecidableEq, Repr

namespace FailureKind

def name : FailureKind → String
  | general => "LocalizedDateError"
  | columnNotFound => "ColumnNotFound"
  | notTemporal => "NotATemporalColumn"
  | invalidFormat => "InvalidNameFormat"

def detailNames : FailureKind → List String
  | general => []
  | columnNotFound => ["column_name", "table_name"]
  | notTemporal => ["column_name", "table_name", "sql_type"]
  | invalidFormat => ["format", "occurrences"]

/-- What is wrong with a number of details that a kind does not want. -/
def countFault (kind : FailureKind) (given : Nat) : Fault :=
  let wanted := kind.detailNames
  if given < wanted.length then .missingFields kind.name (wanted.drop given)
  else .surplusFields kind.name (wanted.length + 1) (given + 1)

def make (kind : FailureKind) (details : List Value) : Outcome Fault :=
  match kind, details with
  | general, details => .ok (.generation details)
  | columnNotFound, [column, table] => .ok (.columnNotFound column table)
  | notTemporal, [column, table, declared] => .ok (.notTemporal column table declared)
  | invalidFormat, [format, occurrences] => .ok (.invalidFormat format occurrences)
  | kind, details => .error (kind.countFault details.length)

end FailureKind

end DateGetters
