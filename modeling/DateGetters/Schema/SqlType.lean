/-!
# SQL types

The columns of a mapped table have types of a library of their own, which compiles a type to the
text that declares it.  A type that it cannot compile is known by its name.

`SqlType` are the types that such a library offers.  In their declarations a length, a precision or
a scale stands in parentheses; a length of zero counts as none.
-/

namespace DateGetters

/-- What compiling a type gives. -/
inductive Compiled where
  /-- The text that declares the type. -/
  | declaration (content : String)
  /-- The type cannot be compiled and has nothing but a name. -/
  | nameOnly (name : String)

namespace Compiled

/-- The text by which a type is known. -/
def text : Compiled → String
  | declaration content => content
  | nameOnly name => name

end Compiled

/-- A column type of a mapped table. -/
inductive SqlType where
  | date
  | dateTime
  | timestamp
  | time
  | varchar (length : Option Nat)
  | char (length : Option Nat)
  | text (length : Option Nat)
  | integer
  | bigInteger
  | smallInteger
  | boolean
  | float
  | double
  | numeric (precision scale : Option Int)
  | decimal (precision scale : Option Int)
  | blob
  | varbinary (length : Option Nat)
  | json
  /-- One of a number of labels, stored as a text as long as the longest. -/
  | oneOf (labels : List String)
  | uuid
  | year
  /-- A type that declares itself by a text of its own. -/
  | custom (declaration : String)
  /-- A type that has no declaration and is known by its name only. -/
  | undeclared (name : String)

namespace SqlType

def withLength (name : String) (length : Option Nat) : String :=
  match length with
  | none | some 0 => name
  | some size => name ++ "(" ++ toString size ++ ")"

/-- A type name with a precision, and perhaps a scale, in parentheses. -/
def withPrecision (name : String) (precision scale : Option Int) : String :=
  match precision, scale with
  | none, _ => name
  | some digits, none => name ++ "(" ++ toString digits ++ ")"
  | some digits, some places => name ++ "(" ++ toString digits ++ ", " ++ toString places ++ ")"

/-- What each of the types is compiled to. -/
def compiled : SqlType → Compiled
  | date => .declaration "DATE"
  | dateTime => .declaration "DATETIME"
  | timestamp => .declaration "TIMESTAMP"
  | time => .declaration "TIME"
  | varchar length => .declaration (withLength "VARCHAR" length)
  | char length => .declaration (withLength "CHAR" length)
  | text length => .declaration (withLength "TEXT" length)
  | integer => .declaration "INTEGER"
  | bigInteger => .declaration "BIGINT"
  | smallInteger => .declaration "SMALLINT"
  | boolean => .declaration "BOOLEAN"
  | float => .declaration "FLOAT"
  | double => .declaration "DOUBLE"
  | numeric precision scale => .declaration (withPrecision "NUMERIC" precision scale)
  | decimal precision scale => .declaration (withPrecision "DECIMAL" precision scale)
  | blob => .declaration "BLOB"
  | varbinary length => .declaration (withLength "VARBINARY" length)
  | json => .declaration "JSON"
  | oneOf labels => .declaration (withLength "VARCHAR" ((labels.map String.length).max?))
  | uuid => .declaration "UUID"
  | year => .declaration "YEAR"
  | custom content => .declaration content
  | undeclared name => .nameOnly name

end SqlType

end DateGetters
