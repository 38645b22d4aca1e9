/-!
# Types of nodes

Every node of a document has a type.  A node may name its type in full; otherwise a collection has
the type of its kind, and the type of a scalar depends on how it is written.
-/

namespace DateGetters.Yaml

/-- The type of a node. -/
inductive Tag where
  | text
  | integer
  | decimal
  | flag
  | null
  | moment
  | bytes
  /-- A key with which another mapping is merged. -/
  | merge
  /-- A key under which a mapping has its value as a whole. -/
  | value
  | sequence
  | mapping
  | set
  /-- A sequence of mappings with one pair each. -/
  | pairs
  | unknown
deriving DecidableEq, Repr

namespace Tag

/-- What the full names of the known types begin with. -/
def namespaceText : String := "tag:yaml.org,2002:"

/-- The known types and the ends of their full names. -/
def known : List (String × Tag) := [("str", text), ("int", integer), ("float", decimal),
  ("bool", flag), ("null", null), ("timestamp", moment), ("binary", bytes), ("merge", merge),
  ("value", value), ("seq", sequence), ("map", mapping), ("set", set), ("omap", pairs),
  ("pairs", pairs)]

/-- The type of a full name. -/
def ofName (name : String) : Tag :=
  match known.find? fun entry => namespaceText ++ entry.1 = name with
  | some (_, tag) => tag
  | none => unknown

end Tag

end DateGetters.Yaml
