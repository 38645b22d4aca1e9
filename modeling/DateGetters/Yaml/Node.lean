import DateGetters.Fault
import DateGetters.Yaml.Tag

/-!
# Nodes of a document

A document is made of nodes: scalars, sequences and mappings.  Nodes have numbers, and a collection
holds the numbers of its parts.  So a node that is given a name and referred to stands at several
places as one and the same node, and a collection may even stand inside itself.
-/

namespace DateGetters.Yaml

/-- A node of a document; the parts of a collection are given by their numbers. -/
inductive Node where
  | scalar (tag : Tag) (codes : List Nat)
  | sequence (tag : Tag) (items : List Nat)
  | mapping (tag : Tag) (pairs : List (Nat × Nat))

namespace Node

def tag : Node → Tag
  | scalar tag _ | sequence tag _ | mapping tag _ => tag

/-- A node with another type. -/
def withTag (tag : Tag) : Node → Node
  | scalar _ codes => scalar tag codes
  | sequence _ items => sequence tag items
  | mapping _ pairs => mapping tag pairs

/-- A mapping with other pairs; other nodes stay as they are. -/
def withPairs (pairs : List (Nat × Nat)) : Node → Node
  | mapping tag _ => mapping tag pairs
  | other => other

end Node

/-- The nodes of a document by their numbers. -/
abbrev Graph := Array Node

namespace Graph

def hasTag (graph : Graph) (tag : Tag) (number : Nat) : Bool :=
  graph[number]?.any (·.tag == tag)

/-- The first of some pairs whose key has a type. -/
def findKey? (graph : Graph) (tag : Tag) (pairs : List (Nat × Nat)) : Option (Nat × Nat) :=
  pairs.find? fun pair => graph.hasTag tag pair.1

/-- The code points of a node that is read as a scalar.  A mapping has those of its value as a
whole, which may be a mapping in turn. -/
def content (graph : Graph) : (steps : Nat) → (number : Nat) → Outcome (List Nat)
  | 0, _ => .error .endlessSearch
  | steps + 1, number =>
    match graph[number]? with
    | some (.scalar _ codes) => .ok codes
    | some (.mapping _ pairs) =>
      match graph.findKey? .value pairs with
      | some (_, value) => content graph steps value
      | none => .error .malformed
    | _ => .error .malformed

end Graph

end DateGetters.Yaml
