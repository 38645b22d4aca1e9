import DateGetters.Value.Equal
import DateGetters.Yaml.Merge
import DateGetters.Yaml.Scalar

/-!
# Building values

Nodes become values one after the other.  A scalar becomes a value at once.  A collection is first
made empty and put where it belongs, and is filled once all collections that were made before it
have been filled; so a collection may come to stand inside itself.  Of several faults in a document
the first counts in this order.

A node becomes one value, wherever it stands.  This shows in keys that are not numbers: such a key
equals no other, except that it equals itself and that the ones written by name are all the same.
-/

namespace DateGetters.Yaml

/-- The value of a scalar.  The values that are not numbers are told apart by their origin. -/
structure Atom where
  value : Value
  /-- The node of a value that is not a number and not written by name. -/
  origin : Option Nat

namespace Atom

/-- Whether a value is not a number. -/
def isNaN : Value → Bool
  | .decimal number => number.isNaN
  | _ => false

/-- Whether two scalars are the same key. -/
def same (left right : Atom) : Bool :=
  left.value.same right.value ||
    (isNaN left.value && isNaN right.value && left.origin == right.origin)

end Atom

/-- What a node has become. -/
inductive Part where
  | atom (atom : Atom)
  /-- The collection that the node of a number is. -/
  | collection (number : Nat)

/-- What a collection holds. -/
inductive Filling where
  | items (items : List Part)
  | pairs (pairs : List (Part × Part))
  | keys (keys : List Atom)
  | entries (entries : List (Atom × Part))

namespace Filling

/-- Put a part under a key: the first of equal keys stays in its place, and the last part counts. -/
def put (entries : List (Atom × Part)) (key : Atom) (part : Part) : List (Atom × Part) :=
  match entries with
  | [] => [(key, part)]
  | (present, old) :: others =>
    if present.same key then (present, part) :: others else (present, old) :: put others key part

end Filling

/-- What is known while values are built. -/
structure Building where
  graph : Graph
  /-- What the nodes have become so far, by their numbers. -/
  parts : Array (Option Part)
  /-- What the collections hold that have been filled, by their numbers. -/
  fillings : Array (Option Filling)
  /-- The collections that have been made since the last ones began to be filled, in reverse. -/
  made : List Nat

namespace Building

/-- A step of building values. -/
abbrev Builder := StateT Building Outcome

/-- The beginning, with nothing built. -/
def start (graph : Graph) : Building where
  graph := graph
  parts := Array.replicate graph.size none
  fillings := Array.replicate graph.size none
  made := []

def readScalar (graph : Graph) (number : Nat) (node : Node) : Outcome Atom := do
  let codes ← graph.content (graph.size + 1) number
  match node with
  | .mapping .moment _ => throw .momentFromMapping
  | _ =>
    let value ← node.tag.read codes
    return ⟨value, if Atom.isNaN value && !Scalar.isNamedNaN codes then some number else none⟩

/-- Whether the nodes of a type are collections. -/
def isCollection : Tag → Bool
  | .sequence | .mapping | .set | .pairs => true
  | _ => false

/-- Whether the nodes of a type are neither scalars nor collections. -/
def isNeither : Tag → Bool
  | .merge | .value | .unknown => true
  | _ => false

/-- What a node becomes, if it has not become anything yet. -/
def make (number : Nat) : Builder Part := do
  let building ← get
  match building.graph[number]? with
  | none => throw .malformed
  | some node =>
    if isNeither node.tag then throw .malformed
    else if isCollection node.tag then
      set { building with made := number :: building.made }
      return .collection number
    else return .atom (← readScalar building.graph number node)

/-- What a node becomes. -/
def build (number : Nat) : Builder Part := do
  match (← get).parts[number]? with
  | some (some part) => return part
  | _ =>
    let part ← make number
    modify fun building =>
      { building with parts := building.parts.setIfInBounds number (some part) }
    return part

/-- What a node becomes as a key, which no collection can be. -/
def buildKey (number : Nat) : Builder Atom := do
  match ← build number with
  | .atom atom => if atom.value.isKey then return atom else throw .malformed
  | .collection _ => throw .malformed

/-- What pairs of nodes become as entries, after the entries so far. -/
def buildEntries (found : List (Atom × Part)) : List (Nat × Nat) → Builder (List (Atom × Part))
  | [] => return found
  | (key, value) :: others => do
    let key ← buildKey key
    let part ← build value
    buildEntries (Filling.put found key part) others

/-- Do something to the nodes. -/
def onGraph {α : Type} (action : Graph.Merging α) : Builder α := do
  let building ← get
  let (result, graph) ← action.run building.graph
  set { building with graph := graph }
  return result

/-- The entries of a mapping once it has been flattened; `steps` is more than there are merge
pairs. -/
def mappingEntries (steps number : Nat) : Builder (List (Atom × Part)) := do
  let pairs ← onGraph do
    Graph.flattenFrom steps number 0 []
    Graph.pairsOf number
  buildEntries [] pairs

/-- The two parts of a mapping that has a single pair. -/
def onlyPair (number : Nat) : Builder (Part × Part) := do
  match ← onGraph (Graph.pairsOf number) with
  | [(key, value)] => do
    let first ← build key
    return (first, ← build value)
  | _ => throw .malformed

/-- What the collection that a node is holds. -/
def filling (steps number : Nat) : Builder Filling := do
  match (← get).graph[number]? with
  | some (.sequence .sequence items) => return .items (← items.mapM build)
  | some (.sequence .pairs items) => return .pairs (← items.mapM onlyPair)
  | some (.mapping .mapping _) => return .entries (← mappingEntries steps number)
  | some (.mapping .set _) => return .keys ((← mappingEntries steps number).map Prod.fst)
  | _ => throw .malformed

def fill (mergeSteps number : Nat) : Builder Unit := do
  let filling ← filling mergeSteps number
  modify fun building =>
    { building with fillings := building.fillings.setIfInBounds number (some filling) }

/-- Fill collections, and after them the ones that have been made meanwhile.  There are no more
collections than nodes, and each is filled once. -/
def fillAll (mergeSteps : Nat) : (steps : Nat) → (waiting : List Nat) → Builder Unit
  | 0, _ => return ()
  | steps + 1, number :: others => do
    fill mergeSteps number
    fillAll mergeSteps steps others
  | steps + 1, [] => do
    let made := (← get).made.reverse
    if made.isEmpty then return ()
    else
      modify fun building => { building with made := [] }
      fillAll mergeSteps steps made

/-- What a node becomes, and what all collections hold that it leads to. -/
def run (graph : Graph) (root : Nat) : Outcome (Part × Array (Option Filling)) := do
  let action : Builder Part := do
    let part ← build root
    fillAll (graph.mergePairs + 1) (2 * graph.size + 2) []
    return part
  let (part, building) ← action.run (start graph)
  return (part, building.fillings)

end Building

end DateGetters.Yaml
