import DateGetters.Yaml.Building
import DateGetters.Yaml.Reading

/-!
# Values of documents

The value of a document is put together from what its nodes have become.  A collection that stands
at several places is put together once.

A collection that leads back to itself has no value that could be written out.  It is unfolded to
the depth that matters: a document that is a mapping, its sections, and what a section holds.
Further in it is empty.
-/

namespace DateGetters.Yaml

/-- How far a collection has been put together. -/
inductive Assembly where
  | untouched
  | begun
  | done (value : Value)
  /-- It leads to a collection that leads back to itself. -/
  | endless

namespace Filling

/-- The value of a collection, given the values of its parts. -/
def assemble {m : Type → Type} [Monad m] (value : Part → m Value) : Filling → m Value
  | items parts => return .list (← parts.mapM value)
  | pairs parts =>
    return .list (← parts.mapM fun pair => return .pair (← value pair.1) (← value pair.2))
  | keys atoms => return .set (atoms.map Atom.value)
  | entries parts => return .map (← parts.mapM fun entry => return (entry.1.value, ← value entry.2))

/-- A collection of the same kind without anything in it. -/
def blank : Filling → Value
  | items _ | pairs _ => .list []
  | keys _ => .set []
  | entries _ => .map []

end Filling

namespace Assembly

/-- A step of putting values together. -/
abbrev Assembler := StateM (Array Assembly)

/-- What the collection of a number holds. -/
def fillingOf (fillings : Array (Option Filling)) (number : Nat) : Filling :=
  (fillings[number]?.join).getD (.items [])

/-- The value of a part, unless it leads to a collection that leads back to itself.  `steps` is more
than there are collections. -/
def finite? (fillings : Array (Option Filling)) : (steps : Nat) → Part → Assembler (Option Value)
  | _, .atom atom => return some atom.value
  | 0, .collection _ => return none
  | steps + 1, .collection number => do
    match (← get).getD number .endless with
    | .done value => return some value
    | .begun | .endless => return none
    | .untouched =>
      modify (·.setIfInBounds number .begun)
      let part (part : Part) : OptionT Assembler Value := OptionT.mk (finite? fillings steps part)
      let value ← ((fillingOf fillings number).assemble part).run
      modify (·.setIfInBounds number ((value.map Assembly.done).getD .endless))
      return value

/-- The value of a part, in which what leads back to itself is unfolded to a depth. -/
def unfolded (fillings : Array (Option Filling)) : (depth : Nat) → Part → Assembler Value
  | _, .atom atom => return atom.value
  | depth, .collection number => do
    let filling := fillingOf fillings number
    match ← finite? fillings (fillings.size + 1) (.collection number), depth with
    | some value, _ => return value
    | none, 0 => return filling.blank
    | none, depth + 1 => filling.assemble (unfolded fillings depth)

/-- The depth to which a collection that leads back to itself is unfolded. -/
def depth : Nat := 3

def valueOf (fillings : Array (Option Filling)) (part : Part) : Value :=
  ((unfolded fillings depth part).run (Array.replicate fillings.size .untouched)).1

end Assembly

/-- The value of a document, which is null if the document is empty. -/
def valueOf (document : ByteArray) : Outcome Value := do
  let (tokens, ending) := tokens (.ofBytes document)
  match ← Graph.ofTokens tokens (ending.getD .malformed) with
  | (none, _) => return .null
  | (some root, graph) =>
    let (part, fillings) ← Building.run graph root
    return Assembly.valueOf fillings part

end DateGetters.Yaml
