import DateGetters.Yaml.Node

/-!
# Merging mappings

A pair whose key is a merge key puts the pairs of another mapping, or of several in a sequence, in
front of the mapping's own; of several mappings the pairs of the last one come first.  The merge
pair itself is dropped, and a mapping to be merged is flattened first.

A mapping may be merged into a mapping that it holds, or into itself.  Since a merge pair is dropped
before the mappings it names are looked at, a mapping that is merged into itself gives the pairs it
has at that moment, and flattening comes to an end.

The key of a value as a whole is an ordinary text once its mapping has been flattened.
-/

namespace DateGetters.Yaml

namespace Graph

/-- The number of merge pairs in all mappings. -/
def mergePairs (graph : Graph) : Nat :=
  graph.foldl (fun total node =>
    match node with
    | .mapping _ pairs => total + pairs.countP fun pair => graph.hasTag .merge pair.1
    | _ => total) 0

/-- A step of merging. -/
abbrev Merging := StateT Graph Outcome

/-- The pairs of a mapping, which the node of a number must be. -/
def pairsOf (number : Nat) : Merging (List (Nat × Nat)) := do
  match (← get)[number]? with
  | some (.mapping _ pairs) => return pairs
  | _ => throw .malformed

/-- Give a mapping other pairs. -/
def setPairs (number : Nat) (pairs : List (Nat × Nat)) : Merging Unit :=
  modify (·.modify number (Node.withPairs pairs))

/-- Drop the first merge pair from a place on and give what it names, and the place.  Keys of values
as a whole become texts up to there. -/
def takeMerge (number place : Nat) : Merging (Option (Nat × Nat)) := do
  let pairs ← pairsOf number
  let graph ← get
  let passed := (pairs.drop place).takeWhile fun pair => !graph.hasTag .merge pair.1
  for (key, _) in passed do
    if graph.hasTag .value key then modify (·.modify key (Node.withTag .text))
  let place := place + passed.length
  match pairs[place]? with
  | none => return none
  | some (_, named) =>
    setPairs number (pairs.eraseIdx place)
    return some (place, named)

/-- Flatten a mapping from a place on, with the pairs that have been merged so far.  Every step
but the last drops a merge pair, so `steps` need only be more than there are. -/
def flattenFrom : (steps : Nat) → (number place : Nat) → (merged : List (Nat × Nat)) → Merging Unit
  | 0, _, _, _ => throw .malformed
  | steps + 1, number, place, merged => do
    match ← takeMerge number place with
    | none =>
      if !merged.isEmpty then setPairs number (merged ++ (← pairsOf number))
    | some (place, named) =>
      let flattened (mapping : Nat) : Merging (List (Nat × Nat)) := do
        flattenFrom steps mapping 0 []
        pairsOf mapping
      let found ←
        match (← get)[named]? with
        | some (.sequence _ items) => do
          let groups ← items.mapM flattened
          pure groups.reverse.flatten
        | _ => flattened named
      flattenFrom steps number place (merged ++ found)

end Graph

end DateGetters.Yaml
