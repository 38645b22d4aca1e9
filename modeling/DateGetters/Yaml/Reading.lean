import DateGetters.Yaml.Lexer
import DateGetters.Yaml.Node
import DateGetters.Yaml.Scalar

/-!
# Reading nodes

The nodes of a document are read from its tokens, no further than needed: where the tokens are at
their end and another one is wanted, the fault behind them counts.  A node may be given a name and
be referred to by it from then on, also within the node itself.
-/

namespace DateGetters.Yaml

/-- What is known while nodes are read. -/
structure Reading where
  tokens : List Token
  /-- What is wrong behind the tokens; the last token of a document without fault ends it. -/
  ending : Fault
  nodes : Graph
  /-- The numbers of the named nodes. -/
  names : List (String × Nat)
  /-- What the handles of tags stand for. -/
  handles : List (String × String)

namespace Reading

/-- A step of reading nodes. -/
abbrev Reader := StateT Reading Outcome

/-- The document is not well formed. -/
def refuse {α : Type} : Reader α := fun _ => .error .malformed

def peek : Reader Token := do
  let reading ← get
  match reading.tokens with
  | token :: _ => return token
  | [] => throw reading.ending

def pass : Reader Unit := modify fun reading => { reading with tokens := reading.tokens.tail }

/-- Add a node, whose number is the next one. -/
def add (node : Node) : Reader Nat :=
  modifyGet fun reading =>
    (reading.nodes.size, { reading with nodes := reading.nodes.push node })

/-- Add the node of an absent scalar. -/
def addEmpty : Reader Nat := add (.scalar .null [])

def fullTag (handle : Option String) (content : String) : Reader String := do
  match handle with
  | none => return content
  | some handle =>
    match (← get).handles.lookup handle with
    | some start => return start ++ content
    | none => refuse

/-- The name and the tag in front of a node, in either order. -/
def properties : Reader (Option String × Option String) := do
  match ← peek with
  | .anchor name =>
    pass
    match ← peek with
    | .tag handle content =>
      pass
      return (some name, some (← fullTag handle content))
    | _ => return (some name, none)
  | .tag handle content =>
    pass
    match ← peek with
    | .anchor name =>
      pass
      return (some name, some (← fullTag handle content))
    | _ => return (none, some (← fullTag handle content))
  | _ => return (none, none)

/-- Add a node and name it.  A name is given only once. -/
def addNamed (name : Option String) (node : Node) : Reader Nat := do
  match name with
  | none => add node
  | some name =>
    if ((← get).names.lookup name).isSome then refuse
    else
      let number ← add node
      modify fun reading => { reading with names := (name, number) :: reading.names }
      return number

/-- Add and name a collection before its parts, and give it its parts once they have been read. -/
def addCollection {α : Type} (name : Option String) (make : List α → Node)
    (parts : Reader (List α)) : Reader Nat := do
  let number ← addNamed name (make [])
  let node := make (← parts)
  modify fun reading => { reading with nodes := reading.nodes.setIfInBounds number node }
  return number

/-- The node of a name, which must have been given. -/
def named (name : String) : Reader Nat := do
  match (← get).names.lookup name with
  | some number => return number
  | none => refuse

/-- The mark that leaves the type of a node open. -/
def openTag : String := "!"

/-- A scalar: without a tag it is typed by its form if it is plain, and is a text otherwise. -/
def ofScalar (tag : Option String) (codes : List Nat) (plain : Bool) : Node :=
  match tag with
  | none => .scalar (if plain then Tag.ofCodes codes else .text) codes
  | some tag => .scalar (if tag = openTag then Tag.ofCodes codes else Tag.ofName tag) codes

def collectionTag (otherwise : Tag) (tag : Option String) : Tag :=
  match tag with
  | none => otherwise
  | some tag => if tag = openTag then otherwise else Tag.ofName tag

mutual

/-- Read a node.  `block` says whether a block collection may stand here, and `hanging` whether
the items of a sequence may stand here without an indentation of their own. -/
def read (block hanging : Bool) : (steps : Nat) → Reader Nat
  | 0 => refuse
  | steps + 1 => do
    match ← peek with
    | .reference name =>
      pass
      named name
    | _ =>
      let (name, tag) ← properties
      let sequence := addCollection name (Node.sequence (collectionTag .sequence tag))
      let mapping := addCollection name (Node.mapping (collectionTag .mapping tag))
      match ← peek with
      | .scalar codes plain =>
        pass
        addNamed name (ofScalar tag codes plain)
      | .flowSequenceStart =>
        pass
        sequence (flowItems true steps)
      | .flowMappingStart =>
        pass
        mapping (flowPairs true steps)
      | .blockEntry => if hanging then sequence (hangingItems steps) else emptyNode name tag
      | .blockSequenceStart =>
        if block then
          pass
          sequence (blockItems steps)
        else emptyNode name tag
      | .blockMappingStart =>
        if block then
          pass
          mapping (blockPairs steps)
        else emptyNode name tag
      | _ => emptyNode name tag

/-- A node of which there is nothing but a name or a tag. -/
def emptyNode (name tag : Option String) : Reader Nat :=
  if name.isNone && tag.isNone then refuse else addNamed name (ofScalar tag [] true)

/-- A node unless one of the given tokens follows, in which case there is an empty one. -/
def readUnless (stops : List Token) (block hanging : Bool) (steps : Nat) : Reader Nat :=
  match steps with
  | 0 => refuse
  | steps + 1 => do
    if stops.contains (← peek) then addEmpty else read block hanging steps

/-- The items of a block sequence and its end. -/
def blockItems : (steps : Nat) → Reader (List Nat)
  | 0 => refuse
  | steps + 1 => do
    match ← peek with
    | .blockEntry =>
      pass
      let item ← readUnless [.blockEntry, .blockEnd] true false steps
      return item :: (← blockItems steps)
    | .blockEnd =>
      pass
      return []
    | _ => refuse

/-- The items of a sequence that stand where its key stands. -/
def hangingItems : (steps : Nat) → Reader (List Nat)
  | 0 => refuse
  | steps + 1 => do
    match ← peek with
    | .blockEntry =>
      pass
      let item ← readUnless [.blockEntry, .key, .value, .blockEnd] true false steps
      return item :: (← hangingItems steps)
    | _ => return []

/-- The value behind a key, which is empty if there is no value token. -/
def valueUnless (stops : List Token) (block hanging : Bool) (steps : Nat) : Reader Nat :=
  match steps with
  | 0 => refuse
  | steps + 1 => do
    match ← peek with
    | .value =>
      pass
      readUnless stops block hanging steps
    | _ => addEmpty

/-- The pairs of a block mapping and its end. -/
def blockPairs : (steps : Nat) → Reader (List (Nat × Nat))
  | 0 => refuse
  | steps + 1 => do
    match ← peek with
    | .key =>
      pass
      let key ← readUnless [.key, .value, .blockEnd] true true steps
      let value ← valueUnless [.key, .value, .blockEnd] true true steps
      return (key, value) :: (← blockPairs steps)
    | .blockEnd =>
      pass
      return []
    | _ => refuse

/-- The items of a flow sequence and its end; an item may be a single pair.  Items are separated by
commas, and one may stand behind the last. -/
def flowItems (first : Bool) : (steps : Nat) → Reader (List Nat)
  | 0 => refuse
  | steps + 1 => do
    if (← peek) = .flowSequenceEnd then
      pass
      return []
    else
      if !first then
        if (← peek) = .flowEntry then pass else refuse
      match ← peek with
      | .key =>
        pass
        let key ← readUnless [.value, .flowEntry, .flowSequenceEnd] false false steps
        let value ← valueUnless [.flowEntry, .flowSequenceEnd] false false steps
        let pair ← add (.mapping .mapping [(key, value)])
        return pair :: (← flowItems false steps)
      | .flowSequenceEnd =>
        pass
        return []
      | _ =>
        let item ← read false false steps
        return item :: (← flowItems false steps)

/-- The pairs of a flow mapping and its end; a node without a colon is a key without a value. -/
def flowPairs (first : Bool) : (steps : Nat) → Reader (List (Nat × Nat))
  | 0 => refuse
  | steps + 1 => do
    if (← peek) = .flowMappingEnd then
      pass
      return []
    else
      if !first then
        if (← peek) = .flowEntry then pass else refuse
      match ← peek with
      | .key =>
        pass
        let key ← readUnless [.value, .flowEntry, .flowMappingEnd] false false steps
        let value ← valueUnless [.flowEntry, .flowMappingEnd] false false steps
        return (key, value) :: (← flowPairs false steps)
      | .flowMappingEnd =>
        pass
        return []
      | _ =>
        let key ← read false false steps
        let value ← addEmpty
        return (key, value) :: (← flowPairs false steps)

end

/-! ### Documents -/

/-- Take the directives in front of a document into account, given whether a version has been
stated and which handles have been explained. -/
def directives : (steps : Nat) → (versioned : Bool) → (handles : List (String × String)) →
    Reader (List (String × String))
  | 0, _, _ => refuse
  | steps + 1, versioned, handles => do
    match ← peek with
    | .directive (.version major) =>
      if versioned || major != 1 then refuse
      else
        pass
        directives steps true handles
    | .directive (.tagPrefix handle content) =>
      if (handles.lookup handle).isSome then refuse
      else
        pass
        directives steps versioned ((handle, content) :: handles)
    | .directive .other =>
      pass
      directives steps versioned handles
    | _ => return handles

/-- What the handles stand for that need no explanation. -/
def builtinHandles : List (String × String) :=
  [("!", "!"), ("!!", Tag.namespaceText)]

/-- Pass the marks that end a document. -/
def passEnds : (steps : Nat) → Reader Unit
  | 0 => return ()
  | steps + 1 => do
    if (← peek) = .documentEnd then
      pass
      passEnds steps

/-- Pass what follows the only document of a stream.  Another document is refused, but not before
its beginning has been read. -/
def passRest (steps : Nat) : Reader Unit := do
  passEnds steps
  if (← peek) = .streamEnd then return ()
  else
    let _ ← directives steps false []
    let _ ← peek
    refuse

/-- The node of a document that is announced by a mark. -/
def announced (steps : Nat) : Reader Nat := do
  let handles ← directives steps false []
  if (← peek) = .documentStart then pass else refuse
  modify fun reading => { reading with handles := handles ++ builtinHandles }
  match ← peek with
  | .directive _ | .documentStart | .documentEnd | .streamEnd => addEmpty
  | _ => read true false steps

/-- The node of the only document of a stream, if there is one. -/
def onlyDocument (steps : Nat) : Reader (Option Nat) := do
  match ← peek with
  | .streamEnd => return none
  | .directive _ | .documentStart =>
    let root ← announced steps
    passRest steps
    return some root
  | _ =>
    let root ← read true false steps
    passRest steps
    return some root

end Reading

/-- The nodes of a document and the number of the one that is the document itself, if there is one.
Between two tokens at most two steps are taken that lead further in. -/
def Graph.ofTokens (tokens : List Token) (ending : Fault) : Outcome (Option Nat × Graph) := do
  let start : Reading := ⟨tokens, ending, #[], [], Reading.builtinHandles⟩
  let (root, reading) ← (Reading.onlyDocument (3 * tokens.length + 8)).run start
  return (root, reading.nodes)

end DateGetters.Yaml
