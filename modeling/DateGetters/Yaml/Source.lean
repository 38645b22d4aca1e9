import DateGetters.Fault
import DateGetters.Text.Stream

/-!
# The characters of a document

A document is read as far as its reader looks ahead: block by block, and a block that is not looked
at is not read.  A block may be unreadable, because its bytes are no text or because it holds a
character that no document may hold.  The characters of a document are those of the blocks in front
of the first unreadable one, and whoever looks beyond them meets its fault.
-/

namespace DateGetters.Yaml

/-- Whether a character may stand in a document at all. -/
def isAllowed (character : Char) : Bool :=
  let code := character.toNat
  code == 0x09 || code == 0x0A || code == 0x0D || (0x20 ≤ code && code ≤ 0x7E) || code == 0x85 ||
    (0xA0 ≤ code && code ≤ 0xD7FF) || (0xE000 ≤ code && code ≤ 0xFFFD) || 0x10000 ≤ code

/-- The characters of a document as far as they can be read. -/
structure Source where
  characters : List Char
  /-- What stands behind them: nothing, or a block that cannot be read, by its fault. -/
  ending : Option Fault

namespace Source

/-- The number of characters that are read at once. -/
def blockSize : Nat := 4096

/-- What is wrong with a block, if anything is. -/
def blockFault? (characters : List Char) : Option Fault :=
  if characters.all isAllowed then none else some .malformed

/-- The blocks behind the first one; `steps` bounds their number. -/
def blocksFrom : (steps : Nat) → Text.Stream → List (List Char) × Option Fault
  | 0, _ => ([], none)
  | steps + 1, stream =>
    match stream.read blockSize with
    | none => ([], some .notUtf8)
    | some ([], _) => ([], none)
    | some (block, next) =>
      match blockFault? block with
      | some fault => ([], some fault)
      | none =>
        let (others, ending) := blocksFrom steps next
        (block :: others, ending)

/-- The document in a file.  Its first block is twice as large as the others, and both halves are
read before either is looked at. -/
def ofBytes (bytes : ByteArray) : Source :=
  let halves := do
    let (first, afterFirst) ← (Text.Stream.ofBytes bytes).read blockSize
    let (second, afterSecond) ← afterFirst.read blockSize
    return (first ++ second, afterSecond)
  match halves with
  | none => ⟨[], some .notUtf8⟩
  | some (block, next) =>
    match blockFault? block with
    | some fault => ⟨[], some fault⟩
    | none =>
      let (others, ending) := blocksFrom (bytes.size + 1) next
      ⟨block ++ others.flatten, ending⟩

end Source

end DateGetters.Yaml
