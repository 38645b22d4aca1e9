/-!
# Case mapping by ranges

The letters of most scripts lie in runs in which every letter, or every second one, is mapped by
the same shift.  A case table is a list of such runs; a few letters become two or three, and those
are listed one by one.
-/

namespace DateGetters.Text

/-- A run of code points, `stride` apart, whose letters are all mapped by the same shift. -/
structure CaseRange where
  first : Nat
  last : Nat
  stride : Nat
  shift : Int

namespace CaseRange

/-- Whether a code point belongs to the run. -/
def contains (range : CaseRange) (code : Nat) : Bool :=
  range.first ≤ code && code ≤ range.last && (code - range.first) % range.stride == 0

/-- The code point that a member of the run is mapped to. -/
def image (range : CaseRange) (code : Nat) : Nat :=
  (Int.ofNat code + range.shift).toNat

end CaseRange

/-- A case table: runs mapped letter for letter, and single letters that become several. -/
structure CaseTable where
  ranges : List CaseRange
  expansions : List (Nat × List Nat)

namespace CaseTable

/-- The code points that a code point becomes; one outside the table stays as it is. -/
def codes (table : CaseTable) (code : Nat) : List Nat :=
  match table.ranges.find? (·.contains code) with
  | some range => [range.image code]
  | none =>
    match table.expansions.lookup code with
    | some images => images
    | none => [code]

def chars (table : CaseTable) (character : Char) : List Char :=
  (table.codes character.toNat).map Char.ofNat

/-- A text with every character mapped in its place. -/
def apply (table : CaseTable) (text : String) : String :=
  String.ofList (text.toList.flatMap table.chars)

end CaseTable

end DateGetters.Text
