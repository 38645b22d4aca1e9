/-!
# Reading a text from bytes

A text is read from bytes in UTF-8, a number of characters at a time.  The bytes are taken in
portions, each of which is decoded as a whole: bytes that are no UTF-8 spoil their portion, and
nothing in it is read.  A character that a portion breaks off is completed by the next one.  Every
line end, of either kind, is read as a line feed.
-/

namespace DateGetters.Text

/-- What is left of a text that is being read. -/
structure Stream where
  bytes : ByteArray
  /-- How many of the bytes have been taken. -/
  taken : Nat
  /-- The bytes that have been taken of a character of which some are missing. -/
  begun : ByteArray
  /-- Whether a carriage return has been taken to which a line feed may belong. -/
  awaitsFeed : Bool
  /-- The characters that have been decoded and not been read. -/
  ready : List Char
  /-- The bytes per character in the last portion. -/
  width : Float

namespace Stream

/-- A text of which nothing has been read. -/
def ofBytes (bytes : ByteArray) : Stream where
  bytes := bytes
  taken := 0
  begun := .empty
  awaitsFeed := false
  ready := []
  width := 0

/-! ### Decoding -/

/-- Whether a byte may follow the first byte of a character of three or four.  That a character is
half of a surrogate pair does not matter until it is complete. -/
def mayFollow (first second : UInt8) : Bool :=
  let least : UInt8 := if first = 0xE0 then 0xA0 else if first = 0xF0 then 0x90 else 0x80
  let greatest : UInt8 := if first = 0xF4 then 0x8F else 0xBF
  least ≤ second && second ≤ greatest

/-- Whether bytes are the beginning of a character, and not all of it. -/
def beginsCharacter : List UInt8 → Bool
  | [first] => 0xC2 ≤ first && first ≤ 0xF4
  | [first, second] => 0xE0 ≤ first && first ≤ 0xF4 && mayFollow first second
  | [first, second, third] =>
    0xF0 ≤ first && first ≤ 0xF4 && mayFollow first second && 0x80 ≤ third && third ≤ 0xBF
  | _ => false

/-- The characters of bytes but for the last few, so many, which must begin a character. -/
def decodeBefore (bytes : ByteArray) (count : Nat) : Option (List Char × ByteArray) := do
  let tail := bytes.extract (bytes.size - count) bytes.size
  guard (count = 0 || beginsCharacter tail.toList)
  let content ← String.fromUTF8? (bytes.extract 0 (bytes.size - count))
  return (content.toList, tail)

/-- The characters of bytes, and the bytes of a character that is begun at the end. -/
def decode (bytes : ByteArray) : Option (List Char × ByteArray) :=
  [0, 1, 2, 3].findSome? (decodeBefore bytes)

/-- The characters of a text with every line end, of either kind, as a line feed. -/
def unifyLines : List Char → List Char
  | '\r' :: '\n' :: rest => '\n' :: unifyLines rest
  | '\r' :: rest => '\n' :: unifyLines rest
  | character :: rest => character :: unifyLines rest
  | [] => []

/-! ### Portions -/

/-- The least number of bytes that are taken in one portion, if there are so many. -/
def portionSize : Nat := 8192

/-- Take one portion in order to read some more characters; says whether it was of any use.  No
portion but the last is empty, and with the last one every character must be complete. -/
def takePortion (wanted : Nat) (stream : Stream) : Option (Bool × Stream) := do
  let width := if stream.width < 1 then 1 else stream.width
  let size := max portionSize (width * Float.ofNat wanted).toUInt64.toNat
  let portion := stream.bytes.extract stream.taken (stream.taken + size)
  let last := portion.isEmpty
  let (decoded, begun) ← decode (stream.begun ++ portion)
  guard (!last || begun.isEmpty)
  let returned := stream.awaitsFeed && (last || !decoded.isEmpty)
  let content := if returned then '\r' :: decoded else decoded
  let held := !last && content.getLast? == some '\r'
  let characters := unifyLines (if held then content.dropLast else content)
  return (!last || !characters.isEmpty,
    { stream with
      taken := stream.taken + portion.size
      begun := begun
      awaitsFeed := held || (stream.awaitsFeed && !returned)
      ready := characters
      width :=
        if characters.isEmpty then 0
        else Float.ofNat portion.size / Float.ofNat characters.length })

/-- Go on reading; `steps` bounds the number of portions. -/
def readOn : (steps : Nat) → (wanted : Nat) → Stream → Option (List Char × Stream)
  | 0, _, stream => some ([], stream)
  | steps + 1, wanted, stream => do
    let (found, rest) := stream.ready.splitAt wanted
    let stream := { stream with ready := rest }
    if wanted ≤ found.length then return (found, stream)
    else
      let missing := wanted - found.length
      let (useful, next) ← stream.takePortion missing
      if useful then
        let (others, last) ← readOn steps missing next
        return (found ++ others, last)
      else return (found, next)

/-- The next characters of a text, so many if there are so many; there are none if they cannot be
decoded. -/
def read (wanted : Nat) (stream : Stream) : Option (List Char × Stream) :=
  readOn (stream.bytes.size + 3) wanted stream

end Stream

end DateGetters.Text
