import DateGetters.Config.Path
import DateGetters.Fault

/-!
# Files

The files that a search can see: those in and around the working directory.  Of what lies above it
only the directories on the way to the root are known, and what has been put there.

A path is followed name by name.  A name can be followed only from a directory, and a double dot
leads to the directory above.  A name of more than 255 bytes fails, once it is reached; a path of
4096 bytes fails at once; a path that holds a NUL leads nowhere.
-/

namespace DateGetters

/-- What stands at a place. -/
inductive FileEntry where
  | directory
  | file (bytes : ByteArray)

/-- A place that a path has led to. -/
inductive Place where
  /-- Some names below the directory that is so many levels above the working directory. -/
  | near (levels : Nat) (names : List String)
  /-- The root of all directories. -/
  | root
deriving DecidableEq, Repr

namespace Place

def workingDirectory : Place := .near 0 []

/-- The place that a name leads to from a directory, unless nothing is known of it. -/
def follow (place : Place) (name : String) : Option Place :=
  match place with
  | .near levels names =>
    if name = ".." then
      if names.isEmpty then some (.near (levels + 1) []) else some (.near levels names.dropLast)
    else some (.near levels (names ++ [name]))
  | .root => if name = ".." then some .root else none

/-- Whether a place is another one or below it. -/
def isWithin (inner outer : Place) : Bool :=
  match inner, outer with
  | .near levels names, .near others front => levels == others && front.isPrefixOf names
  | _, _ => false

/-- The places that names lead through from a place. -/
def passed (place : Place) : List String → List Place
  | [] => []
  | name :: others =>
    match place.follow name with
    | some next => next :: passed next others
    | none => []

end Place

/-- The files that a search can see. -/
structure Files where
  /-- The text of the working directory's own path. -/
  workingDirectory : String
  /-- What has been put at places, the last first. -/
  entries : List (Place × FileEntry)

namespace Files

/-- The files around a working directory in which nothing is. -/
def empty (workingDirectory : String) : Files := ⟨workingDirectory, []⟩

/-- Put something at the end of a relative path.  Directories are made wherever the path leads
through. -/
def put (files : Files) (path : Path) (entry : FileEntry) : Files :=
  match (Place.workingDirectory.passed path.names).reverse with
  | [] => files
  | place :: others =>
    { files with entries := (place, entry) :: others.map (·, .directory) ++ files.entries }

/-- What stands at a place.  A directory stands wherever the working directory or something that has
been put is below. -/
def entry? (files : Files) (place : Place) : Option FileEntry :=
  match files.entries.lookup place, place with
  | some entry, _ => some entry
  | _, .root | _, .near _ [] => some .directory
  | _, .near _ (_ :: _) =>
    if files.entries.any fun entry => entry.1.isWithin place then some .directory else none

/-- The greatest number of bytes in a name. -/
def nameLimit : Nat := 255

/-- The number of bytes at which a path is too long. -/
def pathLimit : Nat := 4096

/-- What names lead to from a place; `path` is the path that is followed. -/
def walk (files : Files) (path : String) (place : Place) : List String → Outcome (Option FileEntry)
  | [] => .ok (files.entry? place)
  | name :: others =>
    match files.entry? place with
    | some .directory =>
      if nameLimit < name.utf8ByteSize then .error (.nameTooLong path)
      else
        match place.follow name with
        | some next => walk files path next others
        | none => .ok none
    | _ => .ok none

/-- What stands at the end of a path. -/
def locate (files : Files) (path : Path) : Outcome (Option FileEntry) :=
  let text := path.text
  if text.toList.contains '\x00' then .ok none
  else if pathLimit ≤ text.utf8ByteSize then .error (.nameTooLong text)
  else
    let start : Place :=
      match path.anchor with
      | .relative | .workingDirectory _ => .workingDirectory
      | .root | .doubleRoot => .root
    files.walk text start path.names

/-- Whether anything stands at the end of a path. -/
def exists? (files : Files) (path : Path) : Outcome Bool :=
  (files.locate path).map Option.isSome

/-- The bytes of the file at the end of a path. -/
def read (files : Files) (path : Path) : Outcome ByteArray := do
  match ← files.locate path with
  | some (.file bytes) => .ok bytes
  | some .directory => .error (.isDirectory path.text)
  | none => .error (.noConfiguration [path.text])

end Files

end DateGetters
