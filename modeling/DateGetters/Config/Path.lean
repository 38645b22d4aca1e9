import DateGetters.Text.Pieces

/-!
# Paths

A path is an anchor and the names that lead on from it.  Empty names and single dots are dropped
when a path is read; a double dot is kept, because what it leads to depends on the names before it.
-/

namespace DateGetters

/-- Where a path starts. -/
inductive Anchor where
  | relative
  | root
  /-- Two slashes, which are kept apart from one. -/
  | doubleRoot
  /-- The working directory, by the text of its own path. -/
  | workingDirectory (path : String)
deriving DecidableEq, Repr

/-- A path of a file or directory. -/
structure Path where
  anchor : Anchor
  names : List String
deriving DecidableEq, Repr

namespace Path

/-- The anchor that the slashes at the front of a path make. -/
def anchorOf : List Char → Anchor
  | '/' :: '/' :: '/' :: _ => .root
  | '/' :: '/' :: _ => .doubleRoot
  | '/' :: _ => .root
  | _ => .relative

def ofText (text : String) : Path where
  anchor := anchorOf text.toList
  names := (Text.split '/' text).filter fun name => name != "" && name != "."

def text (path : Path) : String :=
  let names := "/".intercalate path.names
  match path.anchor with
  | .relative => if path.names.isEmpty then "." else names
  | .root => "/" ++ names
  | .doubleRoot => "//" ++ names
  | .workingDirectory directory =>
    if path.names.isEmpty then directory
    -- The text of the root ends with a slash of its own.
    else if directory = "/" then "/" ++ names
    else directory ++ "/" ++ names

end Path

end DateGetters
