import DateGetters.Config.Files

/-!
# Search for a configuration

A configuration is looked for at three places, of which the first two need not be named: a path
given by the caller, a path given by the environment, and a fixed one below the working directory.
The first that exists is taken; a place that is named but does not exist is passed over.
-/

namespace DateGetters

/-- The variables of an environment that are set. -/
abbrev Environment := List (String × String)

/-- The value of a variable if it is set and not empty, or a default. -/
def Environment.settingOr (environment : Environment) (key : String) (otherwise : Value) : Value :=
  match environment.lookup key with
  | none | some "" => otherwise
  | some content => .text content

namespace Search

/-- The path that a text names; the empty text names none. -/
def named : Option String → List Path
  | none | some "" => []
  | some path => [Path.ofText path]

/-- The places at which a configuration is looked for, in order. -/
def candidates (workingDirectory : String) (given setting : Option String) : List Path :=
  named given ++ named setting ++
    [⟨.workingDirectory workingDirectory, [Location.directoryName, Location.fileName]⟩]

/-- The first of some paths at which something is. -/
def firstThere (isThere : Path → Outcome Bool) : List Path → Outcome (Option Path)
  | [] => .ok none
  | path :: others => do
    if ← isThere path then .ok (some path) else firstThere isThere others

/-- The first of some paths at which something is; there must be one. -/
def findAmong (isThere : Path → Outcome Bool) (paths : List Path) : Outcome Path := do
  match ← firstThere isThere paths with
  | some path => .ok path
  | none => .error (.noConfiguration (paths.map Path.text))

/-- Find a configuration where something tells whether anything is at a path. -/
def findWhere (isThere : Path → Outcome Bool) (workingDirectory : String) (given : Option String)
    (environment : Environment) : Outcome Path :=
  findAmong isThere
    (candidates workingDirectory given (environment.lookup Location.variableName))

def find (files : Files) (given : Option String) (environment : Environment) : Outcome Path :=
  findWhere files.exists? files.workingDirectory given environment

end Search

end DateGetters
