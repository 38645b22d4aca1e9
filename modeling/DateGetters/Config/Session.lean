import DateGetters.Config.Basic

/-!
# Sessions with a configuration

A configuration in use is changed and asked in turn.  A request that fails leaves the configuration
as it was, and so does one that only asks; the next request is answered in any case.
-/

namespace DateGetters

namespace Config

/-- What a configuration can be told or asked. -/
inductive Request where
  | setDefault (key value : Value)
  | setTable (table options : Value)
  | optionsFor (table : Value)
  | tableNames
  | everything

/-- What a request is answered with. -/
inductive Answer where
  | done
  | options (options : Options)
  | names (names : List Value)
  | config (config : Config)

/-- The answer to a request, and the configuration after it. -/
def answer (config : Config) : Request → Outcome (Answer × Config)
  | .setDefault key value => (config.setDefault key value).map fun next => (.done, next)
  | .setTable table options => (config.setTable table options).map fun next => (.done, next)
  | .optionsFor table => (config.optionsFor table).map fun options => (.options options, config)
  | .tableNames => .ok (.names config.tableNames, config)
  | .everything => .ok (.config config, config)

def after (config : Config) (request : Request) : Config :=
  match config.answer request with
  | .ok (_, next) => next
  | .error _ => config

def afterAll (config : Config) (requests : List Request) : Config :=
  requests.foldl after config

/-- The answers to a number of requests, each asked of the configuration that the ones before it
have left. -/
def answers (config : Config) : List Request → List (Outcome Answer)
  | [] => []
  | request :: others =>
    (config.answer request).map Prod.fst :: answers (config.after request) others

@[simp]
theorem afterAll_cons (config : Config) (request : Request) (others : List Request) :
    config.afterAll (request :: others) = (config.after request).afterAll others := rfl

/-- Asking for the options of a table changes nothing. -/
@[simp]
theorem after_optionsFor (config : Config) (table : Value) :
    config.after (.optionsFor table) = config := by
  cases found : config.optionsFor table <;> simp [after, answer, found, Except.map]

end Config

end DateGetters
