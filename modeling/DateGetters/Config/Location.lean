/-!
# Location of the configuration

The names by which a configuration is found: the file below the working directory, and the variable
of the environment that may name another.
-/

namespace DateGetters.Location

/-- The directory, below the working directory, in which a configuration is looked for. -/
def directoryName : String := "config"

def fileName : String := "localized_date.yaml"

/-- The variable of the environment that may name a configuration. -/
def variableName : String := "LOCALIZED_DATE_CONFIG_PATH"

end DateGetters.Location
