import DateGetters.Text.Literal
import DateGetters.Value.Written

/-!
# Locale literals

The default of a getter's locale parameter is written into the getter as an expression: `None` if
no locale is configured, and a string literal in plain ASCII otherwise.
-/

namespace DateGetters

/-- The option value that stands for no locale, as does a null. -/
def noLocale : String := "null"

/-- The expression that no locale is written as. -/
def nullLiteral : String := "None"

/-- The expression that a locale is written as. -/
def localeLiteral (locale : Value) : String :=
  match locale with
  | .null => nullLiteral
  | .text content => if content = noLocale then nullLiteral else Text.literal content
  | .brokenText codes => Text.literalOfCodes codes
  | other => Text.literal other.toText

end DateGetters
