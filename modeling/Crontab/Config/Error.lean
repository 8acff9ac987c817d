/-!
# Errors of the configuration
-/

set_option autoImplicit false

namespace Crontab

/-- Why a configuration, or a value in it, cannot be had. -/
inductive ConfigError where
  /-- No value stands at a key path. -/
  | notFound (key : String)
  /-- A text is no key path. -/
  | malformedPath
  /-- A file does not follow its format. -/
  | malformedFile
  /-- A value cannot be read as what is asked for. -/
  | wrongType
  /-- A section is neither a table nor a list. -/
  | malformedSection
  /-- A variable of the environment is no text. -/
  | malformedVariable
  /-- There is no such file. -/
  | missingFile
deriving DecidableEq, Repr

/-- The wording of an error; only that of a missing value is fixed. -/
def ConfigError.message? : ConfigError → Option String
  | notFound key => some ("Configuration error: missing configuration field \"" ++ key ++ "\"")
  | _ => none

end Crontab
