import Crontab.Config
import Crontab.Config.Toml.Document
import Crontab.Config.Yaml.Document

/-!
# Configuration files

* `Config.load` : the configuration of a file, with the environment laid over it.
-/

set_option autoImplicit false

namespace Crontab

/-- The formats of configuration files. -/
inductive FileFormat where
  | toml
  | yaml
deriving DecidableEq, Repr

/-- The fields that a text in some format holds; one mark of the byte order at its beginning does not
count. -/
def FileFormat.read? (format : FileFormat) (text : List Char) : Option (List (String × Value)) :=
  let body := match text with
    | '\ufeff' :: r => r
    | s => s
  match format with
  | toml => Toml.Document.read? body
  | yaml => Yaml.Document.read? body

/-- The configuration of a file, if there is one, with the environment laid over it.  What is wrong
with the file comes before what is wrong with the environment. -/
def Config.load (file : Option String) (format : FileFormat) (environment : List Variable) :
    Except ConfigError Config :=
  match file with
  | none => .error .missingFile
  | some text =>
    match format.read? text.toList with
    | none => .error .malformedFile
    | some fields => (ofTable fields).withEnvironment environment

end Crontab
