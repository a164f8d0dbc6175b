import LoadBalancer.Document.Json
import LoadBalancer.Document.Yaml.Tree
import LoadBalancer.Document.Yaml.Writer
import LoadBalancer.Settings.Overrides

/-!
# Loading settings

* `Format` – the two formats of settings;
* `Settings.read` – settings from a text;
* `Settings.load` – settings from a text after overrides, if they are valid;
* `Settings.text` – settings as a text;
* `Settings.survives` – written and loaded again, the settings have the same routes.
-/

namespace LoadBalancer

open LoadBalancer.Document

/-- A format of settings. -/
inductive Format where
  | yaml
  | json
  deriving DecidableEq, Repr

namespace Format

/-- The document of a text. -/
def read : Format → String → Whole
  | .yaml => Yaml.read
  | .json => Json.read

/-- What an error says before the fault of a document. -/
def complaint : Format → String
  | .yaml => "Failed to parse config: "
  | .json => "Failed to parse JSON config: "

end Format

namespace Settings

/-- The error of a file that is not there. -/
def missingFile : Error :=
  .configuration "Failed to read config file: No such file or directory (os error 2)"

/-- Settings from a text. -/
def read (f : Format) (text : String) : Except Error Settings :=
  (Reading.takeAll ofNode (f.read text)).mapError fun e => .configuration (f.complaint ++ e.message)

/-- Settings from a text after overrides, if they are valid. -/
def load (f : Format) (vars : Variables) (text : String) : Except Error Settings := do
  let (s, outcome) := (← read f text).override vars
  outcome
  s.validate
  return s

/-- Settings as a text. -/
def text (s : Settings) : String :=
  Yaml.write s.toNode

/-- Written and loaded again, the settings have the same routes. -/
def survives (s : Settings) : Bool :=
  match load .yaml Variables.none s.text with
  | .ok t => t.routes == s.routes
  | .error _ => false

end Settings

end LoadBalancer
