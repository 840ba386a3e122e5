import PinFlow.Document
import PinFlow.Runner.Settings.Path
import PinFlow.Runner.Settings.Reader

/-!
Settings from a file and from the environment. The name of a setting is understood as a path, so
that settings of both origins can lead into the same tables.
-/

set_option autoImplicit false

namespace PinFlow.Runner

inductive SettingsFormat where
  | lines
  | data
  deriving DecidableEq, Repr

namespace SettingsFormat

def ending : SettingsFormat → String
  | .lines => "toml"
  | .data => "json"

def all : List SettingsFormat := [.lines, .data]

/-- What follows the last point in the name of a file; before it there is something. -/
def endingOf? (path : String) : Option String :=
  let name := path.toList.reverse.takeWhile (· != '/')
  let ending := name.takeWhile (· != '.')
  if ending.length + 1 < name.length then some (String.ofList ending.reverse) else none

def ofPath? (path : String) : Option SettingsFormat :=
  all.find? fun format => endingOf? path == some format.ending

def read? (format : SettingsFormat) (s : String) : Option (List (String × Setting)) :=
  match format with
  | .lines => SettingsFile.read? s
  | .data =>
    match Value.read? s with
    | some (.object fields) => some (Setting.ofFields fields)
    | _ => none

end SettingsFormat

namespace Settings

def put (s : Settings) (entry : String × Setting) : Settings :=
  (Setting.assign entry.2 (.ofText entry.1) (.table s)).members

def putAll (s : Settings) (entries : List (String × Setting)) : Settings := entries.foldl put s

/-- A point in the place of every pair of underscores. -/
def pointed : List Char → List Char
  | '_' :: '_' :: rest => '.' :: pointed rest
  | c :: rest => c :: pointed rest
  | [] => []

/-- The name of the setting that a variable makes: what follows the marker, in lower case. -/
def nameOfVariable? (marker name : String) : Option String :=
  let marker := (Text.lower marker ++ "__").toList
  let name := (Text.lower name).toList
  if marker.isPrefixOf name then some (String.ofList (pointed (name.drop marker.length))) else none

def ofEnvironment (marker : String) (environment : List (String × String)) :
    List (String × Setting) :=
  environment.filterMap fun (name, content) =>
    (nameOfVariable? marker name).map (·, .ofVariable content)

end Settings

end PinFlow.Runner
