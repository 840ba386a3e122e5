import PinFlow.Run.Limits
import PinFlow.Runner.Error
import PinFlow.Runner.File
import PinFlow.Runner.Settings

/-!
The configuration of the runner: limits for every run and the filter of its log, from a settings
file and then from the environment.
-/

set_option autoImplicit false

namespace PinFlow.Runner

structure Configuration where
  limits : Limits
  logFilter : String
  deriving DecidableEq, Repr

namespace Configuration

def marker : String := "BOTFLOW"

def defaultFilter : String := "info"

/-- A setting of a certain type, or its default if it is absent; none if it is of a wrong type. -/
def settingOr? {α : Type} (convert? : Setting → Option α) (fallback : α) :
    Option Setting → Option α
  | some s => convert? s
  | none => some fallback

def limitsOf? (depth delay : Option Setting) : Option Limits := do
  let depth ← settingOr? Setting.count? Limits.defaultDepth depth
  let delay ← settingOr? Setting.real? Limits.defaultDelay delay
  return ⟨depth, delay⟩

/-- Limits in a table by their names, or in a list in order. -/
def limits? : Setting → Option Limits
  | .table entries =>
    limitsOf? (Fields.get? entries "max_depth") (Fields.get? entries "max_delay_secs")
  | .list items => limitsOf? items[0]? items[1]?
  | _ => none

def ofSettings? (s : Settings) : Option Configuration := do
  let limits ← settingOr? limits? .standard (s.get? "engine")
  let filter ← settingOr? Setting.text? defaultFilter (s.get? "log_filter")
  return ⟨limits, filter⟩

/-- The configuration of a settings text, if one is given, and the environment. -/
def load (content : Option (SettingsFormat × String)) (environment : List (String × String)) :
    Except Error Configuration :=
  match content.elim (some []) fun (format, s) => format.read? s with
  | none => .error (.config "not a settings text")
  | some entries =>
    let made := Settings.ofEnvironment marker environment
    match ofSettings? (Settings.putAll [] (entries ++ made)) with
    | some c => .ok c
    | none => .error (.config "invalid setting")

/-- The names under which a settings file is looked for: as it is given, and with an ending. -/
def names (path : String) : List String :=
  path :: SettingsFormat.all.map fun format => path ++ "." ++ format.ending

/-- A byte order mark at the beginning of a file does not belong to its text. -/
def textOf (path : String) (file : File) : Except Error String :=
  match readText path file with
  | .ok s => .ok (String.ofList (SettingsFile.withoutMark s.toList))
  | .error e => .error (.config e.message)

def textAt (files : String → File) (path : String) : Except Error (SettingsFormat × String) :=
  match (names path).find? fun name => (files name).isPresent with
  | none => .error (.config "no such file")
  | some name =>
    match SettingsFormat.ofPath? name with
    | none => .error (.config "not a settings file")
    | some format => (textOf name (files name)).map fun s => (format, s)

/-- Loads the configuration, from a file if a path is given. -/
def loadFrom (files : String → File) (path : Option String) (environment : List (String × String)) :
    Except Error Configuration :=
  match path with
  | none => load none environment
  | some path => do
    let content ← textAt files path
    load (some content) environment

end Configuration

end PinFlow.Runner
