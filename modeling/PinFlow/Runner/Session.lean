import PinFlow.Runner.CommandLine
import PinFlow.Runner.Configuration
import PinFlow.Runner.Summary

/-!
One use of the command line: what is prepared in which order, and what is shown at the end.
-/

set_option autoImplicit false

namespace PinFlow.Runner

structure World where
  files : String → File
  environment : List (String × String)
  birth : Birth

structure Session where
  bot : Bot
  event : EventKind
  trigger : Trigger
  limits : Limits

namespace Session

/-- Prepares a session: configuration, event, bot and payload, in this order. -/
def prepare (w : World) (o : Options) : Except Error Session := do
  let configuration ← Configuration.loadFrom w.files o.config w.environment
  let event := EventKind.ofName o.event
  if event.isUnknown then throw (.unknownEvent o.event)
  let bot ← readBot w.birth o.bot (w.files o.bot)
  let payload ← match o.payload with
    | some path => readPayload path (w.files path)
    | none => .ok (.object [])
  return ⟨bot, event, .ofPayload event payload, configuration.limits⟩

def runs (s : Session) (dice : NodeId → Nat → Nat) : List (Activity RunOutcome) :=
  s.bot.runs s.limits dice s.event s.trigger

end Session

structure Exit where
  code : Nat
  out : String
  err : String
  deriving DecidableEq, Repr

namespace Exit

def usage : Exit := ⟨2, "", CommandLine.usageText⟩

def ofError (e : Error) : Exit := ⟨1, "", e.message ++ "\n"⟩

def ofOutcomes (outcomes : List (RunOutcome × String)) : Exit :=
  ⟨if noneFailed (outcomes.map Prod.fst) then 0 else 1, summary outcomes, ""⟩

end Exit

namespace World

def configPath? (environment : List (String × String)) : Option String :=
  environment.lookup CommandLine.configVariable

def sessionOf (w : World) (words : List String) : Except Exit Session :=
  match CommandLine.parse? words (configPath? w.environment) with
  | none => .error .usage
  | some .help => .error ⟨0, CommandLine.helpText (configPath? w.environment), ""⟩
  | some .version => .error ⟨0, CommandLine.versionText, ""⟩
  | some (.run options) =>
    match Session.prepare w options with
    | .error e => .error (.ofError e)
    | .ok session => .ok session

def paths (words : List String) (environment : List (String × String)) : List String :=
  match CommandLine.parse? words (configPath? environment) with
  | some (.run options) =>
    options.bot :: options.payload.toList ++
      options.config.toList.flatMap Configuration.names
  | _ => []

/-- Runs the command line on the virtual clock, with actions that do nothing and one stamp for all
    runs. -/
def simulate (w : World) (dice : NodeId → Nat → Nat) (stamp : String) (words : List String) :
    Exit :=
  match w.sessionOf words with
  | .error exit => exit
  | .ok session => .ofOutcomes ((Pool.play .silent (session.runs dice)).result.map (·, stamp))

end World

end PinFlow.Runner
