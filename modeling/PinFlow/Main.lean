import PinFlow.Runner.Session
import Std.Time.DateTime.Timestamp

/-!
The program: it reads files and the environment, lets every run of a session take place in a task of
its own and in real time, and prints the summary.
-/

set_option autoImplicit false

namespace PinFlow.Main

open PinFlow.Runner

def variableNames : List String :=
  [CommandLine.configVariable] ++
    ["__LOG_FILTER", "__ENGINE__MAX_DEPTH", "__ENGINE__MAX_DELAY_SECS"].map
      (Configuration.marker ++ ·)

def readVariables : IO (List (String × String)) :=
  variableNames.filterMapM fun name => do
    return (← IO.getEnv name).map (name, ·)

def readFile (path : String) : IO File := do
  match ← (IO.FS.readBinFile path).toBaseIO with
  | .ok content => return .bytes content
  | .error _ => return .missing

def readFiles (paths : List String) : IO (String → File) := do
  let found ← paths.mapM fun path => return (path, ← readFile path)
  return fun path => (found.lookup path).getD .missing

def millisNow : IO Nat := do
  return (← Std.Time.Timestamp.now).toMillisecondsSinceUnixEpoch.toInt.toNat

def randomNat (bytes : USize) : IO Nat := do
  return (← IO.getRandomBytes bytes).toList.foldl (fun n b => 256 * n + b.toNat) 0

def newUlid : IO Ulid := do return .ofParts (← millisNow) (← randomNat 10)

def newBirth : IO Birth := do
  let millis ← millisNow
  return ⟨← newUlid, ⟨millis / 1000, millis % 1000 * 1000000⟩⟩

def longestSleep : Nat := 1000000000

def sleep (millis : Nat) : IO Unit := do
  for _ in [0 : millis / longestSleep] do
    IO.sleep longestSleep.toUInt32
  IO.sleep (millis % longestSleep).toUInt32

/-- Lets a run take place; its actions do nothing. -/
def perform {α : Type} : Activity α → IO α
  | .done result => pure result
  | .noting _ _ rest => perform (rest ())
  | .calling call _ resume => perform (resume (Dispatcher.silent [] call))
  | .waiting delay _ resume => do
    sleep delay.millis
    perform (resume ())

/-- Performs a run and stamps it with a new identifier and its duration. -/
def performStamped (a : Activity RunOutcome) : IO (RunOutcome × String) := do
  let run : RunId := ⟨← newUlid⟩
  let before ← IO.monoMsNow
  let outcome ← perform a
  let after ← IO.monoMsNow
  return (outcome, stamp run (after - before))

def performSession (s : Session) : IO Exit := do
  let seed ← randomNat 8
  let dice (node : NodeId) (n : Nat) : Nat := (hash (seed, node, n)).toNat
  let tasks ← (s.runs dice).mapM fun a => IO.asTask (performStamped a)
  let outcomes ← tasks.mapM fun task => do IO.ofExcept (← IO.wait task)
  return .ofOutcomes outcomes

end PinFlow.Main

open PinFlow PinFlow.Runner PinFlow.Main in
def main (words : List String) : IO UInt32 := do
  let environment ← readVariables
  let files ← readFiles (World.paths words environment)
  let exit ←
    match World.sessionOf ⟨files, environment, ← newBirth⟩ words with
    | .error exit => pure exit
    | .ok session => performSession session
  IO.print exit.out
  IO.eprint exit.err
  return exit.code.toUInt32
