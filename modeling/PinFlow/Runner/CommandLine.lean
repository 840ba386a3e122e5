/-!
The command line: a bot file, and options for the event, its payload and the configuration.

An option takes its value from the same word behind an equals sign, or right behind its letter, or
from the next word. After two hyphens every word is a file.
-/

set_option autoImplicit false

namespace PinFlow.Runner

structure Options where
  bot : String
  event : String
  payload : Option String
  config : Option String
  deriving DecidableEq, Repr

inductive Command where
  | run (options : Options)
  | help
  | version
  deriving DecidableEq, Repr

namespace CommandLine

inductive Flag where
  | event
  | payload
  | config
  | help
  | version
  deriving DecidableEq, Repr

def Flag.ofLetter? : Char → Option Flag
  | 'e' => some .event
  | 'p' => some .payload
  | 'c' => some .config
  | 'h' => some .help
  | 'V' => some .version
  | _ => none

def Flag.ofName? (name : String) : Option Flag :=
  match name with
  | "event" => some .event
  | "payload" => some .payload
  | "config" => some .config
  | "help" => some .help
  | "version" => some .version
  | _ => none

def Flag.takesValue : Flag → Bool
  | .help => false
  | .version => false
  | _ => true

structure Draft where
  bot : Option String := none
  event : Option String := none
  payload : Option String := none
  config : Option String := none

/-- The outcome of reading: the words are wrong, or ask to be told about the program, or are read to
    their end. -/
inductive Reading where
  | wrong
  | help
  | version
  | read (draft : Draft)

def Draft.putFile (d : Draft) (file : String) : Option Draft :=
  if d.bot.isSome || file.isEmpty then none else some { d with bot := some file }

/-- Each option is given at most once. -/
def Draft.putValue (d : Draft) (flag : Flag) (value : String) : Option Draft :=
  match flag with
  | .event => if d.event.isSome then none else some { d with event := some value }
  | .payload =>
    if d.payload.isSome || value.isEmpty then none else some { d with payload := some value }
  | .config =>
    if d.config.isSome || value.isEmpty then none else some { d with config := some value }
  | _ => none

inductive Word where
  | file
  | rest
  | option (flag : Flag) (value : Option String)
  | unknown
  deriving DecidableEq, Repr

def Word.ofChars : List Char → Word
  | ['-', '-'] => .rest
  | '-' :: '-' :: name =>
    let key := name.takeWhile (· != '=')
    match Flag.ofName? (String.ofList key) with
    | none => .unknown
    | some flag =>
      match name.drop key.length with
      | [] => .option flag none
      | _ :: value =>
        if flag.takesValue then .option flag (some (String.ofList value)) else .unknown
  | '-' :: letter :: tail =>
    match Flag.ofLetter? letter with
    | none => .unknown
    | some flag =>
      if flag.takesValue then
        match tail with
        | [] => .option flag none
        | '=' :: value => .option flag (some (String.ofList value))
        | value => .option flag (some (String.ofList value))
      else .option flag none
  | _ => .file

/-- Reads words; `onlyFiles` after two hyphens, and `pending` while an option waits for its
    value. -/
def readWords (onlyFiles : Bool) (pending : Option Flag) (d : Draft) : List String → Reading
  | [] => if pending.isSome then .wrong else .read d
  | word :: rest =>
    match pending with
    | some flag =>
      match Word.ofChars word.toList with
      | .file =>
        match d.putValue flag word with
        | some d => readWords onlyFiles none d rest
        | none => .wrong
      | _ => .wrong
    | none =>
      match (if onlyFiles then .file else Word.ofChars word.toList) with
      | .file =>
        match d.putFile word with
        | some d => readWords onlyFiles none d rest
        | none => .wrong
      | .rest => readWords true none d rest
      | .option .help _ => .help
      | .option .version _ => .version
      | .option flag none => readWords onlyFiles (some flag) d rest
      | .option flag (some value) =>
        match d.putValue flag value with
        | some d => readWords onlyFiles none d rest
        | none => .wrong
      | .unknown => .wrong

def defaultEvent : String := "message-create"

/-- The variable that names the configuration file if the command line does not. -/
def configVariable : String := "BOTFLOW_CONFIG"

/-- The command that words stand for, given the variable for the configuration file; none if they
    are used wrongly. -/
def parse? (words : List String) (fromVariable : Option String) : Option Command :=
  match readWords false none {} words with
  | .wrong => none
  | .help => some .help
  | .version => some .version
  | .read d =>
    let config := d.config.or fromVariable
    match d.bot with
    | none => none
    | some bot =>
      if config = some "" then none
      else some (.run ⟨bot, d.event.getD defaultEvent, d.payload, config⟩)

def programName : String := "botflow"

def versionText : String := programName ++ " 0.1.0\n"

def usageText : String := "Usage: " ++ programName ++ " [OPTIONS] <BOT>\n"

def helpText (fromVariable : Option String) : String :=
  "Run a bot's flows against a recorded event\n\n" ++
  usageText ++ "\n" ++
  "Arguments:\n" ++
  "  <BOT>  Path to the bot definition (JSON)\n\n" ++
  "Options:\n" ++
  "  -e, --event <EVENT>      Event to fire, e.g. `message-create` or `slash-command` [default: " ++
    defaultEvent ++ "]\n" ++
  "  -p, --payload <PAYLOAD>  Path to the raw event payload (JSON); an empty payload if omitted\n" ++
  "  -c, --config <CONFIG>    Path to a TOML config file [env: " ++ configVariable ++ "=" ++
    fromVariable.getD "" ++ "]\n" ++
  "  -h, --help               Print help\n" ++
  "  -V, --version            Print version\n"

end CommandLine

end PinFlow.Runner
