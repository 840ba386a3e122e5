import PinFlow.Kind

/-!
The data that an event brings along: domain objects under fixed keys, and command options under
keys derived from their names.
-/

set_option autoImplicit false

namespace PinFlow

abbrev Trigger := Fields Value

namespace Trigger

/-- The key of a command option: its name in lower case, with an underscore for everything that is
    not an ASCII letter or digit. -/
def optionKey (name : String) : String :=
  "option_" ++ String.ofList
    ((name.toList.flatMap Text.lowerChar).map fun c => if c.isAlphanum then c else '_')

/-- Writes the named field of a payload under a key, if it is there. -/
def copy (trigger : Trigger) (key : String) (payload : Value) (field : String) : Trigger :=
  match payload.field? field with
  | some v => Fields.insert trigger key v
  | none => trigger

/-- Like `copy`, unless the key is taken. -/
def copyIfAbsent (payload : Value) (trigger : Trigger) (entry : String × String) : Trigger :=
  if Fields.contains trigger entry.1 then trigger else trigger.copy entry.1 payload entry.2

def copiedFields : List String := ["user", "member", "channel", "guild", "message", "role", "emoji"]

/-- Keys that a message fills in, with the field of the message that does. -/
def messageFields : List (String × String) :=
  [("user", "author"), ("channel", "channel"), ("guild", "guild")]

/-- The name and value of an option in the array form; an entry without a name is none, and an
    absent value is null. -/
def optionEntry? (entry : Value) : Option (String × Value) := do
  let name ← (← entry.field? "name").string?
  return (name, (entry.field? "value").getD .null)

/-- The options of a payload in order, from an array of entries or from an object. -/
def options : Value → List (String × Value)
  | .array entries => entries.filterMap optionEntry?
  | .object fields => fields
  | _ => []

def insertOption (trigger : Trigger) (entry : String × Value) : Trigger :=
  Fields.insert trigger (optionKey entry.1) entry.2

def ofPayload (event : EventKind) (payload : Value) : Trigger :=
  let copied := copiedFields.foldl (fun trigger field => copy trigger field payload field) []
  let derived :=
    match payload.field? "message" with
    | some message => messageFields.foldl (copyIfAbsent message) copied
    | none => copied
  let withOptions :=
    match payload.field? "options" with
    | some v => (options v).foldl insertOption derived
    | none => derived
  match event with
  | .buttonClick =>
    match (payload.field? "customId").or (payload.field? "custom_id") with
    | some v => Fields.insert withOptions "custom_id" v
    | none => withOptions
  | _ => withOptions

end Trigger

end PinFlow
