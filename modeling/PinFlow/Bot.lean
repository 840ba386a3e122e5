import PinFlow.Graph.Validation
import PinFlow.Identifier
import PinFlow.Timestamp

/-!
Bots: an identifier, descriptive data and an automation graph.

An identifier or time that a written bot leaves out is supplied by the reader's caller.
-/

set_option autoImplicit false

namespace PinFlow

/-- What is supplied for absent parts: a new identifier and the present time. -/
structure Birth where
  ulid : Ulid
  time : Timestamp

structure Metadata where
  name : String
  description : Option String
  enabled : Bool
  tags : List String
  created : Timestamp
  updated : Timestamp
  deriving DecidableEq, Repr, Inhabited

namespace Metadata

def ofName (name : String) (now : Timestamp) : Metadata := ⟨name, none, true, [], now, now⟩

def timestamp : Shape.Reader Timestamp
  | .string s =>
    match Timestamp.read s with
    | .ok t => .ok t
    | .error e => .error (.malformed e.message)
  | v => .error (.wrongType v .timestamp)

def record : Shape.Record := ⟨"BotMetadata", 6⟩

def ofForm (now : Timestamp) (form : Shape.Form) : Shape.Checked Metadata :=
  Metadata.mk <$> form.field record { position := 0, name := "name", read := Shape.text }
    <*> form.field record
      { position := 1, name := "description", read := Shape.nullable Shape.text,
        fallback := some none }
    <*> form.field record
      { position := 2, name := "enabled", read := Shape.boolean, fallback := some true }
    <*> form.field record
      { position := 3, name := "tags", read := Shape.sequence Shape.text, fallback := some [] }
    <*> form.field record
      { position := 4, name := "created_at", read := timestamp, fallback := some now }
    <*> form.field record
      { position := 5, name := "updated_at", read := timestamp, fallback := some now }

def read (now : Timestamp) : Shape.Reader Metadata := Shape.record record (ofForm now)

def toValue (m : Metadata) : Value :=
  .object [("created_at", .string m.created.text),
    ("description", (m.description.map Value.string).getD .null),
    ("enabled", .bool m.enabled), ("name", .string m.name),
    ("tags", .array (m.tags.map Value.string)), ("updated_at", .string m.updated.text)]

end Metadata

structure Bot where
  id : BotId
  metadata : Metadata
  graph : Graph
  deriving Repr

namespace Bot

def ofName (name : String) (birth : Birth) : Bot :=
  ⟨⟨birth.ulid⟩, .ofName name birth.time, .empty⟩

def setEnabled (b : Bot) (enabled : Bool) (now : Timestamp) : Bot :=
  { b with metadata := { b.metadata with enabled, updated := now } }

def isEnabled (b : Bot) : Bool := b.metadata.enabled

def entryNodes (b : Bot) (event : EventKind) : List Node := b.graph.entryNodes event

/-- The written form of an identifier has no marker of its kind. -/
def identifier {kind : IdKind} : Shape.Reader (Identifier kind)
  | .string s =>
    match Ulid.read s with
    | .ok ulid => .ok ⟨ulid⟩
    | .error e => .error (.malformed e.message)
  | v => .error (.wrongType v .text)

def record : Shape.Record := ⟨"Bot", 3⟩

def ofForm (birth : Birth) (form : Shape.Form) : Shape.Checked Bot :=
  Bot.mk <$> form.field record
      { position := 0, name := "id", read := identifier, fallback := some ⟨birth.ulid⟩ }
    <*> form.field record
      { position := 1, name := "metadata", read := Metadata.read birth.time }
    <*> form.field record
      { position := 2, name := "graph", read := Graph.read, fallback := some .empty }

def read (birth : Birth) : Shape.Reader Bot := Shape.record record (ofForm birth)

def toValue (b : Bot) : Value :=
  .object [("graph", b.graph.toValue), ("id", .string b.id.ulid.text),
    ("metadata", b.metadata.toValue)]

end Bot

end PinFlow
