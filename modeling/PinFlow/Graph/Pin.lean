import PinFlow.Shape

/-!
Pins: the named connection points of nodes. Exec pins carry control, data pins carry values.
-/

set_option autoImplicit false

namespace PinFlow

inductive PinType where
  | exec
  | string
  | number
  | boolean
  | user
  | channel
  | guild
  | member
  | message
  | role
  | attachment
  | embed
  | array
  | any
  deriving DecidableEq, Repr, Inhabited

namespace PinType

def name : PinType → String
  | .exec => "exec"
  | .string => "string"
  | .number => "number"
  | .boolean => "boolean"
  | .user => "user"
  | .channel => "channel"
  | .guild => "guild"
  | .member => "member"
  | .message => "message"
  | .role => "role"
  | .attachment => "attachment"
  | .embed => "embed"
  | .array => "array"
  | .any => "any"

def title : PinType → String
  | .exec => "Exec"
  | .string => "String"
  | .number => "Number"
  | .boolean => "Boolean"
  | .user => "User"
  | .channel => "Channel"
  | .guild => "Guild"
  | .member => "Member"
  | .message => "Message"
  | .role => "Role"
  | .attachment => "Attachment"
  | .embed => "Embed"
  | .array => "Array"
  | .any => "Any"

/-- The admissible names; `wildcard` is a second name for `any`. -/
def names : List String :=
  ["exec", "string", "number", "boolean", "user", "channel", "guild", "member", "message", "role",
    "attachment", "embed", "array", "any", "wildcard"]

def ofName? (name : String) : Option PinType :=
  match name with
  | "exec" => some .exec
  | "string" => some .string
  | "number" => some .number
  | "boolean" => some .boolean
  | "user" => some .user
  | "channel" => some .channel
  | "guild" => some .guild
  | "member" => some .member
  | "message" => some .message
  | "role" => some .role
  | "attachment" => some .attachment
  | "embed" => some .embed
  | "array" => some .array
  | "any" => some .any
  | "wildcard" => some .any
  | _ => none

def read : Shape.Reader PinType := Shape.variant names ofName?

def toValue (t : PinType) : Value := .string t.name

def isExec (t : PinType) : Bool := t == .exec

/-- Whether an output of the one type may feed an input of the other: exec pins only each other,
    and `any` every data pin. -/
def feeds (source target : PinType) : Bool :=
  if source.isExec || target.isExec then source == target
  else source == .any || target == .any || source == target

end PinType

structure Pin where
  id : String
  type : PinType
  label : String
  optional : Bool
  deriving DecidableEq, Repr, Inhabited

namespace Pin

/-- A pin that is labelled with its identifier and must be set. -/
def required (id : String) (type : PinType) : Pin := ⟨id, type, id, false⟩

def exec (id : String) : Pin := required id .exec

def record : Shape.Record := ⟨"Pin", 4⟩

def ofForm (form : Shape.Form) : Shape.Checked Pin :=
  Pin.mk <$> form.field record { position := 0, name := "id", read := Shape.text }
    <*> form.field record
      { position := 1, name := "type", read := PinType.read, fallback := some .any }
    <*> form.field record
      { position := 2, name := "label", read := Shape.text, fallback := some "" }
    <*> form.field record
      { position := 3, name := "optional", read := Shape.boolean, fallback := some false }

def read : Shape.Reader Pin := Shape.record record ofForm

def toValue (p : Pin) : Value :=
  .object [("id", .string p.id), ("label", .string p.label), ("optional", .bool p.optional),
    ("type", p.type.toValue)]

end Pin

end PinFlow
