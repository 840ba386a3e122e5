import PinFlow.Graph.Pin
import PinFlow.Kind

/-!
Nodes: an identifier, a definition that tells the kind, four lists of pins and a configuration of
literal values.
-/

set_option autoImplicit false

namespace PinFlow

abbrev NodeId := String

structure Node where
  id : NodeId
  definition : String
  execInputs : List Pin
  execOutputs : List Pin
  dataInputs : List Pin
  dataOutputs : List Pin
  config : Fields Value
  deriving Repr, Inhabited

namespace Node

def bare (id : NodeId) (definition : String) : Node := ⟨id, definition, [], [], [], [], []⟩

def kind? (n : Node) : Option NodeKind := NodeKind.ofDefinition? n.definition

def category? (n : Node) : Option Category := n.kind?.map NodeKind.category

def findPin? (pins : List Pin) (id : String) : Option Pin := pins.find? (·.id = id)

def execInput? (n : Node) (id : String) : Option Pin := findPin? n.execInputs id

def execOutput? (n : Node) (id : String) : Option Pin := findPin? n.execOutputs id

def dataInput? (n : Node) (id : String) : Option Pin := findPin? n.dataInputs id

def dataOutput? (n : Node) (id : String) : Option Pin := findPin? n.dataOutputs id

/-- The exec output through which control leaves by default. -/
def defaultOutput? (n : Node) : Option Pin := n.execOutputs.head?

def configured? (n : Node) (key : String) : Option Value := n.config.get? key

def configure (n : Node) (key : String) (v : Value) : Node :=
  { n with config := n.config.insert key v }

def record : Shape.Record := ⟨"Node", 7⟩

def pinsField (position : Nat) (name : String) : Shape.Field (List Pin) :=
  { position, name, read := Shape.sequence Pin.read, fallback := some [] }

def ofForm (form : Shape.Form) : Shape.Checked Node :=
  Node.mk <$> form.field record { position := 0, name := "id", read := Shape.text }
    <*> form.field record
      { position := 1, name := "definition", otherName := some "type", read := Shape.text }
    <*> form.field record (pinsField 2 "execInputs")
    <*> form.field record (pinsField 3 "execOutputs")
    <*> form.field record (pinsField 4 "dataInputs")
    <*> form.field record (pinsField 5 "dataOutputs")
    <*> form.field record
      { position := 6, name := "config", otherName := some "data", read := Shape.map,
        fallback := some [] }

def read : Shape.Reader Node := Shape.record record ofForm

def toValue (n : Node) : Value :=
  .object [("config", .object n.config),
    ("dataInputs", .array (n.dataInputs.map Pin.toValue)),
    ("dataOutputs", .array (n.dataOutputs.map Pin.toValue)),
    ("definition", .string n.definition),
    ("execInputs", .array (n.execInputs.map Pin.toValue)),
    ("execOutputs", .array (n.execOutputs.map Pin.toValue)),
    ("id", .string n.id)]

end Node

end PinFlow
