import PinFlow.PureFunction
import PinFlow.Shape

/-!
What a node is, told by its definition identifier.

A table of exact identifiers comes first, then the rule that the part before the first hyphen names
the category. Inside a category an unfamiliar name is kept as such, so that a graph with it can
still run; an identifier without a category has no kind at all.
-/

set_option autoImplicit false

namespace PinFlow

inductive Category where
  | event
  | action
  | pure
  | flow
  deriving DecidableEq, Repr

namespace Category

def name : Category → String
  | .event => "event"
  | .action => "action"
  | .pure => "pure"
  | .flow => "flow"

def names : List String := ["event", "action", "pure", "flow"]

def ofName? (name : String) : Option Category :=
  match name with
  | "event" => some .event
  | "action" => some .action
  | "pure" => some .pure
  | "flow" => some .flow
  | _ => none

def read : Shape.Reader Category := Shape.variant names ofName?

def marker (c : Category) : String := c.name ++ "-"

end Category

inductive EventKind where
  | messageCreate
  | messageDelete
  | memberJoin
  | memberLeave
  | reactionAdd
  | slashCommand
  | buttonClick
  | ready
  | unknown (name : String)
  deriving DecidableEq, Repr

namespace EventKind

def name : EventKind → String
  | .messageCreate => "message-create"
  | .messageDelete => "message-delete"
  | .memberJoin => "member-join"
  | .memberLeave => "member-leave"
  | .reactionAdd => "reaction-add"
  | .slashCommand => "slash-command"
  | .buttonClick => "button-click"
  | .ready => "ready"
  | .unknown name => name

def ofName (name : String) : EventKind :=
  match name with
  | "message-create" => .messageCreate
  | "message-delete" => .messageDelete
  | "member-join" => .memberJoin
  | "member-leave" => .memberLeave
  | "reaction-add" => .reactionAdd
  | "slash-command" => .slashCommand
  | "button-click" => .buttonClick
  | "ready" => .ready
  | name => .unknown name

def isUnknown : EventKind → Bool
  | .unknown _ => true
  | _ => false

end EventKind

/-- Nodes that hold a value: a configured literal, or an option that the caller of a command
    gave. -/
inductive ConstantKind where
  | string
  | number
  | boolean
  | option
  deriving DecidableEq, Repr

namespace ConstantKind

def name : ConstantKind → String
  | .string => "constant-string"
  | .number => "constant-number"
  | .boolean => "constant-boolean"
  | .option => "constant-option"

def ofName? (name : String) : Option ConstantKind :=
  match name with
  | "constant-string" => some .string
  | "constant-number" => some .number
  | "constant-boolean" => some .boolean
  | "constant-option" => some .option
  | _ => none

end ConstantKind

inductive PureKind where
  | constant (kind : ConstantKind)
  | function (f : PureFunction)
  | unknown (name : String)
  deriving DecidableEq, Repr

namespace PureKind

def name : PureKind → String
  | .constant kind => kind.name
  | .function f => f.name
  | .unknown name => name

def ofName (name : String) : PureKind :=
  match ConstantKind.ofName? name with
  | some kind => .constant kind
  | none =>
    match PureFunction.ofName? name with
    | some f => .function f
    | none => .unknown name

def isConstant : PureKind → Bool
  | .constant _ => true
  | _ => false

def isUnknown : PureKind → Bool
  | .unknown _ => true
  | _ => false

/-- The value of a node of this kind at its inputs. Constants are not computed from inputs, and an
    unfamiliar kind has no value. -/
def evaluate (kind : PureKind) (inputs : Fields Value) (draw : Nat) : Option Value :=
  match kind with
  | .function f => f.evaluate inputs draw
  | _ => none

end PureKind

inductive FlowKind where
  | branch
  | switch
  | sequence
  | forEach
  | delay
  | unknown (name : String)
  deriving DecidableEq, Repr

namespace FlowKind

def name : FlowKind → String
  | .branch => "branch"
  | .switch => "switch"
  | .sequence => "sequence"
  | .forEach => "for-each"
  | .delay => "delay"
  | .unknown name => name

def ofName (name : String) : FlowKind :=
  match name with
  | "branch" => .branch
  | "switch" => .switch
  | "sequence" => .sequence
  | "for-each" => .forEach
  | "delay" => .delay
  | name => .unknown name

def isUnknown : FlowKind → Bool
  | .unknown _ => true
  | _ => false

end FlowKind

/-- Actions are told apart by their whole definition identifier. -/
inductive NodeKind where
  | event (kind : EventKind)
  | action
  | pure (kind : PureKind)
  | flow (kind : FlowKind)
  deriving DecidableEq, Repr

namespace NodeKind

def category : NodeKind → Category
  | .event _ => .event
  | .action => .action
  | .pure _ => .pure
  | .flow _ => .flow

/-- Identifiers that do not follow the rule of categories. -/
def irregular? (definition : String) : Option NodeKind :=
  match definition with
  | "on-message" => some (.event .messageCreate)
  | "on-ready" => some (.event .ready)
  | "on-command" => some (.event .slashCommand)
  | "constant-string" => some (.pure (.constant .string))
  | "constant-number" => some (.pure (.constant .number))
  | "constant-boolean" => some (.pure (.constant .boolean))
  | "constant-option" => some (.pure (.constant .option))
  | "command-option" => some (.pure (.constant .option))
  | "branch" => some (.flow .branch)
  | "sequence" => some (.flow .sequence)
  | _ => none

def nameIn? (category : Category) (definition : String) : Option String :=
  let marker := category.marker.toList
  if marker.isPrefixOf definition.toList then
    some (String.ofList (definition.toList.drop marker.length))
  else none

def ofDefinition? (definition : String) : Option NodeKind :=
  match irregular? definition with
  | some kind => some kind
  | none =>
    match nameIn? .event definition with
    | some name => some (.event (.ofName name))
    | none =>
      match nameIn? .action definition with
      | some _ => some .action
      | none =>
        match nameIn? .pure definition with
        | some name => some (.pure (.ofName name))
        | none => (nameIn? .flow definition).map fun name => .flow (.ofName name)

/-- The name inside the category; actions have none. -/
def innerName : NodeKind → String
  | .event kind => kind.name
  | .action => ""
  | .pure kind => kind.name
  | .flow kind => kind.name

def isUnknown : NodeKind → Bool
  | .event kind => kind.isUnknown
  | .action => false
  | .pure kind => kind.isUnknown
  | .flow kind => kind.isUnknown

def isConstant : NodeKind → Bool
  | .pure kind => kind.isConstant
  | _ => false

end NodeKind

end PinFlow
