import PinFlow.Graph.Node

/-!
Edges: each joins an output pin of one node to an input pin of another.
-/

set_option autoImplicit false

namespace PinFlow

inductive EdgeKind where
  | exec
  | data
  deriving DecidableEq, Repr, Inhabited

namespace EdgeKind

def name : EdgeKind → String
  | .exec => "exec"
  | .data => "data"

def names : List String := ["exec", "data"]

def ofName? (name : String) : Option EdgeKind :=
  match name with
  | "exec" => some .exec
  | "data" => some .data
  | _ => none

def read : Shape.Reader EdgeKind := Shape.variant names ofName?

end EdgeKind

/-- The kind is set when the edge is added to a graph and is no part of the written form. -/
structure Edge where
  id : Option String
  source : NodeId
  sourceHandle : String
  target : NodeId
  targetHandle : String
  kind : EdgeKind := .data
  deriving DecidableEq, Repr, Inhabited

namespace Edge

def isExec (e : Edge) : Bool := e.kind == .exec

def feeds (e : Edge) (node : NodeId) (handle : String) : Bool :=
  !e.isExec && e.target == node && e.targetHandle == handle

def leaves (e : Edge) (node : NodeId) (handle : String) : Bool :=
  e.isExec && e.source == node && e.sourceHandle == handle

def record : Shape.Record := ⟨"Edge", 5⟩

def ofForm (form : Shape.Form) : Shape.Checked Edge :=
  (fun id source sourceHandle target targetHandle =>
      ({ id, source, sourceHandle, target, targetHandle } : Edge)) <$>
    form.field record
      { position := 0, name := "id", read := Shape.nullable Shape.text, fallback := some none }
    <*> form.field record { position := 1, name := "source", read := Shape.text }
    <*> form.field record { position := 2, name := "sourceHandle", read := Shape.text }
    <*> form.field record { position := 3, name := "target", read := Shape.text }
    <*> form.field record { position := 4, name := "targetHandle", read := Shape.text }

def read : Shape.Reader Edge := Shape.record record ofForm

def toValue (e : Edge) : Value :=
  let ends :=
    [("source", Value.string e.source), ("sourceHandle", .string e.sourceHandle),
      ("target", .string e.target), ("targetHandle", .string e.targetHandle)]
  .object (match e.id with
    | some id => ("id", .string id) :: ends
    | none => ends)

end Edge

end PinFlow
