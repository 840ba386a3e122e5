import PinFlow.Graph.Edge
import PinFlow.Graph.Issue

/-!
Flow graphs: nodes and edges in the order in which they were added.

An edge is classified when it is added: it is an exec edge if it joins an exec output to an exec
input, otherwise a data edge if it joins a data output to a data input, and otherwise refused. A
data input takes at most one edge. Loading drops what is refused.
-/

set_option autoImplicit false

namespace PinFlow

structure Graph where
  nodes : List Node
  edges : List Edge
  deriving Repr, Inhabited

/-- What is written of a graph: nodes and edges as listed, whether they fit together or not. -/
structure GraphParts where
  nodes : List Node
  edges : List Edge

namespace GraphParts

def record : Shape.Record := ⟨"GraphParts", 2⟩

def ofForm (form : Shape.Form) : Shape.Checked GraphParts :=
  GraphParts.mk <$> form.field record
      { position := 0, name := "nodes", read := Shape.sequence Node.read, fallback := some [] }
    <*> form.field record
      { position := 1, name := "edges", read := Shape.sequence Edge.read, fallback := some [] }

def read : Shape.Reader GraphParts := Shape.record record ofForm

def toValue (p : GraphParts) : Value :=
  .object [("edges", .array (p.edges.map Edge.toValue)),
    ("nodes", .array (p.nodes.map Node.toValue))]

end GraphParts

namespace Graph

def empty : Graph := ⟨[], []⟩

def node? (g : Graph) (id : NodeId) : Option Node := g.nodes.find? (·.id = id)

def addNode (g : Graph) (n : Node) : Except GraphError Graph :=
  match g.node? n.id with
  | some _ => .error (.duplicateNode n.id)
  | none => .ok { g with nodes := g.nodes ++ [n] }

/-- The exec edges that leave an output, in the order in which they were added. -/
def edgesLeaving (g : Graph) (node : NodeId) (handle : Handle) : List Edge :=
  g.edges.filter (·.leaves node handle)

def edgeFeeding? (g : Graph) (node : NodeId) (handle : Handle) : Option Edge :=
  g.edges.find? (·.feeds node handle)

/-- The kind of an edge between two nodes, told by the pins at its ends. -/
def classify (source target : Node) (e : Edge) : Except GraphError EdgeKind :=
  let sourceExec := (source.execOutput? e.sourceHandle).isSome
  let sourceData := (source.dataOutput? e.sourceHandle).isSome
  let targetExec := (target.execInput? e.targetHandle).isSome
  let targetData := (target.dataInput? e.targetHandle).isSome
  if sourceExec && targetExec then .ok .exec
  else if sourceData && targetData then .ok .data
  else if !sourceExec && !sourceData then .error (.sourcePinNotFound e.source e.sourceHandle)
  else if !targetExec && !targetData then .error (.targetPinNotFound e.target e.targetHandle)
  else .error (.mixedEdge e.source e.sourceHandle e.target e.targetHandle)

def addEdge (g : Graph) (e : Edge) : Except GraphError (Graph × EdgeKind) :=
  match g.node? e.source with
  | none => .error (.nodeNotFound e.source)
  | some source =>
    match g.node? e.target with
    | none => .error (.nodeNotFound e.target)
    | some target =>
      match classify source target e with
      | .error cause => .error cause
      | .ok kind =>
        if kind = .data ∧ (g.edgeFeeding? e.target e.targetHandle).isSome then
          .error (.inputAlreadyConnected e.target e.targetHandle)
        else .ok ({ g with edges := g.edges ++ [{ e with kind }] }, kind)

def addNodeOrDrop (g : Graph) (n : Node) : Graph :=
  match g.addNode n with
  | .ok g' => g'
  | .error _ => g

def addEdgeOrDrop (g : Graph) (e : Edge) : Graph :=
  match g.addEdge e with
  | .ok (g', _) => g'
  | .error _ => g

def ofParts (nodes : List Node) (edges : List Edge) : Graph :=
  edges.foldl addEdgeOrDrop (nodes.foldl addNodeOrDrop empty)

def eventNodes (g : Graph) : List Node := g.nodes.filter (·.category? = some .event)

/-- The nodes at which a flow for an event starts, in graph order. -/
def entryNodes (g : Graph) (event : EventKind) : List Node :=
  g.nodes.filter (·.kind? = some (.event event))

def parts (g : Graph) : GraphParts := ⟨g.nodes, g.edges⟩

def read : Shape.Reader Graph := fun v =>
  (GraphParts.read v).map fun p => ofParts p.nodes p.edges

def toValue (g : Graph) : Value := g.parts.toValue

end Graph

end PinFlow
