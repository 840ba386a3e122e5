import PinFlow.Graph

/-!
The problems of a graph that a run copes with: first those of its nodes, then those of its data
edges, and last a cycle of data edges.
-/

set_option autoImplicit false

namespace PinFlow.Graph

/-- A required input has an edge or a configured literal. -/
def unsetInputs (g : Graph) (n : Node) : List Issue :=
  (n.dataInputs.filter fun pin =>
      !pin.optional && (g.edgeFeeding? n.id pin.id).isNone && (n.configured? pin.id).isNone).map
    fun pin => .requiredInputUnset n.id pin.id

def nodeIssues (g : Graph) (n : Node) : List Issue :=
  match n.category? with
  | none => [.unknownDefinition n.id n.definition]
  | some category =>
    (if category = .event ∧ n.execOutputs.isEmpty then [.eventWithoutExecOutput n.id] else []) ++
      g.unsetInputs n

def edgeIssue? (g : Graph) (e : Edge) : Option Issue := do
  let source ← (← g.node? e.source).dataOutput? e.sourceHandle
  let target ← (← g.node? e.target).dataInput? e.targetHandle
  if source.type.feeds target.type then none
  else some (.pinTypeMismatch e.source source.type e.target e.targetHandle target.type)

def dataEdges (g : Graph) : List Edge := g.edges.filter (!·.isExec)

/-- Keeps the edges that start where some edge ends. -/
def peel (edges : List Edge) : List Edge :=
  edges.filter fun e => edges.any (·.target == e.source)

/-- Peels until nothing changes; `fuel` bounds the number of rounds. -/
def peelAll : (fuel : Nat) → List Edge → List Edge
  | 0, edges => edges
  | fuel + 1, edges =>
    let rest := peel edges
    if rest.length = edges.length then edges else peelAll fuel rest

/-- Edges form a cycle exactly if some are left when those without a predecessor are removed again
    and again. -/
def hasCycle (edges : List Edge) : Bool := !(peelAll edges.length edges).isEmpty

def validate (g : Graph) : List Issue :=
  g.nodes.flatMap g.nodeIssues ++ g.dataEdges.filterMap g.edgeIssue? ++
    (if hasCycle g.dataEdges then [.dataCycle] else [])

end PinFlow.Graph
