import PinFlow.Run.Activity
import PinFlow.Run.Reading

/-!
Following exec edges from an event node.

The edges that leave an output are followed one at a time in the order of the graph, each to the end
of everything behind it. An edge into a pin whose traversal is in progress is skipped as a cycle,
and an edge beyond the depth bound is skipped too. A failed action ends the run.
-/

set_option autoImplicit false

namespace PinFlow

abbrev Firing := Handle → Path

/-- Leaves through the first exec output, if there is one. -/
def fireDefault (fire : Firing) (node : Node) : Path :=
  match node.defaultOutput? with
  | some pin => fire pin.id
  | none => Path.skip

def iterationOutputs (element : Value) (index : Nat) : Fields Value :=
  [("element", element), ("index", .int index)]

/-- The outputs of a sequence node, in the order in which they fire. -/
def sequenceOutputs : List Handle := ["then1", "then2", "then3"]

/-- The output that a switch fires: the whole part of a number from 0 to 4, and `default` for all
    else. -/
def switchOutput (value : Option Value) : Handle :=
  match (Value.toNumber value).floor? with
  | some n => if 0 ≤ n ∧ n ≤ 4 then toString n else "default"
  | none => "default"

namespace Setup

variable (s : Setup)

/-- Reads one more input of an action and reports it if it is required and missing. -/
def addActionInput (node : Node) (acc : Fields Value × RunState) (pin : Pin) :
    Fields Value × RunState :=
  match s.readPin node pin.id acc.2 with
  | (some v, st) => (acc.1.insert pin.id v, st)
  | (none, st) =>
    (acc.1, if pin.optional then st else st.warn (.missingRequiredInput node.id pin.id))

def actionInputs (node : Node) (st : RunState) : Fields Value × RunState :=
  node.dataInputs.foldl (s.addActionInput node) ([], st)

def performAction (fire : Firing) (node : Node) : Path := fun st =>
  let (inputs, st) := s.actionInputs node st
  .calling ⟨node.id, node.definition, inputs, node.config⟩ st fun
    | .ok outputs => fireDefault fire node (st.setOutputs node.id outputs)
    | .error cause => .done (.failed st (.actionFailed node.id node.definition cause))

/-- A pure node on an exec path is evaluated ahead of its readers, and control ends there. -/
def visitPure (node : Node) (kind : PureKind) (st : RunState) : RunState :=
  let st := st.warn (.pureNodeOnExecPath node.id)
  if node.dataOutputs.isEmpty || kind.isConstant then st else (s.evaluateEagerly node kind st).2

def branch (fire : Firing) (node : Node) : Path := fun st =>
  match s.readPin node "condition" st with
  | (none, st) => .done (.going (st.warn (.unresolvedCondition node.id)))
  | (some .null, st) => .done (.going (st.warn (.unresolvedCondition node.id)))
  | (some v, st) => fire (if v.truthy then "true" else "false") st

def switch (fire : Firing) (node : Node) : Path := fun st =>
  let (value, st) := s.readPin node "value" st
  fire (switchOutput value) st

/-- One iteration of a loop: the element and its index become the outputs of the node. -/
def iterate (fire : Firing) (node : Node) (item : Value × Nat) : Path := fun st =>
  fire "loopBody" (st.setOutputs node.id (iterationOutputs item.1 item.2))

def forEach (fire : Firing) (node : Node) : Path := fun st =>
  match s.readPin node "array" st with
  | (some (.array items), st) =>
    Path.andThen (Path.each (iterate fire node) items.zipIdx st) (fire "completed")
  | (_, st) => fire "completed" (st.warn (.notAnArray node.id))

def delay (fire : Firing) (node : Node) : Path := fun st =>
  let (value, st) := s.readPin node "duration" st
  let seconds :=
    match value with
    | some v => Value.toNumber (some v)
    | none => .zero
  .waiting (.ofSeconds seconds s.limits.maxDelay) st fun _ => fireDefault fire node st

def steer (fire : Firing) (node : Node) (kind : FlowKind) : Path :=
  match kind with
  | .branch => s.branch fire node
  | .switch => s.switch fire node
  | .sequence => Path.each fire sequenceOutputs
  | .forEach => s.forEach fire node
  | .delay => s.delay fire node
  | .unknown name => fun st => .done (.going (st.warn (.unknownFlowKind node.id name)))

/-- Executes a node that control has reached; `fire` is how control leaves it. -/
def execute (fire : Firing) (node : Node) : Path := fun st =>
  match node.kind? with
  | none => .done (.going (st.warn (.unknownDefinition node.id node.definition)))
  | some kind =>
    let st := st.markExecuted node.id
    .noting (.entered node.id) st fun _ =>
      match kind with
      | .event _ => fireDefault fire node st
      | .action => s.performAction fire node st
      | .pure kind => .done (.going (s.visitPure node kind st))
      | .flow kind => s.steer fire node kind st

/-- Follows an exec edge, given how control leaves a node one level deeper, if the depth bound
    admits any. -/
def followEdge (deeper : Option (NodeId → Firing)) (depth : Nat) (edge : Edge) : Path := fun st =>
  let key : PinKey := (edge.target, edge.targetHandle)
  if st.isVisiting key then .done (.going (st.warn (.cycleSkipped edge.target edge.targetHandle)))
  else
    match deeper with
    | none => .done (.going (st.warn (.depthLimitReached edge.target depth)))
    | some fire =>
      match s.graph.node? edge.target with
      | none => .done (.going st)
      | some target =>
        (s.execute (fire target.id) target (st.beginVisit key)).map
          (Progress.mapState (·.endVisit key))

def fireWith (deeper : Option (NodeId → Firing)) (depth : Nat) (node : NodeId) : Firing :=
  fun handle st =>
    .noting (.firing node handle) st fun _ =>
      Path.each (s.followEdge deeper depth) (s.graph.edgesLeaving node handle) st

/-- Follows the exec edges that leave an output at some depth, with room for `room` more levels. -/
def fireFrom : (room : Nat) → (depth : Nat) → NodeId → Firing
  | 0, depth => s.fireWith none depth
  | room + 1, depth => s.fireWith (some (fireFrom room (depth + 1))) depth

/-- Follows the exec edges that leave an output at some depth; deeper ones than the bound are not
    followed. -/
def fireAt (depth : Nat) : NodeId → Firing := s.fireFrom (s.limits.maxDepth - depth) depth

def start (entry : NodeId) (trigger : Trigger) : Activity (Except RunError RunState) :=
  match s.graph.node? entry with
  | none => .done (.error (.eventNodeNotFound entry))
  | some node =>
    if node.category? = some .event then
      let st := (RunState.fresh trigger).markExecuted node.id
      match node.defaultOutput? with
      | some pin => (s.fireAt 0 node.id pin.id st).map Progress.outcome
      | none => .done (.ok (st.warn (.noExecOutput node.id)))
    else .done (.error (.notAnEventNode node.id node.definition))

end Setup

end PinFlow
