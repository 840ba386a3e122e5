import PinFlow.Run.Limits
import PinFlow.Run.Table
import PinFlow.Run.Warning
import PinFlow.Trigger

/-!
The state of one run.

Values of pins are memoized in two ways: for the rest of the run, or for the current generation of
node outputs, which ends with the next write of outputs. Two guards hold the exec inputs whose
traversal and the data inputs whose reading is in progress.
-/

set_option autoImplicit false

namespace PinFlow

abbrev PinKey := NodeId × Handle

/-- What a run is about and does not change: the graph, the limits, and the draws of random
    integers, the `n`-th of which is `dice n`. -/
structure Setup where
  graph : Graph
  limits : Limits
  dice : Nat → Nat

/-- How long a value may be reused, from shortest to longest. -/
inductive Lifetime where
  | uncached
  | generation
  | run
  deriving DecidableEq, Repr

namespace Lifetime

def min : Lifetime → Lifetime → Lifetime
  | .uncached, _ => .uncached
  | _, .uncached => .uncached
  | .generation, _ => .generation
  | _, .generation => .generation
  | .run, .run => .run

end Lifetime

/-- The value of a pin, missing or not, and how long it may be reused. -/
structure Reading where
  value : Option Value
  lifetime : Lifetime

structure RunState where
  trigger : Trigger
  pinMemo : Table PinKey (Option Value)
  pureMemo : Table NodeId (Option Value)
  livePins : Table PinKey (Nat × Option Value)
  livePure : Table NodeId (Nat × Option Value)
  outputs : Table NodeId (Fields Value)
  generation : Nat
  active : List PinKey
  resolving : List PinKey
  executed : List NodeId
  warnings : List Warning
  /-- The nodes that drew a random integer, latest first. -/
  draws : List NodeId

namespace RunState

def fresh (trigger : Trigger) : RunState where
  trigger := trigger
  pinMemo := .empty
  pureMemo := .empty
  livePins := .empty
  livePure := .empty
  outputs := .empty
  generation := 0
  active := []
  resolving := []
  executed := []
  warnings := []
  draws := []

def warn (st : RunState) (w : Warning) : RunState := { st with warnings := st.warnings ++ [w] }

def recordDraw (st : RunState) (node : NodeId) : RunState := { st with draws := node :: st.draws }

def markExecuted (st : RunState) (node : NodeId) : RunState :=
  { st with executed := st.executed ++ [node] }

/-- Stores the outputs of a node, which begins a new generation. -/
def setOutputs (st : RunState) (node : NodeId) (outputs : Fields Value) : RunState :=
  { st with outputs := st.outputs.insert node outputs, generation := st.generation + 1 }

def output? (st : RunState) (node : NodeId) (handle : Handle) : Option Value :=
  (st.outputs.get? node).bind (·.get? handle)

def current? {κ : Type} [DecidableEq κ] (st : RunState) (t : Table κ (Nat × Option Value))
    (key : κ) : Option (Option Value) :=
  match t.get? key with
  | some (generation, value) => if generation = st.generation then some value else none
  | none => none

/-- The memoized value of a pin, if it is still valid. -/
def memoizedPin? (st : RunState) (key : PinKey) : Option Reading :=
  match st.pinMemo.get? key with
  | some value => some ⟨value, .run⟩
  | none => (st.current? st.livePins key).map (⟨·, .generation⟩)

/-- The memoized result of a pure node, if it is still valid. -/
def memoizedPure? (st : RunState) (node : NodeId) : Option Reading :=
  match st.pureMemo.get? node with
  | some value => some ⟨value, .run⟩
  | none => (st.current? st.livePure node).map (⟨·, .generation⟩)

def memoizePin (st : RunState) (key : PinKey) (r : Reading) : RunState :=
  match r.lifetime with
  | .run => { st with pinMemo := st.pinMemo.insert key r.value }
  | .generation =>
    { st with livePins := st.livePins.insert key (st.generation, r.value) }
  | .uncached => st

def memoizePure (st : RunState) (node : NodeId) (r : Reading) : RunState :=
  match r.lifetime with
  | .run => { st with pureMemo := st.pureMemo.insert node r.value }
  | .generation =>
    { st with livePure := st.livePure.insert node (st.generation, r.value) }
  | .uncached => st

def isReading (st : RunState) (key : PinKey) : Bool := st.resolving.contains key

def isVisiting (st : RunState) (key : PinKey) : Bool := st.active.contains key

def beginReading (st : RunState) (key : PinKey) : RunState :=
  { st with resolving := key :: st.resolving }

def endReading (st : RunState) (key : PinKey) : RunState :=
  { st with resolving := st.resolving.erase key }

def beginVisit (st : RunState) (key : PinKey) : RunState :=
  { st with active := key :: st.active }

def endVisit (st : RunState) (key : PinKey) : RunState :=
  { st with active := st.active.erase key }

end RunState

end PinFlow
