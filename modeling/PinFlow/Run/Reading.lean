import PinFlow.Run.State

/-!
Reading data pins on demand, backwards along data edges.

A value may be reused for the rest of the run if only constants, configuration, the trigger and pure
functions of such went into it; for the current generation if a node output did; and not at all if
the reading was cut off by the depth bound. A pin that is met again while it is being read is
reported as a cycle and has no value.
-/

set_option autoImplicit false

namespace PinFlow

/-- The value of a constant node at one of its outputs. A literal is configured under the name of
    the output or under `value`; an option is configured by its name and stands in the trigger. -/
def constantValue (trigger : Trigger) (node : Node) (kind : ConstantKind) (handle : Handle) :
    Option Value :=
  match kind with
  | .option => do
    let name ← ((node.configured? "name").or (node.configured? "optionName")).bind Value.string?
    Fields.get? trigger (Trigger.optionKey name)
  | _ => (node.configured? handle).or (node.configured? "value")

abbrev PinReader := Node → Handle → RunState → Reading × RunState

/-- What the inputs of a pure node gave so far: the values that are not missing, and the shortest of
    their lifetimes. -/
structure Gathered where
  inputs : Fields Value
  lifetime : Lifetime
  state : RunState

def Gathered.add (read : PinReader) (node : Node) (acc : Gathered) (pin : Pin) : Gathered :=
  let (r, st) := read node pin.id acc.state
  { inputs :=
      match r.value with
      | some v => acc.inputs.insert pin.id v
      | none => acc.inputs
    lifetime := acc.lifetime.min r.lifetime
    state := st }

def gather (read : PinReader) (node : Node) (st : RunState) : Gathered :=
  node.dataInputs.foldl (Gathered.add read node) ⟨[], .run, st⟩

namespace Setup

variable (s : Setup)

/-- Computes a pure node from gathered inputs and memoizes the result. -/
def compute (node : Node) (kind : PureKind) (acc : Gathered) : Reading × RunState :=
  let st :=
    match kind with
    | .unknown name => acc.state.warn (.unknownPureFunction node.id name)
    | _ => acc.state
  let value := kind.evaluate acc.inputs (s.dice st.draws.length)
  let st :=
    match kind with
    | .function .randomInt => st.recordDraw node.id
    | _ => st
  let r : Reading := ⟨value, acc.lifetime⟩
  (r, st.memoizePure node.id r)

/-- The result of a pure node. It is looked up again after the inputs were read, because a cycle
    through the node may have computed it meanwhile. -/
def evaluatePure (read : PinReader) (node : Node) (kind : PureKind) (st : RunState) :
    Reading × RunState :=
  match st.memoizedPure? node.id with
  | some r => (r, st)
  | none =>
    let acc := gather read node st
    match acc.state.memoizedPure? node.id with
    | some r => (r, acc.state)
    | none => s.compute node kind acc

/-- The value of an output, by the kind of its node; `read` reads the inputs of pure nodes. -/
def readOutput (read : PinReader) (source : Node) (handle : Handle) (st : RunState) :
    Reading × RunState :=
  match source.kind? with
  | none => (⟨none, .run⟩, st.warn (.unknownDefinition source.id source.definition))
  | some (.pure (.constant kind)) => (⟨constantValue st.trigger source kind handle, .run⟩, st)
  | some (.pure kind) => s.evaluatePure read source kind st
  | some (.event _) => (⟨Fields.get? st.trigger handle, .run⟩, st)
  | some .action => (⟨st.output? source.id handle, .generation⟩, st)
  | some (.flow _) => (⟨st.output? source.id handle, .generation⟩, st)

/-- The value of an input that is neither memoized nor being read: that of the output at the other
    end of its edge, or the configured literal if it has no edge. -/
def readFresh (read : PinReader) (node : Node) (handle : Handle) (st : RunState) :
    Reading × RunState :=
  match s.graph.edgeFeeding? node.id handle with
  | none => (⟨node.configured? handle, .run⟩, st)
  | some edge =>
    let st := st.beginReading (node.id, handle)
    let (r, st) :=
      match s.graph.node? edge.source with
      | some source => s.readOutput read source edge.sourceHandle st
      | none => (⟨none, .run⟩, st)
    (r, st.endReading (node.id, handle))

/-- Reads a pin, given how the pins one level deeper are read, if the depth bound admits any. -/
def readPinWith (deeper : Option PinReader) (depth : Nat) (node : Node) (handle : Handle)
    (st : RunState) : Reading × RunState :=
  match st.memoizedPin? (node.id, handle) with
  | some r => (r, st)
  | none =>
    if st.isReading (node.id, handle) then
      (⟨none, .run⟩, st.warn (.dataCycleSkipped node.id handle))
    else
      match deeper with
      | none => (⟨none, .uncached⟩, st.warn (.depthLimitReached node.id depth))
      | some read =>
        let (r, st) := s.readFresh read node handle st
        (r, st.memoizePin (node.id, handle) r)

/-- Reads a pin at some depth, with room for `room` more levels. -/
def readPinFrom : (room : Nat) → (depth : Nat) → PinReader
  | 0, depth => s.readPinWith none depth
  | room + 1, depth => s.readPinWith (some (readPinFrom room (depth + 1))) depth

/-- Reads a pin at some depth; readings deeper than the bound are cut off. -/
def readPinAt (depth : Nat) : PinReader := s.readPinFrom (s.limits.maxDepth + 1 - depth) depth

/-- The value of an input pin, or of nothing if it is missing. -/
def readPin (node : Node) (handle : Handle) (st : RunState) : Option Value × RunState :=
  let (r, st) := s.readPinAt 0 node handle st
  (r.value, st)

def evaluateEagerly (node : Node) (kind : PureKind) (st : RunState) : Reading × RunState :=
  s.evaluatePure (s.readPinAt 0) node kind st

end Setup

end PinFlow
