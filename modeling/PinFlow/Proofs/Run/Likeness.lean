import PinFlow.Proofs.Reading.Faithful
import PinFlow.Run.Traversal

set_option autoImplicit false

/-!
# Setups that look alike

A run sees its graph through three look-ups only, and its dice only at nodes that draw. So two
setups in which the look-ups agree, and in which nobody draws or the dice agree, start the same
runs: the activities are equal, and with them everything that can come of playing them.
-/

namespace PinFlow

def Graph.NeverDraws (g : Graph) : Prop :=
  ∀ node ∈ g.nodes, node.kind? ≠ some (.pure (.function .randomInt))

structure Setup.ReadsLike (s s' : Setup) : Prop where
  node? : ∀ id, s'.graph.node? id = s.graph.node? id
  feeding : ∀ node handle, s'.graph.edgeFeeding? node handle = s.graph.edgeFeeding? node handle
  limits : s'.limits = s.limits
  dice : s'.dice = s.dice ∨ s.graph.NeverDraws

structure Setup.LooksLike (s s' : Setup) : Prop where
  node? : ∀ id, s'.graph.node? id = s.graph.node? id
  leaving : ∀ node handle, s'.graph.edgesLeaving node handle = s.graph.edgesLeaving node handle
  feeding : ∀ node handle, s'.graph.edgeFeeding? node handle = s.graph.edgeFeeding? node handle
  limits : s'.limits = s.limits
  dice : s'.dice = s.dice ∨ s.graph.NeverDraws

namespace Setup.ReadsLike

variable {s s' : Setup} {id : NodeId} {node : Node}

theorem evaluatePure (h : s.ReadsLike s') (hnode : s.graph.node? id = some node) {kind : PureKind}
    (hkind : node.kind? = some (.pure kind)) (read : PinReader) :
    s'.evaluatePure read node kind = s.evaluatePure read node kind := by
  have hvalue : ∀ acc : Gathered, s'.computed kind acc = s.computed kind acc := by
    intro acc
    unfold computed
    rcases h.dice with hdice | hdrawless
    · rw [hdice]
    · have hdraw : kind ≠ .function .randomInt := by
        rintro rfl
        exact hdrawless node (s.graph.node?_mem hnode) hkind
      rw [PureKind.evaluate_draw hdraw _ _ (s.dice acc.state.draws.length)]
  have hcompute : ∀ acc : Gathered, s'.compute node kind acc = s.compute node kind acc := by
    intro acc
    rw [s'.compute_eq, s.compute_eq, hvalue]
  funext st
  simp only [Setup.evaluatePure, hcompute]

theorem readFresh (h : s.ReadsLike s') (read : PinReader) :
    s'.readFresh read = s.readFresh read := by
  funext node handle st
  unfold Setup.readFresh
  rw [h.feeding]
  cases s.graph.edgeFeeding? node.id handle with
  | none => rfl
  | some edge =>
    dsimp only
    rw [h.node?]
    cases hsource : s.graph.node? edge.source with
    | none => rfl
    | some source =>
      have houtput : s'.readOutput read source edge.sourceHandle =
          s.readOutput read source edge.sourceHandle := by
        funext st'
        unfold readOutput
        split
        · rfl
        · rfl
        · rename_i kind _ hkind
          exact congrFun (h.evaluatePure hsource hkind read) st'
        · rfl
        · rfl
        · rfl
      dsimp only
      rw [houtput]

theorem readPinWith (h : s.ReadsLike s') (deeper : Option PinReader) (depth : Nat) :
    s'.readPinWith deeper depth = s.readPinWith deeper depth := by
  funext node handle st
  simp only [Setup.readPinWith, h.readFresh]

theorem readPinFrom (h : s.ReadsLike s') (room depth : Nat) :
    s'.readPinFrom room depth = s.readPinFrom room depth := by
  induction room generalizing depth with
  | zero => exact h.readPinWith none depth
  | succ room ih =>
    unfold Setup.readPinFrom
    rw [ih, h.readPinWith]

theorem readPinAt (h : s.ReadsLike s') (depth : Nat) : s'.readPinAt depth = s.readPinAt depth := by
  unfold Setup.readPinAt
  rw [h.limits, h.readPinFrom]

theorem readPin (h : s.ReadsLike s') : s'.readPin = s.readPin := by
  funext node handle st
  unfold Setup.readPin
  rw [h.readPinAt]

theorem evaluateEagerly (h : s.ReadsLike s') (hnode : s.graph.node? id = some node)
    {kind : PureKind} (hkind : node.kind? = some (.pure kind)) :
    s'.evaluateEagerly node kind = s.evaluateEagerly node kind := by
  funext st
  unfold Setup.evaluateEagerly
  rw [h.readPinAt, h.evaluatePure hnode hkind]

end Setup.ReadsLike

namespace Setup.LooksLike

variable {s s' : Setup} {id : NodeId} {node : Node}

theorem reads (h : s.LooksLike s') : s.ReadsLike s' := ⟨h.node?, h.feeding, h.limits, h.dice⟩

theorem performAction (h : s.LooksLike s') (fire : Firing) (node : Node) :
    s'.performAction fire node = s.performAction fire node := by
  have hinput : s'.addActionInput node = s.addActionInput node := by
    funext acc pin
    unfold addActionInput
    rw [h.reads.readPin]
  unfold Setup.performAction actionInputs
  rw [hinput]

theorem steer (h : s.LooksLike s') (fire : Firing) (node : Node) (kind : FlowKind) :
    s'.steer fire node kind = s.steer fire node kind := by
  cases kind with
  | branch =>
    unfold Setup.steer branch
    rw [h.reads.readPin]
  | switch =>
    unfold Setup.steer switch
    rw [h.reads.readPin]
  | sequence => rfl
  | forEach =>
    unfold Setup.steer forEach
    rw [h.reads.readPin]
  | delay =>
    unfold Setup.steer delay
    rw [h.reads.readPin, h.limits]
  | unknown name => rfl

theorem execute (h : s.LooksLike s') (hnode : s.graph.node? id = some node) (fire : Firing) :
    s'.execute fire node = s.execute fire node := by
  funext st
  unfold Setup.execute
  split
  · rfl
  · rename_i kind hkind
    dsimp only
    congr 1
    funext _
    cases kind with
    | event kind => rfl
    | action => exact congrFun (h.performAction fire node) _
    | pure kind => simp only [visitPure, h.reads.evaluateEagerly hnode hkind]
    | flow kind => exact congrFun (h.steer fire node kind) _

theorem followEdge (h : s.LooksLike s') (deeper : Option (NodeId → Firing)) (depth : Nat) :
    s'.followEdge deeper depth = s.followEdge deeper depth := by
  funext edge st
  unfold Setup.followEdge
  rw [h.node?]
  cases deeper with
  | none => rfl
  | some fire =>
    cases htarget : s.graph.node? edge.target with
    | none => rfl
    | some target =>
      dsimp only
      rw [h.execute htarget]

theorem fireWith (h : s.LooksLike s') (deeper : Option (NodeId → Firing)) (depth : Nat) :
    s'.fireWith deeper depth = s.fireWith deeper depth := by
  funext node handle st
  unfold Setup.fireWith
  rw [h.followEdge, h.leaving]

theorem fireFrom (h : s.LooksLike s') (room depth : Nat) :
    s'.fireFrom room depth = s.fireFrom room depth := by
  induction room generalizing depth with
  | zero => exact h.fireWith none depth
  | succ room ih =>
    unfold Setup.fireFrom
    rw [ih, h.fireWith]

theorem start (h : s.LooksLike s') (entry : NodeId) (trigger : Trigger) :
    s'.start entry trigger = s.start entry trigger := by
  unfold Setup.start fireAt
  rw [h.node?, h.limits, h.fireFrom]

end Setup.LooksLike

end PinFlow
