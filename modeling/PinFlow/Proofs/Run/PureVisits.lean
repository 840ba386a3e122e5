import PinFlow.Proofs.Run.DepthBound
import PinFlow.Proofs.Run.Foresight
import PinFlow.Proofs.Run.Likeness
import PinFlow.Proofs.Run.Simulation

set_option autoImplicit false

/-!
# Visits to pure nodes leave no trace

Where control enters a pure node, the node is evaluated ahead of its readers, which fills memos and
records warnings. If nothing is drawn, no computing nodes form a cycle and the depth bound leaves
room for all data edges, then every input has its reference value in every state, so the memos do
not show: without the exec edges into pure nodes the same happens.
-/

namespace PinFlow

namespace Graph

variable {g : Graph}

def isPure (g : Graph) (id : NodeId) : Bool :=
  decide ((g.node? id).bind Node.category? = some .pure)

def isComputing (g : Graph) (id : NodeId) : Bool :=
  match (g.node? id).bind Node.kind? with
  | some (.pure kind) => !kind.isConstant
  | _ => false

def computingEdges (g : Graph) : List Edge :=
  g.dataEdges.filter fun e => g.isComputing e.source && g.isComputing e.target

def withoutPureVisits (g : Graph) : Graph :=
  { g with edges := g.edges.filter fun e => !(e.isExec && g.isPure e.target) }

theorem withoutPureVisits_edgesLeaving (node : NodeId) (handle : Handle) :
    g.withoutPureVisits.edgesLeaving node handle =
      (g.edgesLeaving node handle).filter fun e => !g.isPure e.target := by
  unfold withoutPureVisits edgesLeaving
  rw [List.filter_filter, List.filter_filter]
  refine List.filter_congr fun e _ => ?_
  cases hexec : e.isExec <;> simp [Edge.leaves, hexec, Bool.and_comm]

theorem withoutPureVisits_edgeFeeding? (node : NodeId) (handle : Handle) :
    g.withoutPureVisits.edgeFeeding? node handle = g.edgeFeeding? node handle := by
  unfold withoutPureVisits edgeFeeding?
  rw [List.find?_filter]
  congr 1
  funext e
  cases hexec : e.isExec <;> simp [Edge.feeds, hexec, beq_eq_decide]

theorem isPure_of_node? {node : Node} (hnode : g.node? node.id = some node) :
    g.isPure node.id = true ↔ node.category? = some .pure := by
  simp [isPure, hnode]

theorem isComputing_of_feeds {input key : PinKey} (h : g.Feeds input key) :
    g.isComputing input.1 = true := by
  obtain ⟨source, kind, horigin, pin, -, rfl⟩ := h
  have hcomputes := g.computes_of_origin horigin
  simp [isComputing, hcomputes.present, hcomputes.kind?, hcomputes.notConstant]

theorem linked_computingEdges {key key' : PinKey} (h : Relation.TransGen g.Feeds key key')
    (hkey' : g.isComputing key'.1 = true) :
    Relation.TransGen (Linked g.computingEdges) key.1 key'.1 := by
  have hlinked : ∀ a b : PinKey, g.Feeds a b → g.isComputing b.1 = true →
      Linked g.computingEdges a.1 b.1 := by
    intro a b hfeeds hb
    obtain ⟨e, hmem, hsource, htarget⟩ := hfeeds.linked
    refine ⟨e, List.mem_filter.2 ⟨hmem, ?_⟩, hsource, htarget⟩
    rw [hsource, htarget, isComputing_of_feeds hfeeds, hb]
    rfl
  induction h with
  | single hfeeds => exact .single (hlinked _ _ hfeeds hkey')
  | tail _ hfeeds ih => exact (ih (isComputing_of_feeds hfeeds)).tail (hlinked _ _ hfeeds hkey')

theorem determined_of_acyclic (hdraws : g.NeverDraws) (hacyclic : ¬ HasClosedWalk g.computingEdges)
    (key : PinKey) : g.Determined key := by
  constructor
  · intro k _ hcycle
    obtain ⟨_, hfeeds, _⟩ := Relation.TransGen.head'_iff.1 hcycle
    exact hacyclic
      (hasClosedWalk_iff.2 ⟨k.1, linked_computingEdges hcycle (isComputing_of_feeds hfeeds)⟩)
  · intro k _ source horigin
    have hcomputes := g.computes_of_origin horigin
    exact hdraws source (g.node?_mem hcomputes.present) hcomputes.kind?

end Graph

namespace Setup

variable {s : Setup}

def withoutPureVisits (s : Setup) : Setup := { s with graph := s.graph.withoutPureVisits }

theorem readsLike_withoutPureVisits : s.ReadsLike s.withoutPureVisits where
  node? _ := rfl
  feeding := Graph.withoutPureVisits_edgeFeeding?
  limits := rfl
  dice := .inl rfl

/-- No computing nodes form a cycle, nothing is drawn, and all data edges can be followed. -/
structure Decided (s : Setup) : Prop where
  neverDraws : s.graph.NeverDraws
  acyclic : ¬ Graph.HasClosedWalk s.graph.computingEdges
  depth : s.graph.dataEdges.length ≤ s.limits.maxDepth

theorem Decided.readPin {st : RunState} (hs : s.Decided) (hst : Sane s.graph st) {node : Node}
    (hnode : s.graph.node? node.id = some node) (handle : Handle) :
    (s.readPin node handle st).1 =
      s.graph.reference st.trigger st.output? (node.id, handle) := by
  have hfed : s.graph.fedInputs.length ≤ s.limits.maxDepth := by
    rw [Graph.length_fedInputs]
    exact hs.depth
  -- There is room for every fed input, so nothing is cut off and the value is that of the recursion.
  have hcuts := (readPinAt_alike hfed hfed node handle st hst.resolving).2
  have hlifetime : (s.readPinAt 0 node handle st).1.lifetime ≠ .uncached := by
    intro huncached
    have hcut := (readPinAt_contract node handle st).cut huncached
    omega
  have hdetermined := Graph.determined_of_acyclic hs.neverDraws hs.acyclic (node.id, handle)
  exact (((readPinAt_faithful hst hnode handle).lasts hdetermined).eq hlifetime).symm

theorem visitPure_sane {node : Node} {kind : PureKind} {st : RunState} (hst : Sane s.graph st)
    (hnode : s.graph.node? node.id = some node) (hkind : node.kind? = some (.pure kind)) :
    ReadFrame st (s.visitPure node kind st) ∧ Sane s.graph (s.visitPure node kind st) := by
  have hacts : Relation.ReflTransGen (Acts s node) st (s.visitPure node kind st) :=
    Conducts.visitPure_acts hnode hkind
  generalize s.visitPure node kind st = left at hacts ⊢
  induction hacts with
  | refl => exact ⟨.refl st, hst⟩
  | tail _ hact ih => exact ⟨ih.1.trans hact.frame, hact.sane hnode ih.2⟩

end Setup

/-- The second state is that of the first without the visits to pure nodes: what control and the
    readers see of both is the same. -/
structure Shadows (g : Graph) (st st' : RunState) : Prop where
  trigger : st'.trigger = st.trigger
  outputs : st'.outputs = st.outputs
  active : st'.active = st.active
  executed : st'.executed = st.executed.filter (!g.isPure ·)
  sane : Sane g st
  sane' : Sane g st'

namespace Shadows

variable {g : Graph} {st st' next next' : RunState}

theorem fresh (g : Graph) (trigger : Trigger) :
    Shadows g (RunState.fresh trigger) (RunState.fresh trigger) :=
  ⟨rfl, rfl, rfl, rfl, .fresh g trigger, .fresh g trigger⟩

theorem reading (h : Shadows g st st') (hframe : ReadFrame st next) (hframe' : ReadFrame st' next')
    (hsane : Sane g next) (hsane' : Sane g next') : Shadows g next next' where
  trigger := by rw [hframe'.trigger, hframe.trigger, h.trigger]
  outputs := by rw [hframe'.outputs, hframe.outputs, h.outputs]
  active := by rw [hframe'.active, hframe.active, h.active]
  executed := by rw [hframe'.executed, hframe.executed, h.executed]
  sane := hsane
  sane' := hsane'

theorem warn (h : Shadows g st st') (w w' : Warning) : Shadows g (st.warn w) (st'.warn w') :=
  h.reading (.warn st w) (.warn st' w') (h.sane.records st.active st.executed _)
    (h.sane'.records st'.active st'.executed _)

theorem setOutputs (h : Shadows g st st') (node : NodeId) (outputs : Fields Value) :
    Shadows g (st.setOutputs node outputs) (st'.setOutputs node outputs) :=
  { h with
    outputs := congrArg (·.insert node outputs) h.outputs
    sane := h.sane.setOutputs node outputs
    sane' := h.sane'.setOutputs node outputs }

theorem markExecuted (h : Shadows g st st') {node : NodeId} (himpure : g.isPure node = false) :
    Shadows g (st.markExecuted node) (st'.markExecuted node) :=
  { h with
    executed := by simp [RunState.markExecuted, h.executed, himpure]
    sane := h.sane.records st.active _ st.warnings
    sane' := h.sane'.records st'.active _ st'.warnings }

theorem setActive (h : Shadows g st st') (active : List PinKey) :
    Shadows g { st with active := active } { st' with active := active } :=
  { h with
    active := rfl
    sane := h.sane.records active st.executed st.warnings
    sane' := h.sane'.records active st'.executed st'.warnings }

theorem output? (h : Shadows g st st') : st'.output? = st.output? := by
  funext node handle
  simp only [RunState.output?, h.outputs]

end Shadows

namespace Setup

variable {s : Setup}

theorem Decided.tracks (hs : s.Decided) : Tracks s s.withoutPureVisits (Shadows s.graph) where
  node? _ := rfl
  limits := rfl
  read {node} handle st st' hnode hst := by
    rw [readsLike_withoutPureVisits.readPin]
    refine ⟨(s.readPin node handle st).1, _, _, rfl, Prod.ext ?_ rfl, ?_⟩
    · rw [hs.readPin hst.sane hnode, hs.readPin hst.sane' hnode, hst.trigger, hst.output?]
    · exact hst.reading (readPinAt_contract node handle st).advance.frame
        (readPinAt_contract node handle st').advance.frame
        (take_sane hst.sane (.read node handle) hnode)
        (take_sane hst.sane' (.read node handle) hnode)
  store node outputs _ _ hst := hst.setOutputs node outputs
  warn w _ _ hst := hst.warn w w
  mark hnode himpure hst := by
    refine hst.markExecuted ?_
    simpa using mt (Graph.isPure_of_node? hnode).1 himpure
  active hst := hst.active
  enter key st st' hst := by
    unfold RunState.beginVisit
    rw [hst.active]
    exact hst.setActive _
  leave key st st' hst := by
    unfold RunState.endVisit
    rw [hst.active]
    exact hst.setActive _

theorem shadows_visitPure {st st' : RunState} (hst : Shadows s.graph st st') {node : Node}
    {kind : PureKind} (hnode : s.graph.node? node.id = some node)
    (hkind : node.kind? = some (.pure kind)) (key : PinKey) :
    Shadows s.graph
      ((s.visitPure node kind ((st.beginVisit key).markExecuted node.id)).endVisit key) st' := by
  have hentered : Sane s.graph ((st.beginVisit key).markExecuted node.id) :=
    hst.sane.records (key :: st.active) (st.executed ++ [node.id]) st.warnings
  obtain ⟨hframe, hleft⟩ := visitPure_sane hentered hnode hkind
  have hpure : s.graph.isPure node.id = true :=
    (Graph.isPure_of_node? hnode).2 (congrArg (Option.map NodeKind.category) hkind)
  generalize s.visitPure node kind ((st.beginVisit key).markExecuted node.id) = left
    at hframe hleft ⊢
  constructor
  · exact hst.trigger.trans hframe.trigger.symm
  · exact hst.outputs.trans hframe.outputs.symm
  · change st'.active = left.active.erase key
    rw [hframe.active, hst.active]
    exact (List.erase_cons_head key st.active).symm
  · change st'.executed = left.executed.filter (!s.graph.isPure ·)
    have hexecuted : left.executed = st.executed ++ [node.id] := hframe.executed
    simp [hexecuted, hst.executed, hpure]
  · exact hleft.records _ left.executed left.warnings
  · exact hst.sane'

theorem followEdge_covers_skip {edge : Edge} (hpure : s.graph.isPure edge.target = true)
    (deeper : Option (NodeId → Firing)) (depth : Nat) :
    Path.Covers (Shadows s.graph) (s.followEdge deeper depth edge) Path.skip := by
  intro st st' hst
  have hwarn : ∀ w, (Activity.done (.going (st.warn w))).Covers
      (Progress.Alike (Shadows s.graph)) (Path.skip st') :=
    fun w => .done (.going (hst.reading (.warn st w) (.refl st')
      (hst.sane.records st.active st.executed _) hst.sane'))
  unfold followEdge
  dsimp only
  split
  · exact hwarn _
  · cases deeper with
    | none => exact hwarn _
    | some fire =>
      cases htarget : s.graph.node? edge.target with
      | none => exact .done (.going hst)
      | some target =>
        have hnode := s.graph.node?_self htarget
        rw [← s.graph.node?_id htarget, Graph.isPure_of_node? hnode] at hpure
        obtain ⟨kind, hkind, hcategory⟩ := Option.map_eq_some_iff.1 hpure
        cases kind with
        | pure kind =>
          -- Control ends at the pure node, so all of the visit is on one side.
          simp only [execute, hkind]
          exact .aside (.done (.going (shadows_visitPure hst hnode hkind _)))
        | event kind => cases hcategory
        | action => cases hcategory
        | flow kind => cases hcategory

theorem fireWith_covers (hs : s.Decided) {deeper deeper' : Option (NodeId → Firing)}
    (hdeeper : Tracks.Deeper (Shadows s.graph) deeper deeper') (depth : Nat) (id : NodeId)
    (handle : Handle) :
    Path.Covers (Shadows s.graph) (s.fireWith deeper depth id handle)
      (s.withoutPureVisits.fireWith deeper' depth id handle) := by
  intro st st' hst
  refine .noting _ ?_
  change Activity.Covers _ _ (Path.each _ (s.graph.withoutPureVisits.edgesLeaving id handle) st')
  rw [Graph.withoutPureVisits_edgesLeaving]
  refine Path.covers_each_filter _ (fun edge _ hkept => ?_) (fun edge _ hpure => ?_) st st' hst
  · refine hs.tracks.followEdge hdeeper depth fun target htarget hcategory => ?_
    have hpure := (Graph.isPure_of_node? (s.graph.node?_self htarget)).2 hcategory
    rw [s.graph.node?_id htarget] at hpure
    simp [hpure] at hkept
  · exact followEdge_covers_skip (by simpa using hpure) deeper depth

theorem fireFrom_covers (hs : s.Decided) (room depth : Nat) (id : NodeId) (handle : Handle) :
    Path.Covers (Shadows s.graph) (s.fireFrom room depth id handle)
      (s.withoutPureVisits.fireFrom room depth id handle) := by
  induction room generalizing depth id handle with
  | zero => exact fireWith_covers hs .none depth id handle
  | succ room ih => exact fireWith_covers hs (.some (ih (depth + 1))) depth id handle

theorem start_covers (hs : s.Decided) (entry : NodeId) (trigger : Trigger) :
    (s.start entry trigger).Covers (SameOutcome (Shadows s.graph))
      (s.withoutPureVisits.start entry trigger) :=
  hs.tracks.start (fireFrom_covers hs _ 0) entry (.fresh s.graph trigger)

/-- Without the exec edges into pure nodes a run makes the same calls, takes as long and has the same
    result: it fails with the same error, or it leaves the same outputs and has executed the same
    nodes, the pure ones left out. -/
theorem run_without_pure_visits (s : Setup) (hdraws : s.graph.NeverDraws)
    (hacyclic : ¬ Graph.HasClosedWalk s.graph.computingEdges)
    (hdepth : s.graph.dataEdges.length ≤ s.limits.maxDepth) (entry : NodeId) (trigger : Trigger)
    (d : Dispatcher) :
    SameOutcome
        (fun st st' => st'.outputs = st.outputs ∧
          st'.executed = st.executed.filter (!s.graph.isPure ·))
        ((s.start entry trigger).play d).result
        ((s.withoutPureVisits.start entry trigger).play d).result ∧
      ((s.withoutPureVisits.start entry trigger).play d).calls =
        ((s.start entry trigger).play d).calls ∧
      ((s.withoutPureVisits.start entry trigger).play d).elapsed =
        ((s.start entry trigger).play d).elapsed := by
  have hcovers := start_covers ⟨hdraws, hacyclic, hdepth⟩ entry trigger
  obtain ⟨hresult, hcalls, helapsed⟩ := hcovers.played d 0 []
  exact ⟨hresult.mono fun st st' hst => ⟨hst.outputs, hst.executed⟩, hcalls, helapsed⟩

/-- The text is put together too early, again when the name is known, and then said. -/
def hasty : Setup where
  graph := .ofParts
    [{ Node.bare "start" "event-ready" with execOutputs := [.exec "out"] },
      { Node.bare "ask" "action-ask" with
        execInputs := [.exec "in"]
        execOutputs := [.exec "out"]
        dataOutputs := [.required "name" .string] },
      { Graph.joinNode with execInputs := [.exec "in"] }, Graph.sayNode]
    [⟨none, "start", "out", "join", "in", .data⟩, ⟨none, "start", "out", "ask", "in", .data⟩,
      ⟨none, "ask", "out", "join", "in", .data⟩, ⟨none, "ask", "out", "say", "in", .data⟩,
      ⟨none, "ask", "name", "join", "a", .data⟩, ⟨none, "join", "result", "say", "text", .data⟩]
  limits := ⟨2, .zero⟩
  dice _ := 0

def giveName : Dispatcher := fun _ call =>
  if call.node = "ask" then .ok [("name", .string "Ann")] else .ok []

theorem run_without_pure_visits_hasty :
    hasty.graph.NeverDraws ∧ ¬ Graph.HasClosedWalk hasty.graph.computingEdges ∧
      hasty.graph.dataEdges.length = 2 ∧
      (∃ st st', ((hasty.start "start" []).play giveName).result = .ok st ∧
        ((hasty.withoutPureVisits.start "start" []).play giveName).result = .ok st' ∧
        st.executed = ["start", "join", "ask", "join", "say"] ∧
        st'.executed = ["start", "ask", "say"] ∧ st'.outputs = st.outputs) ∧
      ((hasty.withoutPureVisits.start "start" []).play giveName).calls =
        ((hasty.start "start" []).play giveName).calls ∧
      ((hasty.start "start" []).play giveName).calls.map (·.call.inputs) =
        [[], [("text", .string "Ann")]] := by
  have hdraws : hasty.graph.NeverDraws := by
    unfold Graph.NeverDraws
    decide
  have hacyclic : ¬ Graph.HasClosedWalk hasty.graph.computingEdges := by
    rw [Graph.hasClosedWalk_iff, ← Graph.hasCycle_iff]
    decide
  have hdepth : hasty.graph.dataEdges.length = 2 := by rfl
  obtain ⟨hresult, hcalls, -⟩ :=
    run_without_pure_visits hasty hdraws hacyclic (Nat.le_of_eq hdepth) "start" [] giveName
  refine ⟨hdraws, hacyclic, hdepth, ⟨_, _, rfl, rfl, rfl, rfl, ?_⟩, hcalls, rfl⟩
  cases hresult with
  | ok hst => exact hst.1

end Setup

end PinFlow
