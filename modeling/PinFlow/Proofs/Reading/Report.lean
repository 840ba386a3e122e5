import PinFlow.Proofs.Reading.Faithful

set_option autoImplicit false

/-!
# What readings report

The warnings that a reading records, with the reason for each: a pin is reported as a cycle only if
it depends on itself, and a node as unknown only if it is in the graph and has no kind. As in the
agreement with the reference value, what carries the induction is that everything in progress
depends on the pin that is read next.
-/

namespace PinFlow

/-- A warning that a reading may record on the graph. -/
inductive Graph.Reports (g : Graph) : Warning → Prop where
  | cycle {node : NodeId} {handle : Handle} :
      Relation.TransGen g.Feeds (node, handle) (node, handle) →
      Reports g (.dataCycleSkipped node handle)
  | cut (node : NodeId) (depth : Nat) : Reports g (.depthLimitReached node depth)
  | unknown {node : Node} : g.node? node.id = some node → node.kind? = none →
      Reports g (.unknownDefinition node.id node.definition)
  | unfamiliar {node : Node} {name : String} : g.Computes node (.unknown name) →
      Reports g (.unknownPureFunction node.id name)

theorem Graph.unknown_of_origin {g : Graph} {key : PinKey} {source : Node}
    (h : g.origin key = .unknown source) :
    g.node? source.id = some source ∧ source.kind? = none := by
  unfold origin at h
  split at h
  · cases h
  · split at h
    · rename_i edge _ found hfound
      unfold Origin.ofOutput at h
      split at h
      all_goals cases h
      rename_i hkind
      exact ⟨g.node?_self hfound, hkind⟩
    · cases h

def Reporting (g : Graph) (st st' : RunState) : Prop :=
  ∃ reported, st'.warnings = st.warnings ++ reported ∧ ∀ w ∈ reported, g.Reports w

namespace Reporting

variable {g : Graph} {st st' st'' : RunState}

theorem of_warnings (h : st'.warnings = st.warnings) : Reporting g st st' :=
  ⟨[], by rw [h, List.append_nil], List.forall_mem_nil _⟩

theorem trans (h : Reporting g st st') (h' : Reporting g st' st'') : Reporting g st st'' := by
  obtain ⟨reported, hwarnings, hreports⟩ := h
  obtain ⟨reported', hwarnings', hreports'⟩ := h'
  refine ⟨reported ++ reported', by rw [hwarnings', hwarnings, List.append_assoc], fun w hw => ?_⟩
  exact (List.mem_append.1 hw).elim (hreports w) (hreports' w)

theorem warn {w : Warning} (h : g.Reports w) : Reporting g st (st.warn w) :=
  ⟨[w], rfl, List.forall_mem_singleton.2 h⟩

theorem mem (h : Reporting g st st') {w : Warning} (hw : w ∈ st'.warnings) :
    w ∈ st.warnings ∨ g.Reports w := by
  obtain ⟨reported, hwarnings, hreports⟩ := h
  rw [hwarnings] at hw
  exact (List.mem_append.1 hw).imp_right (hreports w)

end Reporting

def PinReader.Reporting (g : Graph) (read : PinReader) : Prop :=
  ∀ node handle st, Awaited g st (node.id, handle) →
    PinFlow.Reporting g st (read node handle st).2

section Layers

variable {g : Graph} {read : PinReader}

theorem gather_reporting (hsound : read.Sound g) (hreporting : read.Reporting g) {node : Node}
    {st : RunState} (hawaited : ∀ pin ∈ node.dataInputs, Awaited g st (node.id, pin.id)) :
    Reporting g st (gather read node st).state := by
  unfold gather
  refine (List.foldlRecOn
    (motive := fun acc : Gathered => acc.state.resolving = st.resolving ∧
      Reporting g st acc.state) _ _ ⟨rfl, .of_warnings rfl⟩ ?_).2
  rintro acc ⟨hresolving, hacc⟩ pin hpin
  have hread := hreporting node pin.id acc.state
    fun k hk => hawaited pin hpin k (hresolving ▸ hk)
  have hframe := (hsound node pin.id acc.state).advance.frame
  exact ⟨hframe.resolving.trans hresolving, hacc.trans hread⟩

end Layers

namespace Setup

variable {s : Setup} {read : PinReader}

theorem compute_reporting {node : Node} {kind : PureKind} (hnode : s.graph.Computes node kind)
    (acc : Gathered) : Reporting s.graph acc.state (s.compute node kind acc).2 := by
  have hcomputing : Reporting s.graph acc.state (computing node kind acc.state) := by
    unfold computing
    split
    · exact .warn (.unfamiliar hnode)
    · exact .of_warnings rfl
    · exact .of_warnings rfl
  rw [compute_eq]
  refine hcomputing.trans (.of_warnings ?_)
  rw [RunState.memoizePure_eq]

theorem evaluatePure_reporting (hsound : read.Sound s.graph) (hreporting : read.Reporting s.graph)
    {node : Node} {kind : PureKind} (hnode : s.graph.Computes node kind) {st : RunState}
    (hawaited : ∀ pin ∈ node.dataInputs, Awaited s.graph st (node.id, pin.id)) :
    Reporting s.graph st (s.evaluatePure read node kind st).2 := by
  unfold evaluatePure
  split
  · exact .of_warnings rfl
  · have hgather := gather_reporting hsound hreporting hawaited
    dsimp only
    split
    · exact hgather
    · exact hgather.trans (compute_reporting hnode _)

theorem readFresh_reporting (hsound : read.Sound s.graph) (hreporting : read.Reporting s.graph)
    {node : Node} {handle : Handle} {st : RunState}
    (hawaited : Awaited s.graph st (node.id, handle)) :
    Reporting s.graph st (s.readFresh read node handle st).2 := by
  rw [readFresh_eq]
  cases horigin : s.graph.origin (node.id, handle) with
  | literal => exact .of_warnings rfl
  | absent => exact .of_warnings rfl
  | unknown source =>
    obtain ⟨hpresent, hkind⟩ := Graph.unknown_of_origin horigin
    exact .warn (.unknown hpresent hkind)
  | constant source kind out => exact .of_warnings rfl
  | event out => exact .of_warnings rfl
  | output source out => exact .of_warnings rfl
  | computed source kind =>
    have hcomputes := s.graph.computes_of_origin horigin
    have hawaited' : ∀ pin ∈ source.dataInputs,
        Awaited s.graph (st.beginReading (node.id, handle)) (source.id, pin.id) :=
      fun pin hpin => Awaited.input hawaited horigin hpin
    exact evaluatePure_reporting hsound hreporting hcomputes hawaited'

theorem readPinWith_found_reporting {node : Node} {handle : Handle} {st : RunState}
    (hstop : st.memoizedPin? (node.id, handle) ≠ none ∨ (node.id, handle) ∈ st.resolving)
    (hawaited : Awaited s.graph st (node.id, handle)) (deeper : Option PinReader) (depth : Nat) :
    Reporting s.graph st (s.readPinWith deeper depth node handle st).2 := by
  cases hfound : st.memoizedPin? (node.id, handle) with
  | some r =>
    rw [s.readPinWith_memoized deeper depth hfound]
    exact .of_warnings rfl
  | none =>
    have hreading := hstop.resolve_left (fun h => h hfound)
    rw [s.readPinWith_reading deeper depth hfound hreading]
    exact .warn (.cycle (hawaited _ hreading))

theorem readPinWith_none_reporting (depth : Nat) :
    PinReader.Reporting s.graph (s.readPinWith none depth) := by
  intro node handle st hawaited
  by_cases hstop : st.memoizedPin? (node.id, handle) ≠ none ∨ (node.id, handle) ∈ st.resolving
  · exact readPinWith_found_reporting hstop hawaited none depth
  · rw [not_or, not_not] at hstop
    rw [s.readPinWith_cut depth hstop.1 hstop.2]
    exact .warn (.cut node.id depth)

theorem readPinWith_some_reporting (hsound : read.Sound s.graph)
    (hreporting : read.Reporting s.graph) (depth : Nat) :
    PinReader.Reporting s.graph (s.readPinWith (some read) depth) := by
  intro node handle st hawaited
  by_cases hstop : st.memoizedPin? (node.id, handle) ≠ none ∨ (node.id, handle) ∈ st.resolving
  · exact readPinWith_found_reporting hstop hawaited (some read) depth
  · rw [not_or, not_not] at hstop
    rw [s.readPinWith_fresh read depth hstop.1 hstop.2]
    refine (readFresh_reporting hsound hreporting hawaited).trans (.of_warnings ?_)
    rw [RunState.memoizePin_eq]

theorem readPinFrom_reporting (room depth : Nat) :
    PinReader.Reporting s.graph (s.readPinFrom room depth) := by
  induction room generalizing depth with
  | zero => exact readPinWith_none_reporting depth
  | succ room ih =>
    have hsound := readPinFrom_contract (s := s) room (depth + 1)
    exact readPinWith_some_reporting hsound (ih (depth + 1)) depth

theorem readPin_reporting {st : RunState} (hst : st.resolving = []) (node : Node)
    (handle : Handle) : Reporting s.graph st (s.readPin node handle st).2 := by
  change Reporting s.graph st (s.readPinAt 0 node handle st).2
  exact readPinFrom_reporting _ _ node handle st (.of_idle hst _)

theorem evaluateEagerly_reporting {st : RunState} (hst : st.resolving = []) {node : Node}
    {kind : PureKind} (hnode : s.graph.Computes node kind) :
    Reporting s.graph st (s.evaluateEagerly node kind st).2 :=
  evaluatePure_reporting (readPinFrom_contract _ _) (readPinFrom_reporting _ _) hnode
    fun _ _ => .of_idle hst _

end Setup

end PinFlow
