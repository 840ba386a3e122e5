import Mathlib.Data.List.Dedup
import PinFlow.Proofs.Reading.Depth
import PinFlow.Proofs.Run.Agreement

set_option autoImplicit false

/-!
# When the depth bound does not matter

The traversals in progress are those of different exec inputs, and the readings in progress those of
different fed inputs. So the guards against cycles bound both depths by the size of the graph, and a
depth bound that is at least as large is never met: no run records a cut, and every such bound gives
the same run.
-/

namespace PinFlow

namespace Graph

variable {g : Graph}

def execTargets (g : Graph) : List PinKey :=
  ((g.edges.filter Edge.isExec).map fun e => (e.target, e.targetHandle)).dedup

/-- The depth beyond which nothing in the graph leads. -/
def fullDepth (g : Graph) : Nat := max g.execTargets.length g.dataEdges.length

theorem length_execTargets_le : g.execTargets.length ≤ g.fullDepth := Nat.le_max_left _ _

theorem length_fedInputs_le : g.fedInputs.length ≤ g.fullDepth := by
  rw [g.length_fedInputs]
  exact Nat.le_max_right _ _

theorem mem_execTargets {edge : Edge} {node : NodeId} {handle : Handle}
    (h : edge ∈ g.edgesLeaving node handle) : (edge.target, edge.targetHandle) ∈ g.execTargets := by
  obtain ⟨hmem, hleaves⟩ := List.mem_filter.1 h
  simp only [Edge.leaves, Bool.and_eq_true] at hleaves
  exact List.mem_dedup.2 (List.mem_map.2 ⟨edge, List.mem_filter.2 ⟨hmem, hleaves.1.1⟩, rfl⟩)

end Graph

namespace RunState

def CutFree (st : RunState) : Prop :=
  ∀ node depth, Warning.depthLimitReached node depth ∉ st.warnings

theorem cutFree_of_cuts {st : RunState} (h : st.cuts = 0) : st.CutFree := by
  intro node depth hmem
  exact absurd rfl (List.countP_eq_zero.1 h _ hmem)

/-- No reading is in progress, and the given traversals are. -/
structure AtRest (active : List PinKey) (st : RunState) : Prop where
  resolving : st.resolving = []
  active : st.active = active

namespace AtRest

variable {active : List PinKey} {st : RunState} {key : PinKey}

theorem beginVisit (h : st.AtRest active) : (st.beginVisit key).AtRest (key :: active) :=
  ⟨h.resolving, congrArg (key :: ·) h.active⟩

theorem endVisit (h : st.AtRest (key :: active)) : (st.endVisit key).AtRest active := by
  refine ⟨h.resolving, ?_⟩
  change st.active.erase key = active
  rw [h.active]
  exact List.erase_cons_head key active

theorem frame {st' : RunState} (h : st.AtRest active) (hframe : ReadFrame st st') :
    st'.AtRest active :=
  ⟨hframe.resolving.trans h.resolving, hframe.active.trans h.active⟩

end AtRest

def SameCuts (st st' : RunState) : Prop := st'.cuts = st.cuts

end RunState

open RunState

namespace Setup

variable {s : Setup} {m : Nat}

def withDepth (s : Setup) (m : Nat) : Setup := { s with limits := { s.limits with maxDepth := m } }

theorem withDepth_readPinFrom (room depth : Nat) :
    (s.withDepth m).readPinFrom room depth = s.readPinFrom room depth := by
  induction room generalizing depth with
  | zero => rfl
  | succ room ih =>
    unfold readPinFrom
    rw [ih]
    rfl

theorem readPinAt_alike (hs : s.graph.fedInputs.length ≤ s.limits.maxDepth)
    (hm : s.graph.fedInputs.length ≤ m) :
    (s.readPinAt 0).Alike [] ((s.withDepth m).readPinAt 0) := by
  have halike := readPinFrom_alike (s := s) (.start hs) (.start hm) 0 0
  rw [← withDepth_readPinFrom (m := m) (m + 1)] at halike
  exact halike

theorem take_sameCuts (hs : s.graph.fedInputs.length ≤ s.limits.maxDepth) {st : RunState}
    (hst : st.resolving = []) {step : Step} (hlocal : step.isLocal = true) :
    SameCuts st (s.take st step) := by
  have halike := readPinAt_alike hs hs
  cases step with
  | read node handle => exact (halike node handle st hst).2
  | evaluate node kind =>
    exact (evaluatePure_alike (readPinFrom_contract _ _) halike node kind hst).2
  | store node outputs => rfl
  | warn w => exact st.cuts_warn_of_not_cut (by simpa [Step.isLocal] using hlocal)
  | mark node => rfl
  | enter key => cases hlocal
  | leave key => cases hlocal

theorem take_atRest {active : List PinKey} {st : RunState} (hst : st.AtRest active) {step : Step}
    (hlocal : step.isLocal = true) : (s.take st step).AtRest active := by
  cases hreading : step.isReading with
  | true => exact hst.frame (take_advance (s := s) st hreading).frame
  | false =>
    cases step with
    | read node handle => cases hreading
    | evaluate node kind => cases hreading
    | enter key => cases hlocal
    | leave key => cases hlocal
    | _ => exact ⟨hst.resolving, hst.active⟩

theorem kept_sameCuts (hs : s.graph.fedInputs.length ≤ s.limits.maxDepth)
    (active : List PinKey) : Kept s (AtRest active) SameCuts :=
  .of_steps (fun _ => rfl) (fun _ _ _ h h' => Eq.trans h' h)
    fun _ _ _ hlocal hst => ⟨take_sameCuts hs hst.resolving hlocal, take_atRest hst hlocal⟩

theorem agree_withDepth (hs : s.graph.fedInputs.length ≤ s.limits.maxDepth)
    (hm : s.graph.fedInputs.length ≤ m) (active : List PinKey) :
    Agree s (s.withDepth m) (AtRest active) where
  graph := rfl
  maxDelay := rfl
  read node handle st hst := by
    unfold readPin
    rw [(readPinAt_alike hs hm node handle st hst.resolving).1]
  evaluate node kind st hst :=
    (evaluatePure_alike (s := s) (readPinFrom_contract _ _) (readPinAt_alike hs hm) node kind
      hst.resolving).1.symm

theorem followEdge_visiting_matches (hs : s.graph.fedInputs.length ≤ s.limits.maxDepth)
    {active : List PinKey} {edge : Edge} (hkey : (edge.target, edge.targetHandle) ∈ active)
    (deeper deeper' : Option (NodeId → Firing)) (depth depth' : Nat) :
    Path.Matches (AtRest active) SameCuts (s.followEdge deeper depth edge)
      ((s.withDepth m).followEdge deeper' depth' edge) := by
  have hvisiting : ∀ st : RunState, st.AtRest active →
      (edge.target, edge.targetHandle) ∈ st.active := by
    intro st hst
    rw [hst.active]
    exact hkey
  constructor
  · intro st hst
    have hrules := (kept_sameCuts hs active).rules
    rw [s.followEdge_visiting (hvisiting st hst)]
    exact hrules.done (hrules.move _ _ (.skip (hvisiting st hst)) hst)
  · intro st hst
    rw [s.followEdge_visiting (hvisiting st hst),
      (s.withDepth m).followEdge_visiting (hvisiting st hst)]

def deeperFrom (s : Setup) (room depth : Nat) : Option (NodeId → Firing) :=
  match room with
  | 0 => none
  | room + 1 => some (s.fireFrom room (depth + 1))

theorem fireFrom_eq (room depth : Nat) :
    s.fireFrom room depth = s.fireWith (s.deeperFrom room depth) depth := by
  cases room with
  | zero => rfl
  | succ room => rfl

theorem followEdge_matches (hs : s.graph.fedInputs.length ≤ s.limits.maxDepth)
    (hm : s.graph.fedInputs.length ≤ m) {active : List PinKey} {edge : Edge}
    {deeper deeper' : NodeId → Firing} (depth depth' : Nat)
    (h : ∀ node handle,
      Path.Matches (AtRest ((edge.target, edge.targetHandle) :: active)) SameCuts
        (deeper node handle) (deeper' node handle)) :
    Path.Matches (AtRest active) SameCuts (s.followEdge (some deeper) depth edge)
      ((s.withDepth m).followEdge (some deeper') depth' edge) := by
  have hkeeps : Path.Has (AtRest active) (Activity.Keeps (AtRest active) SameCuts)
      (s.followEdge (some deeper) depth edge) :=
    (kept_sameCuts hs active).followEdge (kept_sameCuts hs _)
      (fun node handle => (h node handle).keeps) (fun _ hst _ => ⟨rfl, hst.beginVisit⟩)
      (fun _ hst => ⟨rfl, hst.endVisit⟩)
  exact (agree_withDepth hs hm active).followEdge (kept_sameCuts hs _) (agree_withDepth hs hm _)
    depth' h (fun _ hst _ => hst.beginVisit) hkeeps

theorem fireFrom_matches (hs : s.graph.fedInputs.length ≤ s.limits.maxDepth)
    (hm : s.graph.fedInputs.length ≤ m) {active : List PinKey} {room room' : Nat}
    (hroom : Roomy s.graph.execTargets room active)
    (hroom' : Roomy s.graph.execTargets room' active) (depth depth' : Nat) (id : NodeId)
    (handle : Handle) :
    Path.Matches (AtRest active) SameCuts (s.fireFrom room depth id handle)
      ((s.withDepth m).fireFrom room' depth' id handle) := by
  induction room generalizing active room' depth depth' id handle with
  | zero =>
    -- Every exec input is the end of a traversal in progress, so every edge is skipped as a cycle.
    rw [fireFrom_eq, fireFrom_eq]
    refine (agree_withDepth hs hm active).fireWith (kept_sameCuts hs active) fun edge hedge => ?_
    refine followEdge_visiting_matches hs ?_ _ _ depth depth'
    by_contra hkey
    exact absurd (hroom.pos hkey (Graph.mem_execTargets hedge)) (Nat.lt_irrefl 0)
  | succ room ih =>
    rw [fireFrom_eq, fireFrom_eq]
    refine (agree_withDepth hs hm active).fireWith (kept_sameCuts hs active) fun edge hedge => ?_
    have hmem := Graph.mem_execTargets hedge
    by_cases hkey : (edge.target, edge.targetHandle) ∈ active
    · exact followEdge_visiting_matches hs hkey _ _ depth depth'
    · obtain ⟨room', rfl⟩ := Nat.exists_eq_succ_of_ne_zero (hroom'.pos hkey hmem).ne'
      exact followEdge_matches hs hm depth depth' fun node handle =>
        ih (hroom.deeper hkey hmem) (hroom'.deeper hkey hmem) (depth + 1) (depth' + 1) node handle

theorem fireAt_matches (hs : s.graph.fullDepth ≤ s.limits.maxDepth) (hm : s.graph.fullDepth ≤ m)
    (id : NodeId) (handle : Handle) :
    Path.Matches (AtRest []) SameCuts (s.fireAt 0 id handle)
      ((s.withDepth m).fireAt 0 id handle) :=
  fireFrom_matches (Graph.length_fedInputs_le.trans hs) (Graph.length_fedInputs_le.trans hm)
    (.start (Graph.length_execTargets_le.trans hs)) (.start (Graph.length_execTargets_le.trans hm))
    0 0 id handle

theorem start_cutFree (hs : s.graph.fullDepth ≤ s.limits.maxDepth) (entry : NodeId)
    (trigger : Trigger) :
    (s.start entry trigger).Traced (fun _ st => st.CutFree)
      (fun _ result => ∀ st, result = .ok st → st.CutFree) (RunState.fresh trigger) := by
  have hk := kept_sameCuts (Graph.length_fedInputs_le.trans hs) []
  have hfresh : (RunState.fresh trigger).AtRest [] := ⟨rfl, rfl⟩
  have hrun := hk.run (fun id handle => (fireAt_matches hs hs id handle).keeps) entry hfresh
  have hzero : ∀ st st', st.cuts = 0 → SameCuts st st' → st'.cuts = 0 :=
    fun st st' hst hsame => hsame.trans hst
  refine (hrun.always hzero rfl).mono (fun _ _ h => cutFree_of_cuts h.2) ?_
  rintro last result ⟨hlast, hresult⟩ st hst
  exact cutFree_of_cuts (hzero last st hlast (hresult st hst).1)

theorem start_withDepth (hs : s.graph.fullDepth ≤ s.limits.maxDepth) (hm : s.graph.fullDepth ≤ m)
    (entry : NodeId) (trigger : Trigger) :
    (s.withDepth m).start entry trigger = s.start entry trigger := by
  have hfed := Graph.length_fedInputs_le.trans hs
  have hfed' := Graph.length_fedInputs_le.trans hm
  exact (agree_withDepth hfed hfed' []).run (kept_sameCuts hfed []) (fireAt_matches hs hm) entry
    ⟨rfl, rfl⟩

/-- A depth bound as large as the graph is never met, whatever cycles there are, and all such bounds
    give the same result after the same calls. -/
theorem run_depth_inert (s : Setup) (entry : NodeId) (trigger : Trigger)
    (hs : s.graph.fullDepth ≤ s.limits.maxDepth) :
    (s.start entry trigger).Traced (fun _ st => st.CutFree)
        (fun _ result => ∀ st, result = .ok st → st.CutFree) (RunState.fresh trigger) ∧
      ∀ d : Dispatcher,
        (∀ st, ((s.start entry trigger).play d).result = .ok st → st.CutFree) ∧
        ∀ m, s.graph.fullDepth ≤ m →
          ((s.withDepth m).start entry trigger).play d = (s.start entry trigger).play d := by
  have hfree := start_cutFree hs entry trigger
  refine ⟨hfree, fun d => ⟨?_, fun m hm => ?_⟩⟩
  · obtain ⟨last, hresult⟩ := hfree.result d 0 []
    exact hresult
  · rw [start_withDepth hs hm]

/-- Someone says the same again and again, and what is said depends on itself. -/
def echo : Setup where
  graph := .ofParts
    [{ Node.bare "start" "event-ready" with execOutputs := [.exec "out"] },
      { Graph.sayNode with execOutputs := [.exec "out"] }, Graph.joinNode]
    [⟨none, "start", "out", "say", "in", .data⟩, ⟨none, "say", "out", "say", "in", .data⟩,
      ⟨none, "join", "result", "say", "text", .data⟩, ⟨none, "join", "result", "join", "a", .data⟩]
  limits := ⟨2, .zero⟩
  dice _ := 0

/-- Both cycles are met and reported, and what was said once is not said again. -/
theorem run_depth_inert_echo :
    echo.graph.fullDepth = 2 ∧
      ((echo.withDepth 256).start "start" []).play .silent =
        (echo.start "start" []).play .silent ∧
      ∃ st, (((echo.withDepth 256).start "start" []).play .silent).result = .ok st ∧
        st.CutFree ∧ st.executed = ["start", "say"] ∧
        st.warnings = [.dataCycleSkipped "join" "a", .cycleSkipped "say" "in"] ∧
        (((echo.withDepth 256).start "start" []).play .silent).calls.map
            (fun timed => (timed.call.node, timed.call.inputs)) =
          [("say", [("text", .string "")])] := by
  have hdepth : echo.graph.fullDepth = 2 := by rfl
  obtain ⟨hfree, hsame⟩ :=
    (run_depth_inert echo "start" [] (Nat.le_of_eq hdepth)).2 .silent
  have hdeep := hsame 256 (by rw [hdepth]; decide)
  refine ⟨hdepth, hdeep, ?_⟩
  rw [hdeep]
  exact ⟨_, rfl, hfree _ rfl, rfl, rfl, rfl⟩

end Setup

end PinFlow
