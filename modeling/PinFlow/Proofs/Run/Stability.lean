import PinFlow.Proofs.Run.Logic

set_option autoImplicit false

/-!
# Readings are stable

Within a generation a pin that was read without being cut off reads the same again, whatever else
happens meanwhile; pins that one computing node feeds read the same; and no node draws twice. What
is memoized for the run stays to its end. This holds on every graph, with cycles and random draws,
since no memo is ever replaced while it is valid.
-/

namespace PinFlow

structure MemosKept (st st' : RunState) : Prop where
  pins : ∀ key r, st.memoizedPin? key = some r → st'.memoizedPin? key = some r
  results : ∀ node r, st.memoizedPure? node = some r → st'.memoizedPure? node = some r

theorem MemosKept.of_frame {st st' : RunState} (h : ReadFrame st st') : MemosKept st st' :=
  ⟨h.pins, h.results⟩

namespace Setup

variable {s : Setup}

theorem take_memosKept (st : RunState) {step : Step} (hstore : step.isStore = false) :
    MemosKept st (s.take st step) := by
  cases step with
  | read node handle => exact .of_frame (take_advance st rfl).frame
  | evaluate node kind => exact .of_frame (take_advance st rfl).frame
  | store node outputs => cases hstore
  | warn w => exact ⟨fun _ _ h => h, fun _ _ h => h⟩
  | mark node => exact ⟨fun _ _ h => h, fun _ _ h => h⟩
  | enter key => exact ⟨fun _ _ h => h, fun _ _ h => h⟩
  | leave key => exact ⟨fun _ _ h => h, fun _ _ h => h⟩

theorem take_pinMemo {st : RunState} (step : Step) {key : PinKey} {v : Option Value}
    (h : st.pinMemo.get? key = some v) : (s.take st step).pinMemo.get? key = some v := by
  cases hstore : step.isStore with
  | false =>
    refine (Memo.lookup_eq_run_iff v).1 ((take_memosKept st hstore).pins _ _ ?_)
    exact (Memo.lookup_eq_run_iff v).2 h
  | true =>
    cases step with
    | store node outputs => exact h
    | _ => cases hstore

variable (s)

def Uncut : RunState → List Step → Prop
  | _, [] => True
  | st, step :: rest =>
    (step.isReading = true → (s.take st step).cuts = st.cuts) ∧ Uncut (s.take st step) rest

variable {s}

theorem take_drawsOnce {st : RunState} {step : Step}
    (huncut : step.isReading = true → (s.take st step).cuts = st.cuts) :
    DrawsOnce st (s.take st step) := by
  cases hreading : step.isReading with
  | true => exact (take_advance st hreading).draws (huncut hreading)
  | false =>
    cases step with
    | read node handle => cases hreading
    | evaluate node kind => cases hreading
    | _ => exact .of_draws rfl

theorem takeAll_memosKept (st : RunState) {steps : List Step}
    (hstore : ∀ step ∈ steps, step.isStore = false) : MemosKept st (s.takeAll st steps) := by
  induction steps generalizing st with
  | nil => exact ⟨fun _ _ h => h, fun _ _ h => h⟩
  | cons step rest ih =>
    have hstep : MemosKept st (s.take st step) := take_memosKept st (hstore step List.mem_cons_self)
    have hrest := ih (s.take st step) fun step h => hstore step (List.mem_cons_of_mem _ h)
    exact ⟨fun _ _ h => hrest.pins _ _ (hstep.pins _ _ h),
      fun _ _ h => hrest.results _ _ (hstep.results _ _ h)⟩

theorem takeAll_pinMemo {st : RunState} (steps : List Step) {key : PinKey} {v : Option Value}
    (h : st.pinMemo.get? key = some v) : (s.takeAll st steps).pinMemo.get? key = some v := by
  induction steps generalizing st with
  | nil => exact h
  | cons step rest ih => exact ih (take_pinMemo step h)

theorem takeAll_drawsOnce {st : RunState} {steps : List Step}
    (hstore : ∀ step ∈ steps, step.isStore = false) (huncut : s.Uncut st steps) :
    DrawsOnce st (s.takeAll st steps) := by
  induction steps generalizing st with
  | nil => exact .of_draws rfl
  | cons step rest ih =>
    have hrest : ∀ step ∈ rest, step.isStore = false :=
      fun step hstep => hstore step (List.mem_cons_of_mem _ hstep)
    exact (take_drawsOnce huncut.1).trans
      (take_memosKept st (hstore step List.mem_cons_self)).results
      (takeAll_memosKept (s.take st step) hrest).results (ih hrest huncut.2)

theorem readPinAt_zero (node : Node) (handle : Handle) (st : RunState) :
    s.readPinAt 0 node handle st =
      s.readPinWith (some (s.readPinFrom s.limits.maxDepth 1)) 0 node handle st := rfl

theorem readPinAt_of_memoizedPin? {node : Node} {handle : Handle} {st : RunState} {r : Reading}
    (h : st.memoizedPin? (node.id, handle) = some r) :
    s.readPinAt 0 node handle st = (r, st) := by
  rw [readPinAt_zero]
  exact s.readPinWith_memoized _ 0 h

theorem readPinAt_of_memoizedPure? {node : Node} {handle : Handle} {st : RunState}
    {source : Node} {kind : PureKind} {r : Reading}
    (horigin : s.graph.origin (node.id, handle) = .computed source kind)
    (hresolving : st.resolving = []) (hnone : st.memoizedPin? (node.id, handle) = none)
    (h : st.memoizedPure? source.id = some r) :
    (s.readPinAt 0 node handle st).1 = r := by
  have hkey : (node.id, handle) ∉ st.resolving := by
    rw [hresolving]
    exact List.not_mem_nil
  have hbegun : (st.beginReading (node.id, handle)).memoizedPure? source.id = some r := h
  rw [readPinAt_zero, s.readPinWith_fresh _ 0 hnone hkey, readFresh_eq]
  simp only [horigin, evaluatePure, hbegun]

theorem memoized_of_uncut {node : Node} {handle : Handle} {st : RunState}
    (hresolving : st.resolving = []) (huncut : (s.readPin node handle st).2.cuts = st.cuts) :
    (s.readPin node handle st).2.memoizedPin? (node.id, handle) =
      some (s.readPinAt 0 node handle st).1 := by
  have hcontract := readPinAt_contract (s := s) node handle st
  refine hcontract.memo ?_ fun h => ?_
  · rw [hresolving]
    exact List.not_mem_nil
  · have hlt := hcontract.cut h
    change (s.readPinAt 0 node handle st).2.cuts = st.cuts at huncut
    omega

theorem reread_eq {node : Node} {handle : Handle} {st : RunState} (hresolving : st.resolving = [])
    (huncut : (s.readPin node handle st).2.cuts = st.cuts) {steps : List Step}
    (hstore : ∀ step ∈ steps, step.isStore = false) :
    (s.readPin node handle (s.takeAll (s.readPin node handle st).2 steps)).1 =
      (s.readPin node handle st).1 := by
  have hmemo := memoized_of_uncut hresolving huncut
  have hlater := (takeAll_memosKept (s := s) _ hstore).pins _ _ hmemo
  exact congrArg (fun result => result.1.value) (readPinAt_of_memoizedPin? (s := s) hlater)

theorem readPin_of_same_source {node node' : Node} {handle handle' : Handle} {source : Node}
    {kind kind' : PureKind} {st : RunState} (hst : Sane s.graph st)
    (hnode : s.graph.node? node.id = some node)
    (horigin : s.graph.origin (node.id, handle) = .computed source kind)
    (horigin' : s.graph.origin (node'.id, handle') = .computed source kind')
    (huncut : (s.readPin node handle st).2.cuts = st.cuts) {steps : List Step}
    (hfits : ∀ step ∈ steps, step.Fits s.graph) (hstore : ∀ step ∈ steps, step.isStore = false) :
    (s.readPin node' handle' (s.takeAll (s.readPin node handle st).2 steps)).1 =
      (s.readPin node handle st).1 := by
  have hread : Sane s.graph (s.readPin node handle st).2 :=
    take_sane hst (.read node handle) hnode
  have hresult := (takeAll_memosKept (s := s) _ hstore).results _ _
    (hread.coherent _ source kind _ horigin (memoized_of_uncut hst.resolving huncut))
  have hlater := takeAll_sane hread steps hfits
  generalize s.takeAll (s.readPin node handle st).2 steps = st' at hresult hlater
  change (s.readPinAt 0 node' handle' st').1.value = (s.readPinAt 0 node handle st).1.value
  congr 1
  cases hfound : st'.memoizedPin? (node'.id, handle') with
  | some r =>
    have hsame := hlater.coherent _ source kind' r horigin' hfound
    rw [hresult] at hsame
    rw [readPinAt_of_memoizedPin? hfound]
    exact (Option.some.inj hsame).symm
  | none => exact readPinAt_of_memoizedPure? horigin' hlater.resolving hfound hresult

theorem kept_leads (s : Setup) : Kept s (fun _ => True) s.Leads :=
  .of_steps Leads.refl (fun _ _ _ h h' => h.trans h')
    fun _ step hfits _ _ => ⟨.single step hfits, trivial⟩

theorem followEdge_none_leads (depth : Nat) (edge : Edge) :
    Path.Has (fun _ => True) (Activity.Keeps (fun _ => True) s.Leads)
      (s.followEdge none depth edge) := by
  intro st _
  unfold followEdge
  dsimp only
  split
  · exact ⟨.single (.warn _) trivial, trivial⟩
  · exact ⟨.single (.warn _) trivial, trivial⟩

theorem fireFrom_leads (room depth : Nat) (id : NodeId) (handle : Handle) :
    Path.Has (fun _ => True) (Activity.Keeps (fun _ => True) s.Leads)
      (s.fireFrom room depth id handle) := by
  induction room generalizing depth id handle with
  | zero => exact (kept_leads s).rules.fireWith fun edge _ => followEdge_none_leads depth edge
  | succ room ih =>
    refine (kept_leads s).rules.fireWith fun edge _ => ?_
    refine (kept_leads s).followEdge (kept_leads s) (ih (depth + 1)) ?_ ?_
    · exact fun st _ _ => ⟨.single (.enter _) trivial, trivial⟩
    · exact fun st _ => ⟨.single (.leave _) trivial, trivial⟩

/-- A run is a sequence of steps, and the states that it shows lie on it in order. -/
theorem start_leads (s : Setup) (entry : NodeId) (trigger : Trigger) :
    (s.start entry trigger).Traced s.Leads
      (fun last result => ∀ st, result = .ok st → s.Leads last st) (RunState.fresh trigger) :=
  ((kept_leads s).run (fireFrom_leads _ 0) entry trivial).mono (fun _ _ h => h)
    fun _ _ h st hst => (h st hst).1

structure Stable (s : Setup) (st : RunState) : Prop where
  /-- A pin reads the same until outputs are stored. -/
  reread : ∀ node handle, s.graph.node? node.id = some node →
    (s.readPin node handle st).2.cuts = st.cuts →
    ∀ steps, (∀ step ∈ steps, step.Fits s.graph) → (∀ step ∈ steps, step.isStore = false) →
      (s.readPin node handle (s.takeAll (s.readPin node handle st).2 steps)).1 =
        (s.readPin node handle st).1
  /-- So does every other pin that the same computing node feeds. -/
  fed : ∀ node handle node' handle' source kind kind', s.graph.node? node.id = some node →
    s.graph.origin (node.id, handle) = .computed source kind →
    s.graph.origin (node'.id, handle') = .computed source kind' →
    (s.readPin node handle st).2.cuts = st.cuts →
    ∀ steps, (∀ step ∈ steps, step.Fits s.graph) → (∀ step ∈ steps, step.isStore = false) →
      (s.readPin node' handle' (s.takeAll (s.readPin node handle st).2 steps)).1 =
        (s.readPin node handle st).1
  /-- Until outputs are stored, no node draws twice. -/
  draws : ∀ steps, (∀ step ∈ steps, step.Fits s.graph) → (∀ step ∈ steps, step.isStore = false) →
    s.Uncut st steps → ∀ node, (s.takeAll st steps).draws.count node ≤ st.draws.count node + 1
  /-- What is memoized for the run stays. -/
  memo : ∀ steps, (∀ step ∈ steps, step.Fits s.graph) → ∀ key v,
    st.pinMemo.get? key = some v → (s.takeAll st steps).pinMemo.get? key = some v

theorem Reached.stable {st : RunState} (hst : s.Reached st) : s.Stable st := by
  constructor
  · intro node handle _ huncut steps _ hstore
    exact reread_eq hst.sane.resolving huncut hstore
  · intro node handle node' handle' source kind kind' hnode horigin horigin' huncut steps hfits
      hstore
    exact readPin_of_same_source hst.sane hnode horigin horigin' huncut hfits hstore
  · intro steps _ hstore huncut node
    rcases takeAll_drawsOnce hstore huncut node with h | ⟨-, -, h⟩
    · omega
    · omega
  · intro steps _ key v h
    exact takeAll_pinMemo steps h

/-- Every run moves by steps, and in each state that it shows, as in every other that steps lead to,
    readings are stable. -/
theorem run_readings_stable (s : Setup) (entry : NodeId) (trigger : Trigger) :
    (s.start entry trigger).Traced (fun st st' => s.Leads st st' ∧ s.Stable st')
        (fun last result => ∀ st, result = .ok st → s.Leads last st ∧ s.Stable st)
        (RunState.fresh trigger) ∧
      ∀ st, s.Reached st → s.Stable st := by
  have hfresh : s.Reached (RunState.fresh trigger) := ⟨trigger, .refl _⟩
  have hreached : ∀ st st', s.Reached st → s.Leads st st' → s.Reached st' :=
    fun _ _ hst hleads => hst.imp fun _ h => h.trans hleads
  refine ⟨?_, fun st hst => hst.stable⟩
  refine ((start_leads s entry trigger).always hreached hfresh).mono ?_ ?_
  · exact fun st st' h => ⟨h.1, h.2.stable⟩
  · intro last result h st hst
    have hleads := h.2 st hst
    exact ⟨hleads, (hreached last st h.1 hleads).stable⟩

def shoutNode : Node := { Graph.sayNode with id := "shout" }

/-- Two readers of a node that is fed by a draw and by its own result. No draw is like the one
    before. -/
def lots : Setup where
  graph := .ofParts
    [{ Node.bare "start" "event-ready" with execOutputs := [.exec "out"] },
      { Node.bare "roll" "pure-random-int" with
        dataInputs := [.required "min" .number, .required "max" .number]
        dataOutputs := [.required "result" .number]
        config := [("min", .int 1), ("max", .int 6)] },
      Graph.joinNode, Graph.sayNode, shoutNode]
    [⟨none, "start", "out", "say", "in", .data⟩, ⟨none, "start", "out", "shout", "in", .data⟩,
      ⟨none, "roll", "result", "join", "a", .data⟩,
      ⟨none, "join", "result", "join", "b", .data⟩,
      ⟨none, "join", "result", "say", "text", .data⟩,
      ⟨none, "join", "result", "shout", "text", .data⟩]
  limits := ⟨3, .zero⟩
  dice n := n + 3

def lotsState : RunState :=
  lots.takeAll (RunState.fresh []) [.mark "start", .enter ("say", "in"), .mark "say"]

def lotsRead : RunState := lots.take lotsState (.read Graph.sayNode "text")

theorem lotsState_reached : lots.Reached lotsState := by
  refine ⟨[], _, ?_, rfl⟩
  simp only [List.mem_cons, List.not_mem_nil, or_false]
  rintro step (rfl | rfl | rfl) <;> trivial

theorem lotsRead_reached : lots.Reached lotsRead :=
  lotsState_reached.imp fun _ h => h.trans (.single (.read Graph.sayNode "text") rfl)

theorem lots_fits :
    ∀ step ∈ [Step.read Graph.sayNode "text", .mark "shout", .read shoutNode "text"],
      step.Fits lots.graph ∧ step.isStore = false := by
  simp only [List.mem_cons, List.not_mem_nil, or_false]
  rintro step (rfl | rfl | rfl)
  · exact ⟨rfl, rfl⟩
  · exact ⟨trivial, rfl⟩
  · exact ⟨rfl, rfl⟩

/-- The text is read across a data cycle and with a draw. It is the same when it is read again, and
    so is that of the other reader; there is no second draw, and even outputs that are stored leave
    what is memoized. -/
theorem run_readings_stable_lots :
    lots.Reached lotsState ∧ lots.Reached lotsRead ∧
      lotsRead.warnings = [.dataCycleSkipped "join" "b"] ∧ lotsRead.draws = ["roll"] ∧
      Value.toText (lots.readPin Graph.sayNode "text" lotsState).1 = "4" ∧
      (lots.readPin Graph.sayNode "text"
          (lots.takeAll lotsRead [.mark "shout", .read shoutNode "text"])).1 =
        (lots.readPin Graph.sayNode "text" lotsState).1 ∧
      (lots.readPin shoutNode "text"
          (lots.takeAll lotsRead [.mark "shout", .read shoutNode "text"])).1 =
        (lots.readPin Graph.sayNode "text" lotsState).1 ∧
      (lots.takeAll lotsState
        [.read Graph.sayNode "text", .mark "shout", .read shoutNode "text"]).draws.count "roll"
          ≤ 1 ∧
      lotsRead.pinMemo.get? ("say", "text") =
        some (lots.readPin Graph.sayNode "text" lotsState).1 ∧
      (lots.takeAll lotsRead [.store "say" [("heard", .bool true)]]).pinMemo.get? ("say", "text") =
        some (lots.readPin Graph.sayNode "text" lotsState).1 := by
  have hstable := (run_readings_stable lots "start" []).2 lotsState lotsState_reached
  have hlater := (run_readings_stable lots "start" []).2 lotsRead lotsRead_reached
  have hfits := fun step hstep => (lots_fits step (List.mem_cons_of_mem _ hstep)).1
  have hstore := fun step hstep => (lots_fits step (List.mem_cons_of_mem _ hstep)).2
  have hmemo : lotsRead.pinMemo.get? ("say", "text") =
      some (lots.readPin Graph.sayNode "text" lotsState).1 := by rfl
  refine ⟨lotsState_reached, lotsRead_reached, rfl, rfl, by decide +kernel,
    hstable.reread Graph.sayNode "text" rfl rfl _ hfits hstore,
    hstable.fed Graph.sayNode "text" shoutNode "text" Graph.joinNode _ _ rfl rfl rfl rfl _ hfits
      hstore, ?_, hmemo, ?_⟩
  · refine hstable.draws _ (fun step hstep => (lots_fits step hstep).1)
      (fun step hstep => (lots_fits step hstep).2) ?_ "roll"
    exact ⟨fun _ => rfl, fun _ => rfl, fun _ => rfl, trivial⟩
  · exact hlater.memo [.store "say" [("heard", .bool true)]]
      (List.forall_mem_singleton.2 trivial) _ _ hmemo

end Setup

end PinFlow
