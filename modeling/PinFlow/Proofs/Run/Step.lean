import PinFlow.Proofs.Reading.Faithful

set_option autoImplicit false

/-!
# Steps of a run

Everything that happens to the state of a run is a sequence of steps: a pin is read, a pure node is
evaluated ahead of its readers, outputs are stored, or a record is kept of where control is. What a
step keeps is proved for each kind of step, and for sequences by induction.
-/

namespace PinFlow

inductive Step where
  | read (node : Node) (handle : Handle)
  | evaluate (node : Node) (kind : PureKind)
  | store (node : NodeId) (outputs : Fields Value)
  | warn (w : Warning)
  | mark (node : NodeId)
  | enter (key : PinKey)
  | leave (key : PinKey)

namespace Step

def Fits (g : Graph) : Step → Prop
  | .read node _ => g.node? node.id = some node
  | .evaluate node kind => g.Computes node kind
  | _ => True

def isStore : Step → Bool
  | .store _ _ => true
  | _ => false

def isReading : Step → Bool
  | .read _ _ => true
  | .evaluate _ _ => true
  | _ => false

end Step

namespace RunState

theorem memoizedPin?_setOutputs {st : RunState} (ht : st.Tagged) (node : NodeId)
    (outputs : Fields Value) (key : PinKey) (r : Reading) :
    (st.setOutputs node outputs).memoizedPin? key = some r ↔
      st.memoizedPin? key = some r ∧ r.lifetime = .run :=
  Memo.lookup_succ (ht.pins key)

theorem memoizedPure?_setOutputs {st : RunState} (ht : st.Tagged) (node : NodeId)
    (outputs : Fields Value) (id : NodeId) (r : Reading) :
    (st.setOutputs node outputs).memoizedPure? id = some r ↔
      st.memoizedPure? id = some r ∧ r.lifetime = .run :=
  Memo.lookup_succ (ht.results id)

theorem Tagged.setOutputs {st : RunState} (ht : st.Tagged) (node : NodeId)
    (outputs : Fields Value) : (st.setOutputs node outputs).Tagged :=
  ⟨fun key tag v h => Nat.le_succ_of_le (ht.pins key tag v h),
    fun id tag v h => Nat.le_succ_of_le (ht.results id tag v h)⟩

end RunState

theorem Coherent.setOutputs {g : Graph} {st : RunState} (h : Coherent g st) (ht : st.Tagged)
    (node : NodeId) (outputs : Fields Value) : Coherent g (st.setOutputs node outputs) := by
  intro key source kind r horigin hr
  obtain ⟨hbefore, hrun⟩ := (RunState.memoizedPin?_setOutputs ht node outputs key r).1 hr
  exact (RunState.memoizedPure?_setOutputs ht node outputs source.id r).2
    ⟨h key source kind r horigin hbefore, hrun⟩

theorem Faithful.setOutputs {g : Graph} {st : RunState} (h : Faithful g st) (ht : st.Tagged)
    (node : NodeId) (outputs : Fields Value) : Faithful g (st.setOutputs node outputs) := by
  constructor
  -- What is left is memoized for the run and agrees with the reference at any outputs.
  · intro key r hr hdetermined
    obtain ⟨hbefore, hrun⟩ := (RunState.memoizedPin?_setOutputs ht node outputs key r).1 hr
    have hlasts := h.pins key r hbefore hdetermined
    rw [hrun] at hlasts ⊢
    exact hlasts
  · intro source kind r hcomputes hr hdetermined
    obtain ⟨hbefore, hrun⟩ := (RunState.memoizedPure?_setOutputs ht node outputs source.id r).1 hr
    have hlasts := h.results source kind r hcomputes hbefore hdetermined
    rw [hrun] at hlasts ⊢
    exact hlasts

/-- What holds of the state between any two steps. -/
structure Sane (g : Graph) (st : RunState) : Prop where
  resolving : st.resolving = []
  tagged : st.Tagged
  coherent : Coherent g st
  faithful : Faithful g st

namespace Sane

variable {g : Graph} {st : RunState}

theorem fresh (g : Graph) (trigger : Trigger) : Sane g (RunState.fresh trigger) where
  resolving := rfl
  tagged :=
    { pins := fun _ _ _ h => nomatch h
      results := fun _ _ _ h => nomatch h }
  coherent _ _ _ _ _ h := nomatch h
  faithful :=
    { pins := fun _ _ h => nomatch h
      results := fun _ _ _ _ h => nomatch h }

theorem awaited (h : Sane g st) (key : PinKey) : Awaited g st key := .of_idle h.resolving key

theorem advance {st' : RunState} (h : Sane g st) (hadvance : Advance g st st')
    (hfaithful : Faithful g st') : Sane g st' where
  resolving := hadvance.frame.resolving.trans h.resolving
  tagged := hadvance.frame.tags h.tagged
  coherent := hadvance.coherent h.coherent
  faithful := hfaithful

theorem setOutputs (h : Sane g st) (node : NodeId) (outputs : Fields Value) :
    Sane g (st.setOutputs node outputs) where
  resolving := h.resolving
  tagged := h.tagged.setOutputs node outputs
  coherent := h.coherent.setOutputs h.tagged node outputs
  faithful := h.faithful.setOutputs h.tagged node outputs

theorem records (h : Sane g st) (active : List PinKey) (executed : List NodeId)
    (warnings : List Warning) :
    Sane g { st with active := active, executed := executed, warnings := warnings } where
  resolving := h.resolving
  tagged := ⟨h.tagged.pins, h.tagged.results⟩
  coherent := h.coherent
  faithful := ⟨h.faithful.pins, h.faithful.results⟩

end Sane

namespace Setup

variable (s : Setup)

def take (st : RunState) : Step → RunState
  | .read node handle => (s.readPin node handle st).2
  | .evaluate node kind => (s.evaluateEagerly node kind st).2
  | .store node outputs => st.setOutputs node outputs
  | .warn w => st.warn w
  | .mark node => st.markExecuted node
  | .enter key => st.beginVisit key
  | .leave key => st.endVisit key

def takeAll (st : RunState) (steps : List Step) : RunState := steps.foldl s.take st

def Leads (st st' : RunState) : Prop :=
  ∃ steps, (∀ step ∈ steps, Step.Fits s.graph step) ∧ s.takeAll st steps = st'

/-- The states that a run can come to. -/
def Reached (st : RunState) : Prop := ∃ trigger, s.Leads (RunState.fresh trigger) st

variable {s}

theorem Leads.refl (st : RunState) : s.Leads st st := ⟨[], by simp, rfl⟩

theorem Leads.single {st : RunState} (step : Step) (h : step.Fits s.graph) :
    s.Leads st (s.take st step) :=
  ⟨[step], by simpa using h, rfl⟩

theorem Leads.trans {st st' st'' : RunState} (h : s.Leads st st') (h' : s.Leads st' st'') :
    s.Leads st st'' := by
  obtain ⟨steps, hfits, rfl⟩ := h
  obtain ⟨steps', hfits', rfl⟩ := h'
  refine ⟨steps ++ steps', ?_, List.foldl_append⟩
  intro step hstep
  rcases List.mem_append.1 hstep with hstep | hstep
  · exact hfits step hstep
  · exact hfits' step hstep

theorem readPinAt_contract (node : Node) (handle : Handle) (st : RunState) :
    PinContract s.graph (node.id, handle) st (s.readPinAt 0 node handle st) :=
  readPinFrom_contract _ _ node handle st

theorem evaluateEagerly_contract (node : Node) (kind : PureKind) (st : RunState) :
    ResultContract s.graph node.id st (s.evaluateEagerly node kind st) :=
  evaluatePure_contract (readPinFrom_contract _ _) node kind st

theorem readPinAt_faithful {node : Node} {st : RunState} (hst : Sane s.graph st)
    (hnode : s.graph.node? node.id = some node) (handle : Handle) :
    FaithfulReading s.graph (node.id, handle) st (s.readPinAt 0 node handle st) :=
  readPinFrom_transparent _ _ node handle st hnode (hst.awaited _) hst.faithful

theorem readPin_of_unfed {st : RunState} (hst : Sane s.graph st) {node : Node}
    (hnode : s.graph.node? node.id = some node) {handle : Handle}
    (hunfed : ∀ source kind, s.graph.origin (node.id, handle) ≠ .computed source kind) :
    (s.readPin node handle st).1 =
      s.graph.reference st.trigger st.output? (node.id, handle) := by
  have hdetermined := Graph.determined_of_unfed hunfed
  change (s.readPinFrom (s.limits.maxDepth + 1) 0 node handle st).1.value = _
  unfold readPinFrom
  cases hfound : st.memoizedPin? (node.id, handle) with
  | some r =>
    rw [s.readPinWith_memoized _ 0 hfound]
    exact ((hst.faithful.pins _ r hfound hdetermined).eq (Memo.lookup_lifetime hfound)).symm
  | none =>
    have hkey : (node.id, handle) ∉ st.resolving := by
      rw [hst.resolving]
      exact List.not_mem_nil
    rw [s.readPinWith_fresh _ 0 hfound hkey, readFresh_eq,
      s.graph.reference_eq _ _ hdetermined.acyclic]
    cases horigin : s.graph.origin (node.id, handle) with
    | literal => simp only [hnode, Option.bind_some]
    | computed source kind => exact absurd horigin (hunfed source kind)
    | absent => rfl
    | unknown source => rfl
    | constant source kind out => rfl
    | event out => rfl
    | output source out => rfl

theorem take_advance (st : RunState) {step : Step} (h : step.isReading = true) :
    Advance s.graph st (s.take st step) := by
  cases step with
  | read node handle => exact (readPinAt_contract node handle st).advance
  | evaluate node kind => exact (evaluateEagerly_contract node kind st).advance
  | store node outputs => cases h
  | warn w => cases h
  | mark node => cases h
  | enter key => cases h
  | leave key => cases h

theorem take_sane {st : RunState} (hst : Sane s.graph st) (step : Step)
    (hfits : step.Fits s.graph) : Sane s.graph (s.take st step) := by
  cases step with
  | read node handle =>
    exact hst.advance (take_advance st rfl) (readPinAt_faithful hst hfits handle).faithful
  | evaluate node kind =>
    refine hst.advance (take_advance st rfl) ?_
    exact (evaluatePure_faithful (readPinFrom_contract _ _) (readPinFrom_transparent _ _) hfits
      (fun _ _ => hst.awaited _) hst.faithful).1
  | store node outputs => exact hst.setOutputs node outputs
  | warn w => exact hst.records st.active st.executed _
  | mark node => exact hst.records st.active _ st.warnings
  | enter key => exact hst.records _ st.executed st.warnings
  | leave key => exact hst.records _ st.executed st.warnings

theorem takeAll_sane {st : RunState} (hst : Sane s.graph st) (steps : List Step)
    (hfits : ∀ step ∈ steps, step.Fits s.graph) : Sane s.graph (s.takeAll st steps) := by
  induction steps generalizing st with
  | nil => exact hst
  | cons step rest ih =>
    exact ih (take_sane hst step (hfits step List.mem_cons_self))
      fun step hstep => hfits step (List.mem_cons_of_mem _ hstep)

theorem Reached.sane {st : RunState} (h : s.Reached st) : Sane s.graph st := by
  obtain ⟨trigger, steps, hfits, rfl⟩ := h
  exact takeAll_sane (.fresh s.graph trigger) steps hfits

def greetingSetup : Setup := ⟨Graph.greeting, ⟨1, .zero⟩, fun _ => 0⟩

/-- The text was read too early, and then a name was given. -/
def greetingState : RunState :=
  greetingSetup.takeAll (RunState.fresh [])
    [.read Graph.sayNode "text", .store "ask" [("name", .string "Ann")]]

theorem greetingState_reached : greetingSetup.Reached greetingState := by
  refine ⟨[], _, ?_, rfl⟩
  simp only [List.mem_cons, List.not_mem_nil, or_false]
  rintro step (rfl | rfl)
  · rfl
  · trivial

end Setup

end PinFlow
