import PinFlow.Proofs.Run.Failure

set_option autoImplicit false

/-!
# Guards are balanced

A reading puts its pin into a guard before it goes deeper, and a traversal the input that it enters;
both take it out when they come back. So every call hands the guards back as it found them, whether
it was cut off, met a cycle, or failed. While a traversal is under way, the guards around it stay
set and nothing is put into them twice. Readings add warnings and memos and change nothing else; in
particular no memo for the run is ever removed or replaced.
-/

namespace PinFlow

/-- What a reading leaves as it was: beside the frame, every entry of the tables for the run. -/
structure Spares (st st' : RunState) : Prop extends ReadFrame st st' where
  pinMemo : ∀ key v, st.pinMemo.get? key = some v → st'.pinMemo.get? key = some v
  pureMemo : ∀ node v, st.pureMemo.get? node = some v → st'.pureMemo.get? node = some v

theorem ReadFrame.spares {st st' : RunState} (h : ReadFrame st st') : Spares st st' :=
  { h with
    pinMemo := fun key v hv =>
      (Memo.lookup_eq_run_iff v).1 (h.pins key _ ((Memo.lookup_eq_run_iff v).2 hv))
    pureMemo := fun node v hv =>
      (Memo.lookup_eq_run_iff v).1 (h.results node _ ((Memo.lookup_eq_run_iff v).2 hv)) }

theorem Setup.readOutput_frame {s : Setup} {read : PinReader} (hread : read.Sound s.graph)
    (source : Node) (handle : Handle) (st : RunState) :
    ReadFrame st (s.readOutput read source handle st).2 := by
  unfold Setup.readOutput
  split
  · exact .warn st _
  · exact .refl st
  · exact (Setup.evaluatePure_contract hread source _ st).advance.frame
  · exact .refl st
  · exact .refl st
  · exact .refl st

namespace RunState

structure SameGuards (st st' : RunState) : Prop where
  active : st'.active = st.active
  resolving : st'.resolving = st.resolving

/-- The second state may be met within a call that began in the first: the traversals of then are
    still in progress, those that were begun since stand before them, and none is in progress twice
    unless one was then; the readings in progress are those of then. -/
structure Encloses (outer st : RunState) : Prop where
  active : outer.active <:+ st.active
  distinct : outer.active.Nodup → st.active.Nodup
  resolving : st.resolving = outer.resolving

variable {st st' st'' : RunState} {key : PinKey}

namespace SameGuards

theorem refl (st : RunState) : SameGuards st st := ⟨rfl, rfl⟩

theorem trans (h : SameGuards st st') (h' : SameGuards st' st'') : SameGuards st st'' :=
  ⟨h'.active.trans h.active, h'.resolving.trans h.resolving⟩

theorem of_frame (h : ReadFrame st st') : SameGuards st st' := ⟨h.active, h.resolving⟩

theorem endVisit (h : SameGuards (st.beginVisit key) st') : SameGuards st (st'.endVisit key) where
  active := by
    change st'.active.erase key = st.active
    rw [h.active]
    exact List.erase_cons_head key st.active
  resolving := h.resolving

end SameGuards

namespace Encloses

theorem refl (st : RunState) : Encloses st st := ⟨List.suffix_rfl, fun h => h, rfl⟩

theorem of_same (h : SameGuards st st') (h' : Encloses st' st'') : Encloses st st'' := by
  obtain ⟨hactive, hdistinct, hresolving⟩ := h'
  rw [h.active] at hactive hdistinct
  exact ⟨hactive, hdistinct, hresolving.trans h.resolving⟩

theorem of_visit (hkey : key ∉ st.active) (h : Encloses (st.beginVisit key) st') :
    Encloses st st' where
  active := (List.suffix_cons key st.active).trans h.active
  distinct hst := h.distinct (List.nodup_cons.2 ⟨hkey, hst⟩)
  resolving := h.resolving

end Encloses

end RunState

open RunState

theorem Moves.sameGuards {s : Setup} {st st' : RunState} (h : Moves s st st') :
    SameGuards st st' := by
  cases h with
  | act _ hact => exact .of_frame hact.frame
  | store node outputs => exact ⟨rfl, rfl⟩
  | mark node => exact ⟨rfl, rfl⟩
  | pass _ _ => exact ⟨rfl, rfl⟩
  | idle _ _ _ => exact ⟨rfl, rfl⟩
  | skip _ => exact ⟨rfl, rfl⟩

/-- Whatever the replies are, the states that are shown lie inside a call that began in the given
    state, and the call ends with the guards of that state, failed or not. -/
def Activity.Balanced (st : RunState) (a : Activity Progress) : Prop :=
  ∀ last, a.Traced (fun _ shown => Encloses st shown) (fun _ p => SameGuards st p.state) last

namespace Activity.Balanced

variable {st st' : RunState} {a : Activity Progress} {key : PinKey}

theorem done {p : Progress} (h : SameGuards st p.state) : Balanced st (.done p) := fun _ => h

theorem of_same (h : SameGuards st st') (ha : a.Balanced st') : a.Balanced st :=
  fun last => (ha last).mono (fun _ _ hshown => hshown.of_same h) fun _ _ hp => h.trans hp

theorem andThen {second : Path} (ha : a.Balanced st)
    (hsecond : ∀ st', (second st').Balanced st') : Balanced st (Path.andThen a second) := by
  intro last
  refine (ha last).bind fun last' p hp => ?_
  cases p with
  | going st' => exact (hsecond st').of_same hp last'
  | failed st' error => exact hp

theorem endVisit (hkey : key ∉ st.active) (ha : a.Balanced (st.beginVisit key)) :
    Balanced st (a.map (Progress.mapState (·.endVisit key))) := by
  intro last
  have hinside := (ha last).mono (fun _ _ hshown => Encloses.of_visit hkey hshown) fun _ _ h => h
  refine hinside.bind fun _ p hp => ?_
  cases p with
  | going st' => exact hp.endVisit
  | failed st' error => exact hp.endVisit

end Activity.Balanced

open Activity (Balanced)

namespace Setup

variable {s : Setup}

theorem rules_balanced (s : Setup) : Rules s (fun _ => True) Balanced where
  stop st _ := .done (.refl st)
  move _ _ hmove _ := ⟨trivial, fun _ ha => ha.of_same hmove.sameGuards⟩
  note st _ _ h := fun _ => ⟨.refl st, h st⟩
  call st _ _ _ _ _ _ herror hok := by
    refine fun _ => ⟨.refl st, fun reply => ?_⟩
    cases reply with
    | ok outputs => exact hok outputs st
    | error cause =>
      rw [herror]
      exact SameGuards.refl st
  wait st _ _ h := fun _ => ⟨.refl st, h st⟩
  andThen _ _ _ hfirst hsecond := hfirst.andThen fun st' => hsecond st' trivial

theorem followEdge_none_balanced (depth : Nat) (edge : Edge) :
    Path.Has (fun _ => True) Balanced (s.followEdge none depth edge) := by
  intro st _
  unfold followEdge
  dsimp only
  split
  · exact .done ⟨rfl, rfl⟩
  · exact .done ⟨rfl, rfl⟩

theorem fireFrom_balanced (room depth : Nat) (id : NodeId) (handle : Handle) :
    Path.Has (fun _ => True) Balanced (s.fireFrom room depth id handle) := by
  induction room generalizing depth id handle with
  | zero => exact (rules_balanced s).fireWith fun edge _ => followEdge_none_balanced depth edge
  | succ room ih =>
    refine (rules_balanced s).fireWith fun edge _ => ?_
    -- Behind the edge, balance is relative to the state in which the guard is set.
    refine (rules_balanced s).followEdge (rules_balanced s) (ih (depth + 1)) fun st _ hkey => ?_
    exact ⟨trivial, fun _ ha => ha.endVisit hkey⟩

/-- From any state and at any depth, reading a pin, evaluating a pure node and looking up an output
    spare all but warnings and new memos, and so also the guard of a pin for which an output is
    looked up. Following the edges that leave an output keeps the guards around it set all the while
    and ends with the guards it began with, whoever answers the calls and however it ends. -/
theorem guards_balanced (s : Setup) (depth : Nat) (st : RunState) :
    (∀ node handle, Spares st (s.readPinAt depth node handle st).2) ∧
    (∀ node kind, Spares st (s.evaluatePure (s.readPinAt depth) node kind st).2) ∧
    (∀ source handle, Spares st (s.readOutput (s.readPinAt depth) source handle st).2) ∧
    ∀ id handle, (s.fireAt depth id handle st).Balanced st ∧
      ∀ (d : Dispatcher) time earlier,
        SameGuards st ((s.fireAt depth id handle st).playFrom d time earlier).result.state := by
  have hread : PinReader.Sound s.graph (s.readPinAt depth) := readPinFrom_contract _ depth
  refine ⟨fun node handle => ?_, fun node kind => ?_, fun source handle => ?_, fun id handle => ?_⟩
  · exact (hread node handle st).advance.frame.spares
  · exact (evaluatePure_contract hread node kind st).advance.frame.spares
  · exact (readOutput_frame hread source handle st).spares
  · have hfire : (s.fireAt depth id handle st).Balanced st :=
      fireFrom_balanced _ depth id handle st trivial
    refine ⟨hfire, fun d time earlier => ?_⟩
    obtain ⟨_, hresult⟩ := (hfire st).result d time earlier
    exact hresult

def midway : RunState :=
  { RunState.fresh [] with active := [("start", "in")], resolving := [("join", "a")] }

/-- A reading meets the pin in progress, and what follows the start fails behind two edges. -/
theorem guards_balanced_midway :
    (mutedSetup.readPinAt 0 Graph.sayNode "text" midway).2.warnings =
        [.dataCycleSkipped "join" "a"] ∧
      (mutedSetup.readPinAt 0 Graph.sayNode "text" midway).2.resolving = [("join", "a")] ∧
      (mutedSetup.evaluatePure (mutedSetup.readPinAt 7) Graph.joinNode (.function .stringJoin)
        midway).2.resolving = [("join", "a")] ∧
      ∃ st error, ((mutedSetup.fireAt 0 "start" "out" midway).play mute).result =
          .failed st error ∧
        st.executed = ["ask", "say"] ∧ st.active = [("start", "in")] ∧
        st.resolving = [("join", "a")] := by
  obtain ⟨hread, -, -, hfire⟩ := guards_balanced mutedSetup 0 midway
  obtain ⟨-, hevaluate, -⟩ := guards_balanced mutedSetup 7 midway
  have hguards := (hfire "start" "out").2 mute 0 []
  refine ⟨by rfl, (hread Graph.sayNode "text").resolving, ?_, _, _, rfl, by rfl, ?_, ?_⟩
  · exact (hevaluate Graph.joinNode (.function .stringJoin)).resolving
  · exact hguards.active
  · exact hguards.resolving

end Setup

end PinFlow
