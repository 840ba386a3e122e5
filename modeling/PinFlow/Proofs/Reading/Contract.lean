import PinFlow.Proofs.Reading.Frame

set_option autoImplicit false

/-!
# The contract of the readers

One specification for each layer of reading, proved by following the layers: the inputs of a node,
its result, an input that is read afresh, and an input at any depth. The main statements are
`readPinFrom_contract` and `evaluatePure_contract`.
-/

namespace PinFlow

namespace Lifetime

theorem min_eq_uncached {a b : Lifetime} (h : a.min b = .uncached) :
    a = .uncached ∨ b = .uncached := by
  cases a <;> cases b <;> simp_all [Lifetime.min]

end Lifetime

structure PinContract (g : Graph) (key : PinKey) (st : RunState) (result : Reading × RunState) :
    Prop where
  advance : Advance g st result.2
  cut : result.1.lifetime = .uncached → st.cuts < result.2.cuts
  memo : key ∉ st.resolving → result.1.lifetime ≠ .uncached →
    result.2.memoizedPin? key = some result.1
  unmemoized : result.1.lifetime = .uncached → result.2.memoizedPin? key = none

structure ResultContract (g : Graph) (node : NodeId) (st : RunState)
    (result : Reading × RunState) : Prop where
  advance : Advance g st result.2
  cut : result.1.lifetime = .uncached → st.cuts < result.2.cuts
  memo : result.1.lifetime ≠ .uncached → result.2.memoizedPure? node = some result.1

def PinReader.Sound (g : Graph) (read : PinReader) : Prop :=
  ∀ node handle st, PinContract g (node.id, handle) st (read node handle st)

section Layers

variable {g : Graph} {read : PinReader}

theorem foldl_add_frame (hsound : read.Sound g) (node : Node) (pins : List Pin) (acc : Gathered) :
    ReadFrame acc.state (pins.foldl (Gathered.add read node) acc).state :=
  List.foldlRecOn (motive := fun acc' : Gathered => ReadFrame acc.state acc'.state) _ _ (.refl _)
    fun acc' hacc pin _ => hacc.trans (hsound node pin.id acc'.state).advance.frame

theorem gather_contract (hread : read.Sound g) (node : Node) (st : RunState) :
    Advance g st (gather read node st).state ∧
      ((gather read node st).lifetime = .uncached →
        st.cuts < (gather read node st).state.cuts) := by
  unfold gather
  refine List.foldlRecOn
    (motive := fun acc : Gathered => Advance g st acc.state ∧
      (acc.lifetime = .uncached → st.cuts < acc.state.cuts)) _ _ ?_ ?_
  · exact ⟨.refl g st, by simp⟩
  · rintro acc ⟨hadvance, hcut⟩ pin -
    have hpin := hread node pin.id acc.state
    refine ⟨hadvance.trans hpin.advance, fun huncached => ?_⟩
    have hbefore := hadvance.frame.cuts_le
    have hafter := hpin.advance.frame.cuts_le
    change st.cuts < (read node pin.id acc.state).2.cuts
    rcases Lifetime.min_eq_uncached huncached with h | h
    · exact Nat.lt_of_lt_of_le (hcut h) hafter
    · exact Nat.lt_of_le_of_lt hbefore (hpin.cut h)

end Layers

namespace Setup

variable (s : Setup) {read : PinReader}

/-- The state in which a result is memoized: a warning and a draw may have been recorded. -/
def computing (node : Node) (kind : PureKind) (st : RunState) : RunState :=
  match kind with
  | .unknown name => st.warn (.unknownPureFunction node.id name)
  | .function .randomInt => st.recordDraw node.id
  | _ => st

def computed (kind : PureKind) (acc : Gathered) : Reading :=
  ⟨kind.evaluate acc.inputs (s.dice acc.state.draws.length), acc.lifetime⟩

theorem compute_eq (node : Node) (kind : PureKind) (acc : Gathered) :
    s.compute node kind acc =
      (s.computed kind acc, (computing node kind acc.state).memoizePure node.id
        (s.computed kind acc)) := by
  cases kind with
  | constant kind => rfl
  | unknown name => rfl
  | function f => cases f <;> rfl

theorem computing_frame (node : Node) (kind : PureKind) (st : RunState) :
    ReadFrame st (computing node kind st) := by
  unfold computing
  split
  · exact .warn st _
  · exact .recordDraw st _
  · exact .refl st

theorem computing_cuts (node : Node) (kind : PureKind) (st : RunState) :
    (computing node kind st).cuts = st.cuts := by
  unfold computing
  split
  · exact st.cuts_warn_of_not_cut rfl
  · rfl
  · rfl

theorem computing_memoizedPure? (node : Node) (kind : PureKind) (st : RunState) (other : NodeId) :
    (computing node kind st).memoizedPure? other = st.memoizedPure? other := by
  unfold computing
  split <;> rfl

theorem computing_memoizedPin? (node : Node) (kind : PureKind) (st : RunState) (key : PinKey) :
    (computing node kind st).memoizedPin? key = st.memoizedPin? key := by
  unfold computing
  split <;> rfl

theorem computing_draws (node : Node) (kind : PureKind) (st : RunState) :
    (computing node kind st).draws = st.draws ∨
      (computing node kind st).draws = node.id :: st.draws := by
  unfold computing
  split
  · exact .inl rfl
  · exact .inr rfl
  · exact .inl rfl

variable {s}

theorem compute_draws {node : Node} {kind : PureKind} {acc : Gathered}
    (hnone : acc.state.memoizedPure? node.id = none) (hlife : acc.lifetime ≠ .uncached) :
    DrawsOnce acc.state (s.compute node kind acc).2 := by
  rw [compute_eq]
  intro other
  have hdraws : ((computing node kind acc.state).memoizePure node.id (s.computed kind acc)).draws =
      (computing node kind acc.state).draws := by
    rw [RunState.memoizePure_eq]
  dsimp only
  rw [hdraws]
  rcases computing_draws node kind acc.state with h | h
  · exact .inl (by rw [h])
  · by_cases hother : other = node.id
    · subst hother
      refine .inr ⟨hnone, ?_, by rw [h, List.count_cons_self]⟩
      have hnone' : (computing node kind acc.state).memoizedPure? node.id = none := by
        rw [computing_memoizedPure?]
        exact hnone
      rw [RunState.memoizedPure?_memoizePure_self hnone' hlife]
      simp
    · refine .inl ?_
      rw [h, List.count_cons_of_ne (Ne.symm hother)]

theorem compute_frame {node : Node} {kind : PureKind} {acc : Gathered}
    (hnone : acc.state.memoizedPure? node.id = none) :
    ReadFrame acc.state (s.compute node kind acc).2 := by
  rw [compute_eq]
  refine (computing_frame node kind acc.state).trans (.memoizePure ?_)
  rw [computing_memoizedPure?]
  exact hnone

theorem compute_memoizedPin? (node : Node) (kind : PureKind) (acc : Gathered) (key : PinKey) :
    (s.compute node kind acc).2.memoizedPin? key = acc.state.memoizedPin? key := by
  rw [compute_eq]
  dsimp only
  rw [RunState.memoizedPin?_memoizePure, computing_memoizedPin?]

theorem evaluatePure_contract {g : Graph} (hread : read.Sound g) (node : Node) (kind : PureKind)
    (st : RunState) : ResultContract g node.id st (s.evaluatePure read node kind st) := by
  unfold evaluatePure
  split
  · rename_i r hfound
    exact ⟨.refl g st, fun h => absurd h (Memo.lookup_lifetime hfound), fun _ => hfound⟩
  · obtain ⟨hadvance, hcut⟩ := gather_contract hread node st
    generalize gather read node st = acc at hadvance hcut
    dsimp only
    split
    -- The second look-up finds a result that a cycle through the node has computed meanwhile.
    · rename_i r hfound
      exact ⟨hadvance, fun h => absurd h (Memo.lookup_lifetime hfound), fun _ => hfound⟩
    · rename_i hnone
      have hframe : ReadFrame acc.state (s.compute node kind acc).2 := compute_frame hnone
      have hlife : (s.compute node kind acc).1.lifetime = acc.lifetime := by
        rw [compute_eq]
        rfl
      refine ⟨⟨hadvance.frame.trans hframe, fun hc => ?_, fun heq => ?_⟩, fun h => ?_, fun h => ?_⟩
      · intro key source other r horigin hr
        rw [compute_memoizedPin?] at hr
        exact hframe.results _ _ (hadvance.coherent hc key source other r horigin hr)
      · have hle := hadvance.frame.cuts_le
        have hle' := hframe.cuts_le
        have hl : acc.lifetime ≠ .uncached := by
          intro h
          have hlt := hcut h
          omega
        exact (hadvance.draws (by omega)).trans hadvance.frame.results hframe.results
          (compute_draws hnone hl)
      · exact Nat.lt_of_lt_of_le (hcut (hlife ▸ h)) hframe.cuts_le
      · have hnone' : (computing node kind acc.state).memoizedPure? node.id = none := by
          rw [computing_memoizedPure?]
          exact hnone
        rw [compute_eq]
        exact RunState.memoizedPure?_memoizePure_self hnone' (hlife ▸ h)

theorem readFresh_contract (hread : read.Sound s.graph) (node : Node) (handle : Handle)
    (st : RunState) :
    Advance s.graph st (s.readFresh read node handle st).2 ∧
      ((s.readFresh read node handle st).1.lifetime = .uncached →
        st.cuts < (s.readFresh read node handle st).2.cuts) ∧
      (s.readFresh read node handle st).2.memoizedPin? (node.id, handle) =
        st.memoizedPin? (node.id, handle) ∧
      ∀ source kind, s.graph.origin (node.id, handle) = .computed source kind →
        (s.readFresh read node handle st).1.lifetime ≠ .uncached →
        (s.readFresh read node handle st).2.memoizedPure? source.id =
          some (s.readFresh read node handle st).1 := by
  rw [readFresh_eq]
  cases s.graph.origin (node.id, handle) with
  | literal => exact ⟨.refl _ st, by simp, rfl, by simp⟩
  | absent => exact ⟨.refl _ st, by simp, rfl, by simp⟩
  | unknown source => exact ⟨.warn _ st _, by simp, rfl, by simp⟩
  | constant source kind out => exact ⟨.refl _ st, by simp, rfl, by simp⟩
  | event out => exact ⟨.refl _ st, by simp, rfl, by simp⟩
  | output source out => exact ⟨.refl _ st, by simp, rfl, by simp⟩
  | computed source kind =>
    have hresult := evaluatePure_contract (s := s) hread source kind
      (st.beginReading (node.id, handle))
    refine ⟨hresult.advance.within, hresult.cut, ?_, ?_⟩
    · exact hresult.advance.frame.inProgress (node.id, handle) List.mem_cons_self
    · rintro _ _ ⟨⟩ hlife
      exact hresult.memo hlife

theorem readPinWith_found_contract {node : Node} {handle : Handle} {st : RunState}
    (hstop : st.memoizedPin? (node.id, handle) ≠ none ∨ (node.id, handle) ∈ st.resolving)
    (deeper : Option PinReader) (depth : Nat) :
    PinContract s.graph (node.id, handle) st (s.readPinWith deeper depth node handle st) := by
  cases hfound : st.memoizedPin? (node.id, handle) with
  | some r =>
    rw [s.readPinWith_memoized deeper depth hfound]
    have hlife := Memo.lookup_lifetime hfound
    exact ⟨.refl _ st, fun h => absurd h hlife, fun _ _ => hfound, fun h => absurd h hlife⟩
  | none =>
    have hreading := hstop.resolve_left (fun h => h hfound)
    rw [s.readPinWith_reading deeper depth hfound hreading]
    exact ⟨.warn _ st _, by simp, fun h => absurd hreading h, by simp⟩

theorem readPinWith_none_sound (depth : Nat) :
    PinReader.Sound s.graph (s.readPinWith none depth) := by
  intro node handle st
  by_cases hstop : st.memoizedPin? (node.id, handle) ≠ none ∨ (node.id, handle) ∈ st.resolving
  · exact readPinWith_found_contract hstop none depth
  · rw [not_or, not_not] at hstop
    rw [s.readPinWith_cut depth hstop.1 hstop.2]
    refine ⟨.warn _ st _, fun _ => ?_, by simp, fun _ => hstop.1⟩
    dsimp only
    rw [RunState.cuts_warn_cut]
    exact Nat.lt_succ_self _

theorem readPinWith_some_sound (hread : read.Sound s.graph) (depth : Nat) :
    PinReader.Sound s.graph (s.readPinWith (some read) depth) := by
  intro node handle st
  by_cases hstop : st.memoizedPin? (node.id, handle) ≠ none ∨ (node.id, handle) ∈ st.resolving
  · exact readPinWith_found_contract hstop (some read) depth
  · rw [not_or, not_not] at hstop
    obtain ⟨hnone, hkey⟩ := hstop
    rw [s.readPinWith_fresh read depth hnone hkey]
    obtain ⟨hadvance, hcut, hmemo, hresult⟩ := readFresh_contract hread node handle st
    generalize s.readFresh read node handle st = fresh at hadvance hcut hmemo hresult
    rw [hnone] at hmemo
    rw [← hadvance.frame.resolving] at hkey
    have hstore : Advance s.graph fresh.2 (fresh.2.memoizePin (node.id, handle) fresh.1) :=
      .memoizePin hmemo hkey hresult
    refine ⟨hadvance.trans hstore, fun h => ?_, fun _ h => ?_, fun h => ?_⟩
    · exact Nat.lt_of_lt_of_le (hcut h) hstore.frame.cuts_le
    · exact RunState.memoizedPin?_memoizePin_self hmemo h
    · dsimp only
      rw [RunState.memoizePin_uncached h]
      exact hmemo

theorem readPinFrom_contract (room depth : Nat) :
    PinReader.Sound s.graph (s.readPinFrom room depth) := by
  induction room generalizing depth with
  | zero => exact readPinWith_none_sound depth
  | succ room ih => exact readPinWith_some_sound (ih (depth + 1)) depth

/-- A property of readings is proved for each of the four ways in which one can go, where a pin that
    is read afresh may rely on the readings behind it. -/
theorem readPinFrom_rule {motive : PinKey → RunState → Reading × RunState → Prop}
    (hmemo : ∀ key st r, st.memoizedPin? key = some r → motive key st (r, st))
    (hcycle : ∀ key st, key ∈ st.resolving →
      motive key st (⟨none, .run⟩, st.warn (.dataCycleSkipped key.1 key.2)))
    (hcut : ∀ key st depth,
      motive key st (⟨none, .uncached⟩, st.warn (.depthLimitReached key.1 depth)))
    (hfresh : ∀ read : PinReader, read.Sound s.graph →
      (∀ node handle st, motive (node.id, handle) st (read node handle st)) →
      ∀ node handle st, st.memoizedPin? (node.id, handle) = none →
        (node.id, handle) ∉ st.resolving →
        motive (node.id, handle) st
          ((s.readFresh read node handle st).1,
            (s.readFresh read node handle st).2.memoizePin (node.id, handle)
              (s.readFresh read node handle st).1))
    (room depth : Nat) (node : Node) (handle : Handle) (st : RunState) :
    motive (node.id, handle) st (s.readPinFrom room depth node handle st) := by
  have hfound : ∀ deeper depth node handle st,
      (st.memoizedPin? (node.id, handle) ≠ none ∨ (node.id, handle) ∈ st.resolving) →
      motive (node.id, handle) st (s.readPinWith deeper depth node handle st) := by
    intro deeper depth node handle st hstop
    cases hfound : st.memoizedPin? (node.id, handle) with
    | some r =>
      rw [s.readPinWith_memoized deeper depth hfound]
      exact hmemo _ _ r hfound
    | none =>
      have hreading := hstop.resolve_left (fun h => h hfound)
      rw [s.readPinWith_reading deeper depth hfound hreading]
      exact hcycle _ _ hreading
  induction room generalizing depth node handle st with
  | zero =>
    by_cases hstop : st.memoizedPin? (node.id, handle) ≠ none ∨ (node.id, handle) ∈ st.resolving
    · exact hfound none depth node handle st hstop
    · rw [not_or, not_not] at hstop
      rw [readPinFrom, s.readPinWith_cut depth hstop.1 hstop.2]
      exact hcut _ _ depth
  | succ room ih =>
    by_cases hstop : st.memoizedPin? (node.id, handle) ≠ none ∨ (node.id, handle) ∈ st.resolving
    · exact hfound _ depth node handle st hstop
    · rw [not_or, not_not] at hstop
      rw [readPinFrom, s.readPinWith_fresh _ depth hstop.1 hstop.2]
      exact hfresh _ (readPinFrom_contract room (depth + 1)) (ih (depth + 1)) node handle st
        hstop.1 hstop.2

end Setup

end PinFlow
