import PinFlow.Run.Reading

set_option autoImplicit false

/-!
# Laws of the memo tables

Pins and results of pure nodes are memoized alike: a table for the run, a table of entries that are
tagged with a generation, and the generation in force. A look-up that fails can be filled once, and
filling it changes no other look-up.
-/

namespace PinFlow

def Warning.isCut : Warning → Bool
  | .depthLimitReached _ _ => true
  | _ => false

namespace Memo

variable {κ : Type} [DecidableEq κ]

/-- The valid entry of a key in a table for the run and a table for generations. -/
def lookup (run : Table κ (Option Value)) (live : Table κ (Nat × Option Value)) (generation : Nat)
    (key : κ) : Option Reading :=
  match run.get? key with
  | some value => some ⟨value, .run⟩
  | none =>
    (match live.get? key with
      | some (tag, value) => if tag = generation then some value else none
      | none => none).map (⟨·, .generation⟩)

def store (run : Table κ (Option Value)) (live : Table κ (Nat × Option Value)) (generation : Nat)
    (key : κ) (r : Reading) : Table κ (Option Value) × Table κ (Nat × Option Value) :=
  match r.lifetime with
  | .run => (run.insert key r.value, live)
  | .generation => (run, live.insert key (generation, r.value))
  | .uncached => (run, live)

variable {run : Table κ (Option Value)} {live : Table κ (Nat × Option Value)} {generation : Nat}
  {key other : κ} {r : Reading}

theorem lookup_eq_run_iff (v : Option Value) :
    lookup run live generation key = some ⟨v, .run⟩ ↔ run.get? key = some v := by
  unfold lookup
  cases run.get? key with
  | some value => simp
  | none => simp

theorem lookup_eq_generation_iff (v : Option Value) :
    lookup run live generation key = some ⟨v, .generation⟩ ↔
      run.get? key = none ∧ live.get? key = some (generation, v) := by
  unfold lookup
  cases run.get? key with
  | some value => simp
  | none =>
    cases live.get? key with
    | none => simp
    | some entry =>
      obtain ⟨tag, value⟩ := entry
      by_cases htag : tag = generation
      · simp [htag]
      · simp [htag]

theorem lookup_lifetime (h : lookup run live generation key = some r) :
    r.lifetime ≠ .uncached := by
  unfold lookup at h
  split at h
  · cases h
    simp
  · obtain ⟨v, -, rfl⟩ := Option.map_eq_some_iff.1 h
    simp

theorem lookup_store_self (hnone : lookup run live generation key = none)
    (hr : r.lifetime ≠ .uncached) :
    lookup (store run live generation key r).1 (store run live generation key r).2 generation key =
      some r := by
  obtain ⟨value, lifetime⟩ := r
  cases lifetime with
  | uncached => exact absurd rfl hr
  | run => simp [store, lookup]
  | generation =>
    have hrun : run.get? key = none := by
      unfold lookup at hnone
      split at hnone
      · cases hnone
      · assumption
    simp [store, lookup, hrun]

theorem lookup_store_ne (h : other ≠ key) :
    lookup (store run live generation key r).1 (store run live generation key r).2 generation
      other = lookup run live generation other := by
  unfold store
  split
  · simp [lookup, h]
  · simp [lookup, h]
  · rfl

/-- When the generation moves past every tag, what was stored for the run is left. -/
theorem lookup_succ (tags : ∀ tag v, live.get? key = some (tag, v) → tag ≤ generation) :
    lookup run live (generation + 1) key = some r ↔
      lookup run live generation key = some r ∧ r.lifetime = .run := by
  unfold lookup
  cases run.get? key with
  | some value =>
    constructor
    · rintro ⟨⟩
      exact ⟨rfl, rfl⟩
    · exact fun h => h.1
  | none =>
    cases hl : live.get? key with
    | none => simp
    | some entry =>
      obtain ⟨tag, v⟩ := entry
      have hle := tags tag v hl
      have hne : ¬ tag = generation + 1 := by omega
      simp only [hne, if_false, Option.map_none, reduceCtorEq, false_iff]
      rintro ⟨h, hrun⟩
      obtain ⟨w, -, rfl⟩ := Option.map_eq_some_iff.1 h
      cases hrun

theorem store_tags (tags : ∀ k tag v, live.get? k = some (tag, v) → tag ≤ generation) (k : κ)
    (tag : Nat) (v : Option Value)
    (h : (store run live generation key r).2.get? k = some (tag, v)) : tag ≤ generation := by
  unfold store at h
  split at h
  · exact tags k tag v h
  · rw [Table.get?_insert] at h
    split at h
    · cases h
      exact Nat.le_refl _
    · exact tags k tag v h
  · exact tags k tag v h

end Memo

namespace RunState

def cuts (st : RunState) : Nat := st.warnings.countP Warning.isCut

theorem cuts_warn_cut (st : RunState) (node : NodeId) (depth : Nat) :
    (st.warn (.depthLimitReached node depth)).cuts = st.cuts + 1 := by
  simp [cuts, warn, List.countP_append, Warning.isCut]

theorem cuts_warn_of_not_cut (st : RunState) {w : Warning} (h : w.isCut = false) :
    (st.warn w).cuts = st.cuts := by
  simp [cuts, warn, List.countP_append, h]

theorem cuts_le_of_prefix {st st' : RunState} (h : st.warnings <+: st'.warnings) :
    st.cuts ≤ st'.cuts :=
  h.sublist.countP_le

theorem memoizePin_eq (st : RunState) (key : PinKey) (r : Reading) :
    st.memoizePin key r =
      { st with
        pinMemo := (Memo.store st.pinMemo st.livePins st.generation key r).1
        livePins := (Memo.store st.pinMemo st.livePins st.generation key r).2 } := by
  unfold memoizePin Memo.store
  cases r.lifetime with
  | uncached => rfl
  | generation => rfl
  | run => rfl

theorem memoizedPin?_memoizePin_self {st : RunState} {key : PinKey} {r : Reading}
    (hnone : st.memoizedPin? key = none) (hr : r.lifetime ≠ .uncached) :
    (st.memoizePin key r).memoizedPin? key = some r := by
  rw [memoizePin_eq]
  exact Memo.lookup_store_self hnone hr

theorem memoizedPin?_memoizePin_ne {st : RunState} {key other : PinKey} {r : Reading}
    (h : other ≠ key) : (st.memoizePin key r).memoizedPin? other = st.memoizedPin? other := by
  rw [memoizePin_eq]
  exact Memo.lookup_store_ne h

theorem memoizedPure?_memoizePin (st : RunState) (key : PinKey) (r : Reading) (node : NodeId) :
    (st.memoizePin key r).memoizedPure? node = st.memoizedPure? node := by
  rw [memoizePin_eq]
  rfl

theorem memoizePin_uncached {st : RunState} {key : PinKey} {r : Reading}
    (h : r.lifetime = .uncached) : st.memoizePin key r = st := by
  unfold memoizePin
  rw [h]

theorem memoizePure_eq (st : RunState) (node : NodeId) (r : Reading) :
    st.memoizePure node r =
      { st with
        pureMemo := (Memo.store st.pureMemo st.livePure st.generation node r).1
        livePure := (Memo.store st.pureMemo st.livePure st.generation node r).2 } := by
  unfold memoizePure Memo.store
  cases r.lifetime with
  | uncached => rfl
  | generation => rfl
  | run => rfl

theorem memoizedPure?_memoizePure_self {st : RunState} {node : NodeId} {r : Reading}
    (hnone : st.memoizedPure? node = none) (hr : r.lifetime ≠ .uncached) :
    (st.memoizePure node r).memoizedPure? node = some r := by
  rw [memoizePure_eq]
  exact Memo.lookup_store_self hnone hr

theorem memoizedPure?_memoizePure_ne {st : RunState} {node other : NodeId} {r : Reading}
    (h : other ≠ node) :
    (st.memoizePure node r).memoizedPure? other = st.memoizedPure? other := by
  rw [memoizePure_eq]
  exact Memo.lookup_store_ne h

theorem memoizePure_uncached {st : RunState} {node : NodeId} {r : Reading}
    (h : r.lifetime = .uncached) : st.memoizePure node r = st := by
  unfold memoizePure
  rw [h]

theorem memoizedPin?_memoizePure (st : RunState) (node : NodeId) (r : Reading) (key : PinKey) :
    (st.memoizePure node r).memoizedPin? key = st.memoizedPin? key := by
  rw [memoizePure_eq]
  rfl

end RunState

end PinFlow
