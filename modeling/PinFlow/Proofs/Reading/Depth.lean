import Mathlib.Data.List.Perm.Subperm
import PinFlow.Graph.Validation
import PinFlow.Proofs.Reading.Contract

set_option autoImplicit false

/-!
# How deep readings go

The pins that are being read at one time are different, and a data edge ends at each of them but the
innermost. So with room for one level more than there are data edges no reading is cut off, and
further room changes nothing: `readPinFrom_alike`.
-/

namespace PinFlow

namespace Graph

def fedInputs (g : Graph) : List PinKey :=
  g.dataEdges.map fun e => (e.target, e.targetHandle)

theorem length_fedInputs (g : Graph) : g.fedInputs.length = g.dataEdges.length := List.length_map _

theorem mem_fedInputs_of_origin {g : Graph} {key : PinKey} {source : Node} {kind : PureKind}
    (h : g.origin key = .computed source kind) : key ∈ g.fedInputs := by
  cases hedge : g.edgeFeeding? key.1 key.2 with
  | none =>
    simp only [origin, hedge] at h
    cases h
  | some edge =>
    unfold edgeFeeding? at hedge
    have hmem := List.mem_of_find?_eq_some hedge
    have hfeeds := List.find?_some hedge
    simp only [Edge.feeds, Bool.and_eq_true, beq_iff_eq] at hfeeds
    obtain ⟨⟨hdata, htarget⟩, hhandle⟩ := hfeeds
    exact List.mem_map.2 ⟨edge, List.mem_filter.2 ⟨hmem, hdata⟩, Prod.ext htarget hhandle⟩

end Graph

/-- There are as many levels left as keys that are not taken yet. -/
structure Roomy (all : List PinKey) (room : Nat) (taken : List PinKey) : Prop where
  nodup : taken.Nodup
  subset : taken ⊆ all
  enough : all.length ≤ taken.length + room

namespace Roomy

variable {all taken : List PinKey} {room : Nat} {key : PinKey}

theorem start (h : all.length ≤ room) : Roomy all room [] :=
  ⟨List.nodup_nil, List.nil_subset _, by simpa using h⟩

theorem pos (h : Roomy all room taken) (hkey : key ∉ taken) (hmem : key ∈ all) : 0 < room := by
  have hnodup : (key :: taken).Nodup := List.nodup_cons.2 ⟨hkey, h.nodup⟩
  have hsubset : key :: taken ⊆ all := List.cons_subset.2 ⟨hmem, h.subset⟩
  have hle := (List.subperm_of_subset hnodup hsubset).length_le
  have henough := h.enough
  rw [List.length_cons] at hle
  omega

theorem deeper (h : Roomy all (room + 1) taken) (hkey : key ∉ taken) (hmem : key ∈ all) :
    Roomy all room (key :: taken) where
  nodup := List.nodup_cons.2 ⟨hkey, h.nodup⟩
  subset := List.cons_subset.2 ⟨hmem, h.subset⟩
  enough := by
    have henough := h.enough
    rw [List.length_cons]
    omega

end Roomy

/-- While the given pins are in progress, two readers give the same and cut nothing off. -/
def PinReader.Alike (resolving : List PinKey) (read read' : PinReader) : Prop :=
  ∀ node handle st, st.resolving = resolving →
    read node handle st = read' node handle st ∧ (read node handle st).2.cuts = st.cuts

section Layers

variable {g : Graph} {resolving : List PinKey} {read read' : PinReader}

theorem gather_alike (hread : read.Sound g) (h : read.Alike resolving read') (node : Node)
    {st : RunState} (hst : st.resolving = resolving) :
    gather read node st = gather read' node st ∧ (gather read node st).state.cuts = st.cuts := by
  have hfold : ∀ (pins : List Pin) (acc : Gathered), acc.state.resolving = resolving →
      pins.foldl (Gathered.add read node) acc = pins.foldl (Gathered.add read' node) acc ∧
        (pins.foldl (Gathered.add read node) acc).state.cuts = acc.state.cuts := by
    intro pins
    induction pins with
    | nil => exact fun acc _ => ⟨rfl, rfl⟩
    | cons pin rest ih =>
      intro acc hacc
      obtain ⟨hsame, hcuts⟩ := h node pin.id acc.state hacc
      have hadd : Gathered.add read node acc pin = Gathered.add read' node acc pin := by
        simp only [Gathered.add, hsame]
      have hnext : (Gathered.add read node acc pin).state.resolving = resolving :=
        (hread node pin.id acc.state).advance.frame.resolving.trans hacc
      obtain ⟨hrest, hrestCuts⟩ := ih _ hnext
      rw [List.foldl_cons, List.foldl_cons, ← hadd]
      exact ⟨hrest, hrestCuts.trans hcuts⟩
  exact hfold node.dataInputs ⟨[], .run, st⟩ hst

end Layers

namespace Setup

variable {s : Setup} {resolving : List PinKey} {read read' : PinReader}

theorem compute_cuts (node : Node) (kind : PureKind) (acc : Gathered) :
    (s.compute node kind acc).2.cuts = acc.state.cuts := by
  rw [compute_eq]
  dsimp only
  rw [RunState.memoizePure_eq]
  exact computing_cuts node kind acc.state

theorem evaluatePure_alike (hread : read.Sound s.graph) (h : read.Alike resolving read')
    (node : Node) (kind : PureKind) {st : RunState} (hst : st.resolving = resolving) :
    s.evaluatePure read node kind st = s.evaluatePure read' node kind st ∧
      (s.evaluatePure read node kind st).2.cuts = st.cuts := by
  obtain ⟨hsame, hcuts⟩ := gather_alike hread h node hst
  unfold evaluatePure
  rw [← hsame]
  refine ⟨rfl, ?_⟩
  split
  · rfl
  · dsimp only
    split
    · exact hcuts
    · exact (compute_cuts node kind _).trans hcuts

theorem readFresh_alike (hread : read.Sound s.graph) {node : Node} {handle : Handle}
    {st : RunState}
    (h : ∀ source kind, s.graph.origin (node.id, handle) = .computed source kind →
      read.Alike ((node.id, handle) :: st.resolving) read') :
    s.readFresh read node handle st = s.readFresh read' node handle st ∧
      (s.readFresh read node handle st).2.cuts = st.cuts := by
  rw [readFresh_eq, readFresh_eq]
  cases horigin : s.graph.origin (node.id, handle) with
  | literal => exact ⟨rfl, rfl⟩
  | absent => exact ⟨rfl, rfl⟩
  | unknown source => exact ⟨rfl, st.cuts_warn_of_not_cut rfl⟩
  | constant source kind out => exact ⟨rfl, rfl⟩
  | event out => exact ⟨rfl, rfl⟩
  | output source out => exact ⟨rfl, rfl⟩
  | computed source kind =>
    -- Only here are further pins read, and the pin itself is in progress meanwhile.
    have hbegun : (st.beginReading (node.id, handle)).resolving =
        (node.id, handle) :: st.resolving := rfl
    obtain ⟨hsame, hcuts⟩ :=
      evaluatePure_alike hread (h source kind horigin) source kind hbegun
    exact ⟨by simp only [hsame], hcuts⟩

theorem readPinWith_alike (hread : read.Sound s.graph)
    (h : ∀ key source kind, s.graph.origin key = .computed source kind → key ∉ resolving →
      read.Alike (key :: resolving) read') (depth depth' : Nat) :
    PinReader.Alike resolving (s.readPinWith (some read) depth)
      (s.readPinWith (some read') depth') := by
  rintro node handle st rfl
  cases hfound : st.memoizedPin? (node.id, handle) with
  | some r =>
    rw [s.readPinWith_memoized _ depth hfound, s.readPinWith_memoized _ depth' hfound]
    exact ⟨rfl, rfl⟩
  | none =>
    by_cases hkey : (node.id, handle) ∈ st.resolving
    · rw [s.readPinWith_reading _ depth hfound hkey, s.readPinWith_reading _ depth' hfound hkey]
      exact ⟨rfl, st.cuts_warn_of_not_cut rfl⟩
    · have hinputs : ∀ source kind, s.graph.origin (node.id, handle) = .computed source kind →
          read.Alike ((node.id, handle) :: st.resolving) read' :=
        fun source kind horigin => h (node.id, handle) source kind horigin hkey
      obtain ⟨hsame, hcuts⟩ := readFresh_alike hread hinputs
      rw [s.readPinWith_fresh read depth hfound hkey, s.readPinWith_fresh read' depth' hfound hkey,
        ← hsame]
      refine ⟨rfl, ?_⟩
      dsimp only
      rw [RunState.memoizePin_eq]
      exact hcuts

/-- With enough room left, neither the room nor the depth matters. One level more is needed than
    there are edges to follow, for a pin at which none ends. -/
theorem readPinFrom_alike {room room' : Nat} (hroom : Roomy s.graph.fedInputs room resolving)
    (hroom' : Roomy s.graph.fedInputs room' resolving) (depth depth' : Nat) :
    (s.readPinFrom (room + 1) depth).Alike resolving (s.readPinFrom (room' + 1) depth') := by
  induction room generalizing room' resolving depth depth' with
  | zero =>
    refine readPinWith_alike (readPinFrom_contract 0 (depth + 1)) ?_ depth depth'
    intro key source kind horigin hkey
    have hpos := hroom.pos hkey (Graph.mem_fedInputs_of_origin horigin)
    exact absurd hpos (Nat.lt_irrefl 0)
  | succ room ih =>
    refine readPinWith_alike (readPinFrom_contract (room + 1) (depth + 1)) ?_ depth depth'
    intro key source kind horigin hkey
    have hfed := Graph.mem_fedInputs_of_origin horigin
    obtain ⟨room', rfl⟩ := Nat.exists_eq_succ_of_ne_zero (hroom'.pos hkey hfed).ne'
    exact ih (hroom.deeper hkey hfed) (hroom'.deeper hkey hfed) (depth + 1) (depth' + 1)

end Setup

end PinFlow
