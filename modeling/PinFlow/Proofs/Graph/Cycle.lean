import Mathlib.Data.Fintype.Card
import Mathlib.Data.Set.Finite.Basic
import Mathlib.Logic.Relation
import Mathlib.Order.WellFounded
import PinFlow.Graph.Validation

set_option autoImplicit false

/-!
# Cycles of edges

Peeling removes an edge only if no edge ends where it starts, so that the edges of a closed path are
never removed: the check for cycles finds every one of them. What is left in the end is left because
every edge has one before it, and then some of finitely many edges come again.
-/

namespace PinFlow.Graph

def Linked (edges : List Edge) (a b : NodeId) : Prop :=
  ∃ e ∈ edges, e.source = a ∧ e.target = b

variable {edges : List Edge} {e : Edge}

/-- An edge whose start can be reached again from its end. -/
def OnCycle (edges : List Edge) (e : Edge) : Prop :=
  e ∈ edges ∧ Relation.ReflTransGen (Linked edges) e.target e.source

theorem OnCycle.previous (h : OnCycle edges e) : ∃ e', OnCycle edges e' ∧ e'.target = e.source := by
  obtain ⟨hmem, hback⟩ := h
  rcases Relation.ReflTransGen.cases_tail hback with heq | ⟨x, hreach, e', hmem', hsource, htarget⟩
  · exact ⟨e, ⟨hmem, hback⟩, heq.symm⟩
  · refine ⟨e', ⟨hmem', ?_⟩, htarget⟩
    have hlinked : Linked edges e'.target e.target := ⟨e, hmem, htarget.symm, rfl⟩
    rw [hsource]
    exact .head hlinked hreach

theorem mem_peel {survivors : Edge → Prop}
    (hprevious : ∀ e, survivors e → ∃ e', survivors e' ∧ e'.target = e.source)
    (hmem : ∀ e, survivors e → e ∈ edges) (h : survivors e) : e ∈ peel edges := by
  obtain ⟨e', he', htarget⟩ := hprevious e h
  refine List.mem_filter.2 ⟨hmem e h, List.any_eq_true.2 ⟨e', hmem e' he', ?_⟩⟩
  rw [beq_iff_eq]
  exact htarget

theorem mem_peelAll {survivors : Edge → Prop}
    (hprevious : ∀ e, survivors e → ∃ e', survivors e' ∧ e'.target = e.source) (fuel : Nat)
    (hmem : ∀ e, survivors e → e ∈ edges) (h : survivors e) : e ∈ peelAll fuel edges := by
  induction fuel generalizing edges with
  | zero => exact hmem e h
  | succ fuel ih =>
    unfold peelAll
    dsimp only
    split
    · exact hmem e h
    · exact ih fun e he => mem_peel hprevious hmem he

theorem hasCycle_of_closed {n : NodeId} (h : Relation.TransGen (Linked edges) n n) :
    hasCycle edges = true := by
  obtain ⟨x, hreach, e, hmem, hsource, htarget⟩ := Relation.TransGen.tail'_iff.1 h
  have hcycle : OnCycle edges e := by
    refine ⟨hmem, ?_⟩
    rw [hsource, htarget]
    exact hreach
  have hleft : e ∈ peelAll edges.length edges :=
    mem_peelAll (fun _ he => he.previous) _ (fun _ he => he.1) hcycle
  cases hrest : peelAll edges.length edges with
  | nil =>
    rw [hrest] at hleft
    cases hleft
  | cons first rest => simp only [hasCycle, hrest, List.isEmpty_cons, Bool.not_false]

theorem Linked.mono {edges' : List Edge} (h : edges ⊆ edges') {a b : NodeId}
    (hlinked : Linked edges a b) : Linked edges' a b := by
  obtain ⟨e, hmem, hsource, htarget⟩ := hlinked
  exact ⟨e, h hmem, hsource, htarget⟩

def Preceded (edges : List Edge) : Prop := ∀ e ∈ edges, ∃ e' ∈ edges, e'.target = e.source

theorem peelAll_subset (fuel : Nat) (edges : List Edge) : peelAll fuel edges ⊆ edges := by
  induction fuel generalizing edges with
  | zero => exact List.Subset.refl edges
  | succ fuel ih =>
    unfold peelAll
    dsimp only
    split
    · exact List.Subset.refl edges
    · exact List.Subset.trans (ih (peel edges)) (List.filter_sublist.subset)

theorem peelAll_preceded {fuel : Nat} (h : edges.length ≤ fuel) :
    Preceded (peelAll fuel edges) := by
  induction fuel generalizing edges with
  | zero =>
    obtain rfl := List.length_eq_zero_iff.1 (Nat.le_zero.1 h)
    exact fun e he => absurd he List.not_mem_nil
  | succ fuel ih =>
    unfold peelAll
    dsimp only
    split
    · rename_i hstable
      intro e he
      simpa using List.length_filter_eq_length_iff.1 hstable e he
    · rename_i hshrunk
      have hle : (peel edges).length ≤ edges.length := List.length_filter_le _ _
      exact ih (by omega)

/-- Among finitely many edges that all have one before them, going back never ends. -/
theorem closed_of_preceded (hne : edges ≠ []) (hpreceded : Preceded edges) :
    ∃ n, Relation.TransGen (Linked edges) n n := by
  by_contra hnone
  let Member := { e : Edge // e ∈ edges }
  let Before (a b : Member) : Prop := Relation.TransGen (Linked edges) a.1.source b.1.source
  have hfinite : Finite Member := (List.finite_toSet edges).to_subtype
  have htrans : IsTrans Member Before := ⟨fun _ _ _ hab hbc => hab.trans hbc⟩
  have hirrefl : Std.Irrefl Before := ⟨fun a ha => hnone ⟨a.1.source, ha⟩⟩
  have hwf : WellFounded Before := Finite.wellFounded_of_trans_of_irrefl _
  obtain ⟨e, he⟩ := List.exists_mem_of_ne_nil edges hne
  obtain ⟨first, -, hfirst⟩ := hwf.has_min Set.univ ⟨⟨e, he⟩, trivial⟩
  obtain ⟨e', he', htarget⟩ := hpreceded first.1 first.2
  exact hfirst ⟨e', he'⟩ trivial (.single ⟨e', he', rfl, htarget⟩)

theorem hasCycle_iff : hasCycle edges = true ↔ ∃ n, Relation.TransGen (Linked edges) n n := by
  constructor
  · intro h
    have hleft : peelAll edges.length edges ≠ [] := by simpa [hasCycle] using h
    obtain ⟨n, hclosed⟩ := closed_of_preceded hleft (peelAll_preceded (Nat.le_refl _))
    exact ⟨n, hclosed.lift id fun _ _ => Linked.mono (peelAll_subset _ edges)⟩
  · rintro ⟨n, hclosed⟩
    exact hasCycle_of_closed hclosed

def Walk : NodeId → List Edge → NodeId → Prop
  | a, [], b => a = b
  | a, e :: rest, b => e.source = a ∧ Walk e.target rest b

def HasClosedWalk (edges : List Edge) : Prop :=
  ∃ n walk, walk ≠ [] ∧ (∀ e ∈ walk, e ∈ edges) ∧ Walk n walk n

theorem Walk.append {a b c : NodeId} {walk walk' : List Edge} (h : Walk a walk b)
    (h' : Walk b walk' c) : Walk a (walk ++ walk') c := by
  induction walk generalizing a with
  | nil =>
    obtain rfl : a = b := h
    exact h'
  | cons e rest ih => exact ⟨h.1, ih h.2⟩

theorem exists_walk_of_transGen {a b : NodeId} (h : Relation.TransGen (Linked edges) a b) :
    ∃ walk, walk ≠ [] ∧ (∀ e ∈ walk, e ∈ edges) ∧ Walk a walk b := by
  induction h with
  | single hlinked =>
    obtain ⟨e, hmem, rfl, rfl⟩ := hlinked
    exact ⟨[e], by simp, by simpa using hmem, rfl, rfl⟩
  | tail _ hlinked ih =>
    obtain ⟨walk, -, hmem, hwalk⟩ := ih
    obtain ⟨e, he, hsource, rfl⟩ := hlinked
    refine ⟨walk ++ [e], by simp, ?_, hwalk.append ⟨hsource, rfl⟩⟩
    intro e' he'
    rcases List.mem_append.1 he' with he' | he'
    · exact hmem e' he'
    · rwa [List.mem_singleton.1 he']

theorem transGen_of_walk {a b : NodeId} {walk : List Edge} (hne : walk ≠ [])
    (hmem : ∀ e ∈ walk, e ∈ edges) (h : Walk a walk b) :
    Relation.TransGen (Linked edges) a b := by
  induction walk generalizing a with
  | nil => exact absurd rfl hne
  | cons e rest ih =>
    obtain ⟨hsource, hrest⟩ := h
    have hlinked : Linked edges a e.target := ⟨e, hmem e List.mem_cons_self, hsource, rfl⟩
    cases rest with
    | nil =>
      obtain rfl : e.target = b := hrest
      exact .single hlinked
    | cons e' rest =>
      exact .head hlinked (ih (by simp) (fun e he => hmem e (List.mem_cons_of_mem _ he)) hrest)

theorem hasClosedWalk_iff :
    HasClosedWalk edges ↔ ∃ n, Relation.TransGen (Linked edges) n n := by
  constructor
  · rintro ⟨n, walk, hne, hmem, hwalk⟩
    exact ⟨n, transGen_of_walk hne hmem hwalk⟩
  · rintro ⟨n, hclosed⟩
    exact ⟨n, exists_walk_of_transGen hclosed⟩

end PinFlow.Graph
