import Mathlib.Data.List.Induction
import Mathlib.Data.List.Nodup
import PinFlow.Graph

set_option autoImplicit false

/-!
# Incident edges

Edges in a store where each gets the next index as it is inserted, and each node lists the edges
that leave it and those that end at it, newest first. The look-ups go through these lists: exec
edges are sorted by their indices, and the first data edge that is met is taken. Both give what the
plain list of edges gives.
-/

namespace PinFlow

/-- The edges at each node, newest first, with their indices. -/
structure Incidence where
  size : Nat
  outgoing : NodeId → List (Edge × Nat)
  incoming : NodeId → List (Edge × Nat)

namespace Incidence

def empty : Incidence := ⟨0, fun _ => [], fun _ => []⟩

def push (pick : Edge → NodeId) (lists : NodeId → List (Edge × Nat)) (e : Edge) (index : Nat) :
    NodeId → List (Edge × Nat) := fun node =>
  if pick e = node then (e, index) :: lists node else lists node

def insert (store : Incidence) (e : Edge) : Incidence where
  size := store.size + 1
  outgoing := push Edge.source store.outgoing e store.size
  incoming := push Edge.target store.incoming e store.size

def ofEdges (edges : List Edge) : Incidence := edges.foldl insert empty

def edgesLeaving (store : Incidence) (node : NodeId) (handle : Handle) : List Edge :=
  (((store.outgoing node).filter fun entry =>
    entry.1.isExec && entry.1.sourceHandle == handle).mergeSort
      fun entry other => entry.2 ≤ other.2).map Prod.fst

def edgeFeeding? (store : Incidence) (node : NodeId) (handle : Handle) : Option Edge :=
  ((store.incoming node).map Prod.fst).find? fun e => !e.isExec && e.targetHandle == handle

theorem ofEdges_concat (edges : List Edge) (e : Edge) :
    ofEdges (edges ++ [e]) = (ofEdges edges).insert e :=
  List.foldl_append

theorem size_ofEdges (edges : List Edge) : (ofEdges edges).size = edges.length := by
  induction edges using List.reverseRecOn with
  | nil => rfl
  | append_singleton edges e ih => rw [ofEdges_concat, insert, ih, List.length_append]; rfl

theorem push_concat {pick : Edge → NodeId} {lists : NodeId → List (Edge × Nat)}
    {edges : List Edge} {node : NodeId}
    (h : lists node = (edges.zipIdx.filter fun entry => pick entry.1 == node).reverse) (e : Edge) :
    push pick lists e edges.length node =
      ((edges ++ [e]).zipIdx.filter fun entry => pick entry.1 == node).reverse := by
  have hlast : (edges ++ [e]).zipIdx = edges.zipIdx ++ [(e, edges.length)] := by
    rw [List.zipIdx_append, Nat.zero_add]
    rfl
  rw [hlast, List.filter_append, List.reverse_append, ← h]
  by_cases hpick : pick e = node
  · simp [push, hpick]
  · simp [push, hpick]

theorem outgoing_ofEdges (edges : List Edge) (node : NodeId) :
    (ofEdges edges).outgoing node =
      (edges.zipIdx.filter fun entry => entry.1.source == node).reverse := by
  induction edges using List.reverseRecOn with
  | nil => rfl
  | append_singleton edges e ih =>
    rw [ofEdges_concat, insert, size_ofEdges]
    exact push_concat ih e

theorem incoming_ofEdges (edges : List Edge) (node : NodeId) :
    (ofEdges edges).incoming node =
      (edges.zipIdx.filter fun entry => entry.1.target == node).reverse := by
  induction edges using List.reverseRecOn with
  | nil => rfl
  | append_singleton edges e ih =>
    rw [ofEdges_concat, insert, size_ofEdges]
    exact push_concat ih e

theorem mergeSort_reverse {entries : List (Edge × Nat)}
    (h : entries.Pairwise fun entry other => entry.2 < other.2) :
    (entries.reverse.mergeSort fun entry other => entry.2 ≤ other.2) = entries := by
  have hkeys : (entries.map Prod.snd).Nodup :=
    List.pairwise_map.2 (h.imp fun hlt => Nat.ne_of_lt hlt)
  have hperm : (entries.reverse.mergeSort fun entry other => entry.2 ≤ other.2).Perm entries :=
    (List.mergeSort_perm _ _).trans (List.reverse_perm entries)
  have hsorted : (entries.reverse.mergeSort fun entry other => entry.2 ≤ other.2).Pairwise
      fun entry other => entry.2 ≤ other.2 := by
    refine (List.pairwise_mergeSort ?_ ?_ _).imp of_decide_eq_true
    · simp only [decide_eq_true_eq]
      exact fun _ _ _ => Nat.le_trans
    · simp only [Bool.or_eq_true, decide_eq_true_eq]
      exact fun _ _ => Nat.le_total _ _
  -- The indices are different, so that only one arrangement of the entries is sorted.
  refine List.Perm.eq_of_pairwise ?_ hsorted (h.imp Nat.le_of_lt) hperm
  intro entry other hentry hother hle hge
  exact List.inj_on_of_nodup_map hkeys (hperm.mem_iff.1 hentry) hother (Nat.le_antisymm hle hge)

theorem zipIdx_increasing (edges : List Edge) :
    edges.zipIdx.Pairwise fun entry other => entry.2 < other.2 := by
  rw [← List.pairwise_map (f := Prod.snd) (R := (· < ·)), List.zipIdx_map_snd]
  exact List.pairwise_lt_range' 1

theorem edgesLeaving_ofEdges (edges : List Edge) (node : NodeId) (handle : Handle) :
    (ofEdges edges).edgesLeaving node handle = edges.filter (·.leaves node handle) := by
  have hincreasing := (zipIdx_increasing edges).filter fun entry => entry.1.leaves node handle
  have hfound : ((ofEdges edges).outgoing node).filter (fun entry =>
      entry.1.isExec && entry.1.sourceHandle == handle) =
      (edges.zipIdx.filter fun entry => entry.1.leaves node handle).reverse := by
    rw [outgoing_ofEdges, List.filter_reverse, List.filter_filter]
    congr 2
    funext entry
    exact Bool.and_right_comm _ _ _
  unfold edgesLeaving
  rw [hfound, mergeSort_reverse hincreasing]
  conv_rhs => rw [← List.zipIdx_map_fst 0 edges, List.filter_map]
  rfl

theorem edgeFeeding?_ofEdges {edges : List Edge} {node : NodeId} {handle : Handle}
    (h : (edges.filter (·.feeds node handle)).length ≤ 1) :
    (ofEdges edges).edgeFeeding? node handle = edges.find? (·.feeds node handle) := by
  have hentries : ((ofEdges edges).incoming node).map Prod.fst =
      (edges.filter fun e => e.target == node).reverse := by
    rw [incoming_ofEdges, List.map_reverse]
    conv_rhs => rw [← List.zipIdx_map_fst 0 edges, List.filter_map]
    rfl
  have hfound : (((ofEdges edges).incoming node).map Prod.fst).filter
      (fun e => !e.isExec && e.targetHandle == handle) =
      (edges.filter (·.feeds node handle)).reverse := by
    rw [hentries, List.filter_reverse, List.filter_filter]
    congr 2
    funext e
    exact Bool.and_right_comm _ _ _
  unfold edgeFeeding?
  rw [← List.head?_filter, hfound, ← List.head?_filter]
  clear hentries hfound
  generalize edges.filter (·.feeds node handle) = found at h
  cases found with
  | nil => rfl
  | cons e rest =>
    obtain rfl : rest = [] := List.length_eq_zero_iff.1 (by rw [List.length_cons] at h; omega)
    rfl

end Incidence

end PinFlow
