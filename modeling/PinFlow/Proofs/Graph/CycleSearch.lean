import PinFlow.Proofs.Graph.Cycle
import PinFlow.Proofs.Graph.Store

set_option autoImplicit false

/-!
# The report of a cycle of data

Validation reports a cycle exactly if data edges lead from some node back to it. The same is found by
searching depth first: a node is on the path of the search, or finished, or not met yet, and an edge
back into the path closes a cycle. The finished nodes are listed so that every edge from one of them
leads further down the list, and in such a list nothing leads back.
-/

namespace PinFlow.Graph

def successors (edges : List Edge) (n : NodeId) : List NodeId :=
  (edges.filter (·.source = n)).map Edge.target

/-- The finished nodes after all that can be reached from a node has been explored, or nothing if an
    edge leads back into the path; `room` bounds the length of the path. -/
def explore (edges : List Edge) :
    (room : Nat) → (path finished : List NodeId) → NodeId → Option (List NodeId)
  | 0, _, _, _ => none
  | room + 1, path, finished, n =>
    if n ∈ finished then some finished
    else if n ∈ path then none
    else ((successors edges n).foldlM (explore edges room (n :: path)) finished).map (n :: ·)

def search (nodes : List NodeId) (edges : List Edge) : Option (List NodeId) :=
  nodes.foldlM (explore edges (nodes.length + 1) []) []

variable {edges : List Edge} {nodes path finished : List NodeId} {n : NodeId} {room : Nat}

theorem mem_successors_iff {m : NodeId} : m ∈ successors edges n ↔ Linked edges n m := by
  simp [successors, Linked, and_assoc]

/-- Every edge from one of the nodes leads further down the list. -/
def Settled (edges : List Edge) : List NodeId → Prop
  | [] => True
  | n :: rest => (∀ m, Linked edges n m → m ∈ rest) ∧ Settled edges rest

theorem Settled.acyclic (h : Settled edges finished) (hn : n ∈ finished) :
    ¬ Relation.TransGen (Linked edges) n n := by
  induction finished generalizing n with
  | nil => cases hn
  | cons first rest ih =>
    obtain ⟨hfirst, hrest⟩ := h
    rcases List.mem_cons.1 hn with rfl | hn
    · intro hclosed
      obtain ⟨m, hlinked, hback⟩ := Relation.TransGen.head'_iff.1 hclosed
      exact ih hrest (hfirst m hlinked) (.tail' hback hlinked)
    · exact ih hrest hn

/-- What exploring the wanted nodes has to come to. -/
def Explored (edges : List Edge) (finished wanted : List NodeId) : Option (List NodeId) → Prop
  | none => ∃ c, Relation.TransGen (Linked edges) c c
  | some finished' => Settled edges finished' ∧ finished ⊆ finished' ∧ wanted ⊆ finished'

theorem explored_foldlM {step : List NodeId → NodeId → Option (List NodeId)}
    {wanted : List NodeId}
    (hstep : ∀ finished, Settled edges finished → ∀ n ∈ wanted,
      Explored edges finished [n] (step finished n)) (hfinished : Settled edges finished) :
    Explored edges finished wanted (wanted.foldlM step finished) := by
  induction wanted generalizing finished with
  | nil => exact ⟨hfinished, List.Subset.refl _, List.nil_subset _⟩
  | cons n rest ih =>
    have hn := hstep finished hfinished n List.mem_cons_self
    have hrest : ∀ finished, Settled edges finished → ∀ n ∈ rest,
        Explored edges finished [n] (step finished n) :=
      fun finished hfinished n hn => hstep finished hfinished n (List.mem_cons_of_mem _ hn)
    rw [List.foldlM_cons]
    cases hstepped : step finished n with
    | none =>
      rw [hstepped] at hn
      exact hn
    | some finished' =>
      rw [hstepped] at hn
      obtain ⟨hsettled, hkept, hnow⟩ := hn
      have hall := ih hrest hsettled
      change Explored edges finished (n :: rest) (rest.foldlM step finished')
      cases hfolded : rest.foldlM step finished' with
      | none =>
        rw [hfolded] at hall
        exact hall
      | some last =>
        rw [hfolded] at hall
        obtain ⟨hlast, hkept', hrest'⟩ := hall
        refine ⟨hlast, List.Subset.trans hkept hkept', List.cons_subset.2 ⟨?_, hrest'⟩⟩
        exact hkept' (hnow List.mem_cons_self)

/-- What holds whenever a node is explored: the path has no node twice, more nodes can still be put on
    it, and each node of it leads to the one that comes next. -/
structure Underway (edges : List Edge) (nodes : List NodeId) (room : Nat) (path : List NodeId)
    (next : NodeId) : Prop where
  nodup : path.Nodup
  subset : path ⊆ nodes
  enough : nodes.length < path.length + room
  mem : next ∈ nodes
  leads : ∀ m ∈ path, Relation.TransGen (Linked edges) m next

namespace Underway

theorem start (hn : n ∈ nodes) : Underway edges nodes (nodes.length + 1) [] n :=
  ⟨List.nodup_nil, List.nil_subset _, by simp, hn, fun m hm => absurd hm List.not_mem_nil⟩

theorem pos (h : Underway edges nodes room path n) : 0 < room := by
  have hle := (List.subperm_of_subset h.nodup h.subset).length_le
  have henough := h.enough
  omega

theorem deeper (h : Underway edges nodes (room + 1) path n) (hn : n ∉ path) {m : NodeId}
    (hlinked : Linked edges n m) (hm : m ∈ nodes) : Underway edges nodes room (n :: path) m where
  nodup := List.nodup_cons.2 ⟨hn, h.nodup⟩
  subset := List.cons_subset.2 ⟨h.mem, h.subset⟩
  enough := by
    have henough := h.enough
    rw [List.length_cons]
    omega
  mem := hm
  leads k hk := by
    rcases List.mem_cons.1 hk with rfl | hk
    · exact .single hlinked
    · exact (h.leads k hk).tail hlinked

end Underway

theorem explore_explored (hends : ∀ e ∈ edges, e.target ∈ nodes) (room : Nat)
    {path finished : List NodeId} {n : NodeId} (h : Underway edges nodes room path n)
    (hfinished : Settled edges finished) :
    Explored edges finished [n] (explore edges room path finished n) := by
  induction room generalizing path finished n with
  | zero => exact absurd h.pos (Nat.lt_irrefl 0)
  | succ room ih =>
    unfold explore
    split_ifs with hdone hback
    · exact ⟨hfinished, List.Subset.refl _, by simpa using hdone⟩
    · exact ⟨n, h.leads n hback⟩
    · have hstep : ∀ finished, Settled edges finished → ∀ m ∈ successors edges n,
          Explored edges finished [m] (explore edges room (n :: path) finished m) := by
        intro finished hfinished m hm
        have hlinked := mem_successors_iff.1 hm
        have hmem : m ∈ nodes := by
          obtain ⟨e, he, -, rfl⟩ := hlinked
          exact hends e he
        exact ih (h.deeper hback hlinked hmem) hfinished
      have hall := explored_foldlM hstep hfinished
      cases hfolded : (successors edges n).foldlM (explore edges room (n :: path)) finished with
      | none =>
        rw [hfolded] at hall
        exact hall
      | some finished' =>
        rw [hfolded] at hall
        obtain ⟨hsettled, hkept, hsuccessors⟩ := hall
        refine ⟨⟨fun m hm => hsuccessors (mem_successors_iff.2 hm), hsettled⟩, ?_, by simp⟩
        exact List.subset_cons_of_subset n hkept

theorem search_eq_none_iff (hends : ∀ e ∈ edges, e.source ∈ nodes ∧ e.target ∈ nodes) :
    search nodes edges = none ↔ ∃ c, Relation.TransGen (Linked edges) c c := by
  have hall : Explored edges [] nodes (search nodes edges) :=
    explored_foldlM (fun _ hfinished _ hn =>
      explore_explored (fun e he => (hends e he).2) _ (.start hn) hfinished) trivial
  cases hsearch : search nodes edges with
  | none =>
    rw [hsearch] at hall
    exact ⟨fun _ => hall, fun _ => rfl⟩
  | some finished =>
    rw [hsearch] at hall
    obtain ⟨hsettled, -, hnodes⟩ := hall
    constructor
    · intro h
      cases h
    · rintro ⟨c, hclosed⟩
      obtain ⟨m, ⟨e, he, rfl, -⟩, -⟩ := Relation.TransGen.head'_iff.1 hclosed
      exact absurd hclosed (hsettled.acyclic (hnodes (hends e he).1))

variable {g : Graph} {e : Edge}

theorem mem_dataEdges_iff : e ∈ g.dataEdges ↔ e ∈ g.edges ∧ e.kind = .data := by
  cases hkind : e.kind <;> simp [dataEdges, Edge.isExec, hkind]

theorem dataCycle_not_mem_nodeIssues (n : Node) : Issue.dataCycle ∉ g.nodeIssues n := by
  unfold nodeIssues unsetInputs
  split
  · simp
  · split_ifs <;> simp

theorem edgeIssue?_ne_dataCycle : g.edgeIssue? e ≠ some .dataCycle := by
  intro h
  unfold edgeIssue? at h
  simp only [Option.bind_eq_bind, Option.bind_eq_some_iff] at h
  obtain ⟨source, -, output, -, target, -, input, -, h⟩ := h
  split_ifs at h
  cases h

theorem dataCycle_mem_validate_iff : Issue.dataCycle ∈ g.validate ↔ hasCycle g.dataEdges = true := by
  unfold validate
  cases hasCycle g.dataEdges <;>
    simp [dataCycle_not_mem_nodeIssues, edgeIssue?_ne_dataCycle]

theorem validate_eq_concat (h : Issue.dataCycle ∈ g.validate) :
    ∃ others, .dataCycle ∉ others ∧ g.validate = others ++ [.dataCycle] := by
  refine ⟨g.nodes.flatMap g.nodeIssues ++ g.dataEdges.filterMap g.edgeIssue?, ?_, ?_⟩
  · simp [dataCycle_not_mem_nodeIssues, edgeIssue?_ne_dataCycle]
  · unfold validate
    rw [if_pos (dataCycle_mem_validate_iff.1 h)]

theorem Sound.ends_mem (hg : g.Sound) (he : e ∈ g.edges) :
    e.source ∈ g.nodes.map Node.id ∧ e.target ∈ g.nodes.map Node.id := by
  obtain ⟨source, target, hsource, htarget, -⟩ := hg.joined e he
  obtain ⟨hmem, hid⟩ := hg.node?_eq_some_iff.1 hsource
  obtain ⟨hmem', hid'⟩ := hg.node?_eq_some_iff.1 htarget
  exact ⟨List.mem_map.2 ⟨source, hmem, hid⟩, List.mem_map.2 ⟨target, hmem', hid'⟩⟩

/-- A cycle is reported, once and as the last issue, exactly if data edges lead from some node back to
    it; and exactly if a depth-first search over the data edges meets an edge back into its path. -/
theorem validate_reports_closed_walk (edits : List Edit) :
    (Issue.dataCycle ∈ (built edits).validate ↔ ∃ n walk, walk ≠ [] ∧
      (∀ e ∈ walk, e ∈ (built edits).edges ∧ e.kind = .data) ∧ Walk n walk n) ∧
    (Issue.dataCycle ∈ (built edits).validate ↔
      ∃ others, .dataCycle ∉ others ∧ (built edits).validate = others ++ [.dataCycle]) ∧
    (Issue.dataCycle ∈ (built edits).validate ↔
      search ((built edits).nodes.map Node.id) (built edits).dataEdges = none) := by
  have hsound := built_sound edits
  have hends : ∀ e ∈ (built edits).dataEdges, e.source ∈ (built edits).nodes.map Node.id ∧
      e.target ∈ (built edits).nodes.map Node.id :=
    fun e he => hsound.ends_mem (mem_dataEdges_iff.1 he).1
  simp only [← mem_dataEdges_iff]
  refine ⟨?_, ⟨validate_eq_concat, ?_⟩, ?_⟩
  · rw [dataCycle_mem_validate_iff, hasCycle_iff]
    exact hasClosedWalk_iff.symm
  · rintro ⟨others, -, hvalidate⟩
    rw [hvalidate]
    exact List.mem_append_right _ List.mem_cons_self
  · rw [dataCycle_mem_validate_iff, hasCycle_iff, search_eq_none_iff hends]

-- Someone says the same again and again, and in the second graph the text is also made of itself.
def repeatEdits : List Edit :=
  [.node { Node.bare "say" "action-say" with
      execInputs := [.exec "in"]
      execOutputs := [.exec "out"]
      dataInputs := [.required "text" .string] },
    .node { Node.bare "upper" "pure-string-upper" with
      dataInputs := [.required "text" .string]
      dataOutputs := [.required "result" .string] },
    .edge ⟨none, "say", "out", "say", "in", .data⟩,
    .edge ⟨none, "upper", "result", "say", "text", .data⟩]

def mirrorEdits : List Edit :=
  repeatEdits ++ [.edge ⟨none, "upper", "result", "upper", "text", .data⟩]

theorem validate_reports_closed_walk_mirror :
    (¬ ∃ n walk, walk ≠ [] ∧
      (∀ e ∈ walk, e ∈ (built repeatEdits).edges ∧ e.kind = .data) ∧ Walk n walk n) ∧
    ∃ n walk, walk ≠ [] ∧
      (∀ e ∈ walk, e ∈ (built mirrorEdits).edges ∧ e.kind = .data) ∧ Walk n walk n := by
  have hrepeat : Issue.dataCycle ∉ (built repeatEdits).validate := by decide
  have hmirror : Issue.dataCycle ∈ (built mirrorEdits).validate := by decide
  exact ⟨mt (validate_reports_closed_walk repeatEdits).1.2 hrepeat,
    (validate_reports_closed_walk mirrorEdits).1.1 hmirror⟩

end PinFlow.Graph
