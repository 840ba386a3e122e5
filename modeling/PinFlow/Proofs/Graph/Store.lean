import Mathlib.Data.List.Nodup
import PinFlow.Proofs.Graph.Incidence

set_option autoImplicit false

/-!
# The graph as a store

What holds of a graph after any sequence of edits, accepted or refused: its nodes have different
identifiers, every edge joins pins of its own kind, and at most one data edge ends at an input.
Refused edits leave no trace, so that the look-ups speak of the accepted edges only.
-/

namespace PinFlow

inductive Edit where
  | node (n : Node)
  | edge (e : Edge)

def Edge.JoinsPins (e : Edge) (source target : Node) : Prop :=
  match e.kind with
  | .exec => e.sourceHandle ∈ source.execOutputs.map Pin.id ∧
      e.targetHandle ∈ target.execInputs.map Pin.id
  | .data => e.sourceHandle ∈ source.dataOutputs.map Pin.id ∧
      e.targetHandle ∈ target.dataInputs.map Pin.id

namespace Edge

theorem feeds_eq_decide (e : Edge) (node : NodeId) (handle : String) :
    e.feeds node handle = decide (e.kind = .data ∧ e.target = node ∧ e.targetHandle = handle) := by
  cases hkind : e.kind <;> simp [feeds, isExec, hkind, Bool.decide_and, beq_eq_decide]

theorem leaves_eq_decide (e : Edge) (node : NodeId) (handle : String) :
    e.leaves node handle = decide (e.kind = .exec ∧ e.source = node ∧ e.sourceHandle = handle) := by
  cases hkind : e.kind <;> simp [leaves, isExec, hkind, Bool.decide_and, beq_eq_decide]

end Edge

namespace Graph

/-- The reply to an edit, with the kind of an edge that was accepted, and the graph afterwards. -/
def perform (g : Graph) : Edit → Except GraphError (Option EdgeKind) × Graph
  | .node n =>
    match g.addNode n with
    | .ok g' => (.ok none, g')
    | .error cause => (.error cause, g)
  | .edge e =>
    match g.addEdge e with
    | .ok (g', kind) => (.ok (some kind), g')
    | .error cause => (.error cause, g)

def performAll (g : Graph) (edits : List Edit) : Graph :=
  edits.foldl (fun g edit => (g.perform edit).2) g

def addedNode (g : Graph) : Edit → List Node
  | .node n =>
    match g.addNode n with
    | .ok _ => [n]
    | .error _ => []
  | .edge _ => []

/-- The edge of an edit that is accepted, with the kind that is replied. -/
def addedEdge (g : Graph) : Edit → List Edge
  | .node _ => []
  | .edge e =>
    match g.addEdge e with
    | .ok (_, kind) => [{ e with kind }]
    | .error _ => []

def acceptedNodes (g : Graph) : List Edit → List Node
  | [] => []
  | edit :: rest => g.addedNode edit ++ acceptedNodes (g.perform edit).2 rest

def acceptedEdges (g : Graph) : List Edit → List Edge
  | [] => []
  | edit :: rest => g.addedEdge edit ++ acceptedEdges (g.perform edit).2 rest

/-- The ends of the edge are nodes of the graph, and its kind is the one that their pins tell. -/
def Joins (g : Graph) (e : Edge) : Prop :=
  ∃ source target, g.node? e.source = some source ∧ g.node? e.target = some target ∧
    classify source target e = .ok e.kind

structure Sound (g : Graph) : Prop where
  distinct : (g.nodes.map Node.id).Nodup
  joined : ∀ e ∈ g.edges, g.Joins e
  single : ∀ node handle, (g.edges.filter (·.feeds node handle)).length ≤ 1

variable {g g' : Graph} {n : Node} {e : Edge} {kind : EdgeKind}

theorem addNode_eq_ok_iff :
    g.addNode n = .ok g' ↔ g.node? n.id = none ∧ g' = { g with nodes := g.nodes ++ [n] } := by
  unfold addNode
  cases hfound : g.node? n.id with
  | none => simp [eq_comm]
  | some found => simp

theorem addEdge_eq_ok_iff :
    g.addEdge e = .ok (g', kind) ↔
      (∃ source target, g.node? e.source = some source ∧ g.node? e.target = some target ∧
          classify source target e = .ok kind) ∧
        (kind = .data → g.edgeFeeding? e.target e.targetHandle = none) ∧
        g' = { g with edges := g.edges ++ [{ e with kind }] } := by
  unfold addEdge
  cases hsource : g.node? e.source with
  | none => simp
  | some source =>
    cases htarget : g.node? e.target with
    | none => simp
    | some target =>
      cases hkind : classify source target e with
      | error cause => simp [hkind]
      | ok found =>
        cases hfed : g.edgeFeeding? e.target e.targetHandle with
        | none => grind
        | some edge => grind

theorem joinsPins_of_classify {source target : Node} (h : classify source target e = .ok kind) :
    ({ e with kind } : Edge).JoinsPins source target := by
  have hfind : ∀ (pins : List Pin) (id : String), (Node.findPin? pins id).isSome = true →
      id ∈ pins.map Pin.id := by
    intro pins id hsome
    obtain ⟨pin, hpin⟩ := Option.isSome_iff_exists.1 hsome
    have hmem := List.mem_of_find?_eq_some hpin
    have hid := List.find?_some hpin
    exact List.mem_map.2 ⟨pin, hmem, by simpa using hid⟩
  unfold classify at h
  dsimp only at h
  split at h
  · rename_i hexec
    obtain ⟨hsource, htarget⟩ := (Bool.and_eq_true _ _).mp hexec
    cases h
    exact ⟨hfind _ _ hsource, hfind _ _ htarget⟩
  · split at h
    · rename_i hdata
      obtain ⟨hsource, htarget⟩ := (Bool.and_eq_true _ _).mp hdata
      cases h
      exact ⟨hfind _ _ hsource, hfind _ _ htarget⟩
    · split at h
      · cases h
      · split at h
        · cases h
        · cases h

theorem node?_eq_none_iff {id : NodeId} : g.node? id = none ↔ id ∉ g.nodes.map Node.id := by
  unfold node?
  simp [List.find?_eq_none]

theorem node?_append {id : NodeId} (h : g.node? id = some n) (added : Node) :
    ({ g with nodes := g.nodes ++ [added] } : Graph).node? id = some n := by
  unfold node? at h ⊢
  rw [List.find?_append, h]
  rfl

theorem Joins.append (h : g.Joins e) (added : Node) :
    ({ g with nodes := g.nodes ++ [added] } : Graph).Joins e := by
  obtain ⟨source, target, hsource, htarget, hkind⟩ := h
  exact ⟨source, target, node?_append hsource added, node?_append htarget added, hkind⟩

namespace Sound

theorem empty : Sound Graph.empty :=
  ⟨List.nodup_nil, fun _ h => absurd h List.not_mem_nil, fun _ _ => Nat.zero_le 1⟩

theorem addNode (hg : g.Sound) (h : g.addNode n = .ok g') : g'.Sound := by
  obtain ⟨hnew, rfl⟩ := addNode_eq_ok_iff.1 h
  refine ⟨?_, fun e he => (hg.joined e he).append n, hg.single⟩
  rw [List.map_append, List.map_singleton, ← List.concat_eq_append]
  exact hg.distinct.concat (node?_eq_none_iff.1 hnew)

theorem addEdge (hg : g.Sound) (h : g.addEdge e = .ok (g', kind)) : g'.Sound := by
  obtain ⟨hends, hfree, rfl⟩ := addEdge_eq_ok_iff.1 h
  refine ⟨hg.distinct, fun other hother => ?_, fun node handle => ?_⟩
  · rcases List.mem_append.1 hother with hold | hnew
    · exact hg.joined other hold
    · obtain rfl := List.mem_singleton.1 hnew
      exact hends
  · have hsingle := hg.single node handle
    rw [List.filter_append, List.length_append]
    by_cases hfeeds : ({ e with kind } : Edge).feeds node handle = true
    · -- The new edge ends here, so no earlier one does.
      rw [Edge.feeds_eq_decide, decide_eq_true_iff] at hfeeds
      obtain ⟨hdata, rfl, rfl⟩ := hfeeds
      have hnone := hfree hdata
      rw [List.filter_eq_nil_iff.2 (List.find?_eq_none.1 hnone), List.length_nil, Nat.zero_add]
      exact List.length_filter_le _ _
    · rw [List.filter_singleton, Bool.not_eq_true _ |>.mp hfeeds]
      exact hsingle

theorem perform (hg : g.Sound) (edit : Edit) : (g.perform edit).2.Sound := by
  unfold Graph.perform
  cases edit with
  | node n =>
    dsimp only
    split
    · rename_i h
      exact hg.addNode h
    · exact hg
  | edge e =>
    dsimp only
    split
    · rename_i h
      exact hg.addEdge h
    · exact hg

theorem performAll (hg : g.Sound) (edits : List Edit) : (g.performAll edits).Sound := by
  induction edits generalizing g with
  | nil => exact hg
  | cons edit rest ih => exact ih (hg.perform edit)

theorem node?_eq_some_iff (hg : g.Sound) {id : NodeId} :
    g.node? id = some n ↔ n ∈ g.nodes ∧ n.id = id := by
  constructor
  · intro h
    exact ⟨List.mem_of_find?_eq_some h, by simpa using List.find?_some h⟩
  · rintro ⟨hmem, rfl⟩
    obtain ⟨found, hfound⟩ : ∃ found, g.node? n.id = some found := by
      refine Option.ne_none_iff_exists'.1 fun hnone => ?_
      exact node?_eq_none_iff.1 hnone (List.mem_map_of_mem hmem)
    have hid : found.id = n.id := by simpa using List.find?_some hfound
    rw [hfound, List.inj_on_of_nodup_map hg.distinct (List.mem_of_find?_eq_some hfound) hmem hid]

theorem edgeFeeding?_eq_some_iff (hg : g.Sound) {node : NodeId} {handle : Handle} :
    g.edgeFeeding? node handle = some e ↔
      e ∈ g.edges ∧ e.kind = .data ∧ e.target = node ∧ e.targetHandle = handle := by
  rw [← decide_eq_true_iff (p := e.kind = .data ∧ _), ← e.feeds_eq_decide]
  constructor
  · intro h
    unfold edgeFeeding? at h
    have he := List.find?_some h
    exact ⟨List.mem_of_find?_eq_some h, he⟩
  · rintro ⟨hmem, he⟩
    have hsingle := hg.single node handle
    have hfiltered : e ∈ g.edges.filter (·.feeds node handle) := List.mem_filter.2 ⟨hmem, he⟩
    -- The look-up takes the first of the edges that end here, and there is only this one.
    unfold edgeFeeding?
    rw [← List.head?_filter]
    match hall : g.edges.filter (·.feeds node handle) with
    | [] => rw [hall] at hfiltered; cases hfiltered
    | [first] =>
      rw [hall] at hfiltered
      rw [hall, List.mem_singleton.1 hfiltered]
      rfl
    | first :: second :: rest => simp [hall] at hsingle

end Sound

theorem perform_nodes (g : Graph) (edit : Edit) :
    (g.perform edit).2.nodes = g.nodes ++ g.addedNode edit := by
  cases edit with
  | node n =>
    cases h : g.addNode n with
    | error cause => simp [perform, addedNode, h]
    | ok g' => simp [perform, addedNode, h, (addNode_eq_ok_iff.1 h).2]
  | edge e =>
    cases h : g.addEdge e with
    | error cause => simp [perform, addedNode, h]
    | ok result => simp [perform, addedNode, h, (addEdge_eq_ok_iff.1 h).2.2]

theorem perform_edges (g : Graph) (edit : Edit) :
    (g.perform edit).2.edges = g.edges ++ g.addedEdge edit := by
  cases edit with
  | node n =>
    cases h : g.addNode n with
    | error cause => simp [perform, addedEdge, h]
    | ok g' => simp [perform, addedEdge, h, (addNode_eq_ok_iff.1 h).2]
  | edge e =>
    cases h : g.addEdge e with
    | error cause => simp [perform, addedEdge, h]
    | ok result => simp [perform, addedEdge, h, (addEdge_eq_ok_iff.1 h).2.2]

theorem performAll_nodes (g : Graph) (edits : List Edit) :
    (g.performAll edits).nodes = g.nodes ++ g.acceptedNodes edits := by
  induction edits generalizing g with
  | nil => exact (List.append_nil _).symm
  | cons edit rest ih =>
    change ((g.perform edit).2.performAll rest).nodes = _
    rw [ih, perform_nodes, acceptedNodes, List.append_assoc]

theorem performAll_edges (g : Graph) (edits : List Edit) :
    (g.performAll edits).edges = g.edges ++ g.acceptedEdges edits := by
  induction edits generalizing g with
  | nil => exact (List.append_nil _).symm
  | cons edit rest ih =>
    change ((g.perform edit).2.performAll rest).edges = _
    rw [ih, perform_edges, acceptedEdges, List.append_assoc]

def built (edits : List Edit) : Graph := empty.performAll edits

theorem built_sound (edits : List Edit) : (built edits).Sound := Sound.empty.performAll edits

theorem built_edges (edits : List Edit) : (built edits).edges = empty.acceptedEdges edits :=
  performAll_edges empty edits

theorem perform_of_error {edit : Edit} {error : GraphError}
    (h : (g.perform edit).1 = .error error) : (g.perform edit).2 = g := by
  unfold perform at h ⊢
  cases edit with
  | node n =>
    dsimp only at h ⊢
    split at h
    · cases h
    · rfl
  | edge e =>
    dsimp only at h ⊢
    split at h
    · cases h
    · rfl

/-- However a graph was built, it represents its accepted nodes and edges: identifiers are unique,
    edges join pins of their own kind, data inputs have at most one edge, and the look-ups find
    exactly the accepted edges, exec edges in the order of acceptance. A store that lists the edges
    of each node newest first and sorts them by index finds the same. A refused edit changes
    nothing. -/
theorem built_represents_accepted (edits : List Edit) :
    (built edits).nodes = empty.acceptedNodes edits ∧
      (built edits).edges = empty.acceptedEdges edits ∧
      ((built edits).nodes.map Node.id).Nodup ∧
      (∀ id n, (built edits).node? id = some n ↔ n ∈ (built edits).nodes ∧ n.id = id) ∧
      (∀ e ∈ (built edits).edges, ∃ source target, (built edits).node? e.source = some source ∧
        (built edits).node? e.target = some target ∧ e.JoinsPins source target) ∧
      (∀ node handle, ((built edits).edges.filter fun e =>
        e.kind = .data ∧ e.target = node ∧ e.targetHandle = handle).length ≤ 1) ∧
      (∀ edit error, ((built edits).perform edit).1 = .error error →
        built (edits ++ [edit]) = built edits) ∧
      (∀ node handle, (built edits).edgesLeaving node handle =
        (empty.acceptedEdges edits).filter fun e =>
          e.kind = .exec ∧ e.source = node ∧ e.sourceHandle = handle) ∧
      (∀ node handle e, (built edits).edgeFeeding? node handle = some e ↔
        e ∈ empty.acceptedEdges edits ∧ e.kind = .data ∧ e.target = node ∧
          e.targetHandle = handle) ∧
      (∀ node handle, (built edits).edgesLeaving node handle =
        (Incidence.ofEdges (empty.acceptedEdges edits)).edgesLeaving node handle) ∧
      ∀ node handle, (built edits).edgeFeeding? node handle =
        (Incidence.ofEdges (empty.acceptedEdges edits)).edgeFeeding? node handle := by
  have hsound := built_sound edits
  refine ⟨performAll_nodes empty edits, built_edges edits, hsound.distinct,
    fun id n => hsound.node?_eq_some_iff, ?_, ?_, ?_, ?_, ?_, ?_, ?_⟩
  · intro e he
    obtain ⟨source, target, hsource, htarget, hkind⟩ := hsound.joined e he
    exact ⟨source, target, hsource, htarget, joinsPins_of_classify hkind⟩
  · intro node handle
    have hsingle := hsound.single node handle
    simp only [Edge.feeds_eq_decide] at hsingle
    exact hsingle
  · intro edit error herror
    have hlast : built (edits ++ [edit]) = ((built edits).perform edit).2 := List.foldl_append
    rw [hlast, perform_of_error herror]
  · intro node handle
    unfold edgesLeaving
    simp only [Edge.leaves_eq_decide, built_edges]
  · intro node handle e
    rw [hsound.edgeFeeding?_eq_some_iff, built_edges]
  · intro node handle
    rw [← built_edges, Incidence.edgesLeaving_ofEdges]
    rfl
  · intro node handle
    rw [← built_edges, Incidence.edgeFeeding?_ofEdges (hsound.single node handle)]
    rfl

def nameEdge : Edge := ⟨some "e1", "ask", "name", "say", "text", .exec⟩

def sayingEdits : List Edit :=
  [.node { Node.bare "start" "event-ready" with execOutputs := [.exec "out"] },
    .node { Node.bare "ask" "action-ask" with
      execInputs := [.exec "in"]
      dataOutputs := [.required "name" .string] },
    .node (Node.bare "ask" "action-say"), .edge nameEdge,
    .node { Node.bare "say" "action-say" with
      execInputs := [.exec "in"]
      dataInputs := [.required "text" .string] },
    .edge nameEdge, .edge ⟨none, "start", "out", "ask", "in", .data⟩,
    .edge ⟨none, "start", "out", "say", "in", .data⟩]

/-- A name is asked for and said. The words to say are fed once only, and the node where control
    starts lists its two edges the other way round. -/
theorem built_represents_accepted_saying :
    ((built sayingEdits).perform (.edge nameEdge)).1 =
        .error (.inputAlreadyConnected "say" "text") ∧
      built (sayingEdits ++ [.edge nameEdge]) = built sayingEdits ∧
      (built sayingEdits).edgeFeeding? "say" "text" = some { nameEdge with kind := .data } ∧
      ((Incidence.ofEdges (empty.acceptedEdges sayingEdits)).outgoing "start").map
        (fun entry => (entry.1.target, entry.2)) = [("say", 2), ("ask", 1)] ∧
      ((Incidence.ofEdges (empty.acceptedEdges sayingEdits)).edgesLeaving "start" "out").map
        Edge.target = ["ask", "say"] := by
  obtain ⟨-, -, -, -, -, -, hrefused, -, hfed, hleaving, -⟩ :=
    built_represents_accepted sayingEdits
  have hreply : ((built sayingEdits).perform (.edge nameEdge)).1 =
      .error (.inputAlreadyConnected "say" "text") := by rfl
  refine ⟨hreply, hrefused _ _ hreply, (hfed _ _ _).2 ⟨?_, rfl, rfl, rfl⟩, rfl, ?_⟩
  · exact List.mem_cons_self
  · rw [← hleaving]
    rfl

end Graph

end PinFlow
