import Mathlib.Data.List.Perm.Basic
import PinFlow.Proofs.Graph.Written
import PinFlow.Proofs.Run.Likeness
import PinFlow.Run.Dispatcher

set_option autoImplicit false

/-!
# The order of declaration

Nodes may be listed in any order, and so may edges, as long as those that leave one output keep
their order among themselves: the loaded graphs look alike, and every run is the same. What is
loaded is first said without the loop over the edges, and then compared look-up by look-up.
-/

namespace PinFlow

namespace Edge

def startsAt (e : Edge) (node : NodeId) (handle : Handle) : Bool :=
  e.source == node && e.sourceHandle == handle

/-- The same edges in another order, in which those that leave one output keep their order. -/
structure Reordered (edges edges' : List Edge) : Prop where
  perm : edges'.Perm edges
  fanOut : ∀ node handle, edges'.filter (·.startsAt node handle) =
    edges.filter (·.startsAt node handle)

end Edge

namespace Graph

def kindAmong? (nodes : List Node) (e : Edge) : Option EdgeKind :=
  match nodes.find? (·.id = e.source), nodes.find? (·.id = e.target) with
  | some source, some target => (classify source target e).toOption
  | _, _ => none

def Unshared (nodes : List Node) (edges : List Edge) : Prop :=
  edges.Pairwise fun e e' => kindAmong? nodes e = some .data → kindAmong? nodes e' = some .data →
    (e.target, e.targetHandle) ≠ (e'.target, e'.targetHandle)

def classified? (nodes : List Node) (e : Edge) : Option Edge :=
  (kindAmong? nodes e).map fun kind => { e with kind }

variable {g : Graph} {nodes nodes' : List Node} {edges edges' : List Edge} {e : Edge}
  {kind : EdgeKind}

theorem kindAmong?_eq_some_iff :
    kindAmong? g.nodes e = some kind ↔ ∃ source target, g.node? e.source = some source ∧
      g.node? e.target = some target ∧ classify source target e = .ok kind := by
  unfold kindAmong? node?
  cases g.nodes.find? (·.id = e.source) with
  | none => simp
  | some source =>
    cases g.nodes.find? (·.id = e.target) with
    | none => simp
    | some target => cases h : classify source target e <;> simp [Except.toOption, h]

theorem addEdgeOrDrop_eq
    (hfree : kindAmong? g.nodes e = some .data → g.edgeFeeding? e.target e.targetHandle = none) :
    g.addEdgeOrDrop e = { g with edges := g.edges ++ (classified? g.nodes e).toList } := by
  unfold addEdgeOrDrop classified?
  cases hkind : kindAmong? g.nodes e with
  | some kind =>
    have hok : g.addEdge e = .ok ({ g with edges := g.edges ++ [{ e with kind }] }, kind) :=
      addEdge_eq_ok_iff.2 ⟨kindAmong?_eq_some_iff.1 hkind, fun h => hfree (h ▸ hkind), rfl⟩
    rw [hok]
    rfl
  | none =>
    cases hadd : g.addEdge e with
    | ok result =>
      have hjoins := kindAmong?_eq_some_iff.2 (addEdge_eq_ok_iff.1 hadd).1
      rw [hkind] at hjoins
      cases hjoins
    | error cause => simp

theorem foldl_addEdgeOrDrop_eq (h : Unshared g.nodes edges)
    (hfree : ∀ e ∈ edges, kindAmong? g.nodes e = some .data →
      g.edgeFeeding? e.target e.targetHandle = none) :
    edges.foldl addEdgeOrDrop g =
      { g with edges := g.edges ++ edges.filterMap (classified? g.nodes) } := by
  induction edges generalizing g with
  | nil => simp
  | cons e rest ih =>
    obtain ⟨hhead, hrest⟩ := List.pairwise_cons.1 h
    rw [List.foldl_cons, addEdgeOrDrop_eq (hfree e List.mem_cons_self)]
    have hfree' : ∀ later ∈ rest, kindAmong? g.nodes later = some .data →
        edgeFeeding? ⟨g.nodes, g.edges ++ (classified? g.nodes e).toList⟩ later.target
          later.targetHandle = none := by
      intro later hlater hdata
      -- The edge that was just added feeds none of the inputs at which later data edges end.
      have hbefore := hfree later (List.mem_cons_of_mem _ hlater) hdata
      unfold edgeFeeding? at hbefore ⊢
      rw [List.find?_append, hbefore, Option.none_or, List.find?_eq_none]
      intro kept hkept hfeeds
      obtain ⟨kind, hkind, rfl⟩ := Option.map_eq_some_iff.1 (Option.mem_toList.1 hkept)
      rw [Edge.feeds_eq_decide, decide_eq_true_iff] at hfeeds
      obtain ⟨rfl, htarget, hhandle⟩ := hfeeds
      exact hhead later hlater hkind hdata (Prod.ext htarget hhandle)
    rw [ih (g := ⟨g.nodes, g.edges ++ (classified? g.nodes e).toList⟩) hrest hfree']
    cases hkept : classified? g.nodes e <;> simp [hkept]

theorem ofParts_eq (hdistinct : (nodes.map Node.id).Nodup) (h : Unshared nodes edges) :
    ofParts nodes edges = ⟨nodes, edges.filterMap (classified? nodes)⟩ := by
  have hnodes := foldl_addNodeOrDrop empty nodes hdistinct
  unfold ofParts
  rw [hnodes]
  exact foldl_addEdgeOrDrop_eq (g := ⟨nodes, []⟩) h fun _ _ _ => rfl

theorem ofParts_sound (nodes : List Node) (edges : List Edge) : (ofParts nodes edges).Sound := by
  rw [ofParts_eq_built]
  exact built_sound _

theorem find?_perm (hdistinct : (nodes.map Node.id).Nodup) (hperm : nodes'.Perm nodes)
    (id : NodeId) : nodes'.find? (·.id = id) = nodes.find? (·.id = id) := by
  have hdistinct' : (nodes'.map Node.id).Nodup := (hperm.map Node.id).nodup_iff.2 hdistinct
  have hnothing : ∀ e : Edge, e ∉ ([] : List Edge) := fun _ => List.not_mem_nil
  have hg : Sound ⟨nodes, []⟩ := ⟨hdistinct, fun e he => absurd he (hnothing e), by simp⟩
  have hg' : Sound ⟨nodes', []⟩ := ⟨hdistinct', fun e he => absurd he (hnothing e), by simp⟩
  refine Option.ext fun n => ?_
  exact hg'.node?_eq_some_iff.trans ((and_congr_left' hperm.mem_iff).trans
    hg.node?_eq_some_iff.symm)

theorem classified?_perm (hdistinct : (nodes.map Node.id).Nodup) (hperm : nodes'.Perm nodes) :
    classified? nodes' = classified? nodes := by
  funext e
  simp only [classified?, kindAmong?, find?_perm hdistinct hperm]

theorem filter_leaves_classified (nodes : List Node) (edges : List Edge) (node : NodeId)
    (handle : Handle) :
    (edges.filterMap (classified? nodes)).filter (·.leaves node handle) =
      ((edges.filter (·.startsAt node handle)).filterMap (classified? nodes)).filter
        Edge.isExec := by
  simp only [List.filter_filterMap, List.filterMap_filter]
  congr 1
  funext e
  unfold classified?
  cases kindAmong? nodes e with
  | none => simp
  | some kind =>
    have hleaves : ({ e with kind } : Edge).leaves node handle =
        (e.startsAt node handle && ({ e with kind } : Edge).isExec) := by
      unfold Edge.leaves Edge.startsAt
      cases ({ e with kind } : Edge).isExec <;> simp
    cases hstarts : e.startsAt node handle <;> simp [hleaves, hstarts, Option.filter]

theorem looksLike_of_reordered (hdistinct : (nodes.map Node.id).Nodup)
    (hunshared : Unshared nodes edges) (hnodes : nodes'.Perm nodes)
    (hedges : Edge.Reordered edges edges') (limits : Limits) (dice : Nat → Nat) :
    Setup.LooksLike ⟨ofParts nodes edges, limits, dice⟩
      ⟨ofParts nodes' edges', limits, dice⟩ := by
  have hdistinct' : (nodes'.map Node.id).Nodup := (hnodes.map Node.id).nodup_iff.2 hdistinct
  have hkinds := classified?_perm hdistinct hnodes
  have hunshared' : Unshared nodes' edges' := by
    have hsame : kindAmong? nodes' = kindAmong? nodes := by
      funext e
      simp only [kindAmong?, find?_perm hdistinct hnodes]
    unfold Unshared
    rw [hsame]
    exact (hedges.perm.pairwise_iff fun hne he' he => (hne he he').symm).2 hunshared
  have hsound := ofParts_sound nodes edges
  have hsound' := ofParts_sound nodes' edges'
  rw [ofParts_eq hdistinct hunshared] at hsound ⊢
  rw [ofParts_eq hdistinct' hunshared', hkinds] at hsound' ⊢
  refine ⟨find?_perm hdistinct hnodes, fun node handle => ?_, fun node handle => ?_, rfl, .inl rfl⟩
  · change (edges'.filterMap _).filter _ = (edges.filterMap _).filter _
    rw [filter_leaves_classified, filter_leaves_classified, hedges.fanOut]
  · refine Option.ext fun e => ?_
    have hmem := (hedges.perm.filterMap (classified? nodes)).mem_iff (a := e)
    exact hsound'.edgeFeeding?_eq_some_iff.trans ((and_congr_left' hmem).trans
      hsound.edgeFeeding?_eq_some_iff.symm)

end Graph

namespace Setup

/-- Among nodes with different identifiers, of whose inputs none is fed twice, the order of
    declaration matters only for the edges of one output: otherwise every run is the same, and so is
    what comes of playing it. -/
theorem run_declaration_order {nodes nodes' : List Node} {edges edges' : List Edge}
    (hdistinct : (nodes.map Node.id).Nodup) (hunshared : Graph.Unshared nodes edges)
    (hnodes : nodes'.Perm nodes) (hedges : Edge.Reordered edges edges') (limits : Limits)
    (dice : Nat → Nat) (entry : NodeId) (trigger : Trigger) :
    start ⟨.ofParts nodes' edges', limits, dice⟩ entry trigger =
        start ⟨.ofParts nodes edges, limits, dice⟩ entry trigger ∧
      ∀ d : Dispatcher, (start ⟨.ofParts nodes' edges', limits, dice⟩ entry trigger).play d =
        (start ⟨.ofParts nodes edges, limits, dice⟩ entry trigger).play d := by
  have hlike := Graph.looksLike_of_reordered hdistinct hunshared hnodes hedges limits dice
  have hsame := hlike.start entry trigger
  refine ⟨hsame, fun d => ?_⟩
  rw [hsame]

def startNode : Node := { Node.bare "start" "event-ready" with execOutputs := [.exec "out"] }

def askNode : Node :=
  { Node.bare "ask" "action-ask" with
    execInputs := [.exec "in"]
    dataOutputs := [.required "name" .string] }

def tellNode : Node :=
  { Node.bare "tell" "action-tell" with
    execInputs := [.exec "in"]
    dataInputs := [.required "text" .string] }

def askEdge : Edge := ⟨none, "start", "out", "ask", "in", .data⟩

def tellEdge : Edge := ⟨none, "start", "out", "tell", "in", .data⟩

def textEdge : Edge := ⟨none, "ask", "name", "tell", "text", .data⟩

def annAnswers : Dispatcher :=
  .scripted fun definition =>
    if definition = "action-ask" then [.ok [("name", .string "Ann")]] else []

/-- In either order of declaration a name is asked for, and then it is told. -/
theorem run_declaration_order_asking :
    (([startNode, askNode, tellNode].map Node.id).Nodup ∧
      Graph.Unshared [startNode, askNode, tellNode] [askEdge, tellEdge, textEdge]) ∧
    ([tellNode, startNode, askNode].Perm [startNode, askNode, tellNode] ∧
      Edge.Reordered [askEdge, tellEdge, textEdge] [textEdge, askEdge, tellEdge]) ∧
    start ⟨.ofParts [tellNode, startNode, askNode] [textEdge, askEdge, tellEdge], .standard,
        fun _ => 0⟩ "start" [] =
      start ⟨.ofParts [startNode, askNode, tellNode] [askEdge, tellEdge, textEdge], .standard,
        fun _ => 0⟩ "start" [] ∧
    ∃ played : Played (Except RunError RunState),
      (start ⟨.ofParts [tellNode, startNode, askNode] [textEdge, askEdge, tellEdge], .standard,
        fun _ => 0⟩ "start" []).play annAnswers = played ∧
      (∃ st, played.result = .ok st ∧ st.executed = ["start", "ask", "tell"] ∧ st.warnings = []) ∧
      played.calls.map (fun timed => (timed.call.node, timed.call.inputs)) =
        [("ask", []), ("tell", [("text", .string "Ann")])] := by
  have hdistinct : ([startNode, askNode, tellNode].map Node.id).Nodup := by decide
  have hunshared : Graph.Unshared [startNode, askNode, tellNode]
      [askEdge, tellEdge, textEdge] := by
    unfold Graph.Unshared
    decide
  have hnodes : [tellNode, startNode, askNode].Perm [startNode, askNode, tellNode] :=
    (List.perm_append_comm : ([tellNode] ++ [startNode, askNode]).Perm _)
  have hedges : Edge.Reordered [askEdge, tellEdge, textEdge] [textEdge, askEdge, tellEdge] := by
    refine ⟨(List.perm_append_comm : ([textEdge] ++ [askEdge, tellEdge]).Perm _), ?_⟩
    intro node handle
    by_cases hnode : node = "ask"
    · subst hnode
      simp [List.filter_cons, Edge.startsAt, askEdge, tellEdge]
    · have htext : textEdge.startsAt node handle = false := by
        simp [Edge.startsAt, textEdge, Ne.symm hnode]
      simp [List.filter_cons, htext]
  obtain ⟨hsame, hplay⟩ :=
    run_declaration_order hdistinct hunshared hnodes hedges .standard (fun _ => 0) "start" []
  exact ⟨⟨hdistinct, hunshared⟩, ⟨hnodes, hedges⟩, hsame, _, hplay annAnswers, ⟨_, rfl, rfl, rfl⟩, rfl⟩

end Setup

end PinFlow
