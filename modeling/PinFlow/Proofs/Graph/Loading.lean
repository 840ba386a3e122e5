import Mathlib.Data.List.Induction
import PinFlow.Proofs.Graph.Written

set_option autoImplicit false

/-!
# What loading keeps

Loading tries the listed nodes and then the listed edges one after another. Here the outcome is
said without a store: a listed part is kept or not by what it is and by what is listed before it.
-/

namespace PinFlow

/-- What is made of each member of a list in view of the members before it. -/
def inView {α β : Type} (choose : List α → α → Option β) (xs : List α) : List β :=
  xs.zipIdx.filterMap fun item => choose (xs.take item.2) item.1

theorem inView_concat {α β : Type} (choose : List α → α → Option β) (xs : List α) (x : α) :
    inView choose (xs ++ [x]) = inView choose xs ++ (choose xs x).toList := by
  unfold inView
  rw [List.zipIdx_append, List.filterMap_append]
  congr 1
  · apply List.filterMap_congr
    intro item hitem
    have hlt := List.snd_lt_of_mem_zipIdx hitem
    rw [List.take_append_of_le_length (by omega)]
  · simp [List.filterMap_cons]
    cases choose xs x <;> rfl

namespace Graph

def firstNode? (earlier : List Node) (n : Node) : Option Node :=
  if n.id ∈ earlier.map Node.id then none else some n

/-- The edge goes from an output of one of the nodes to an input of one of them, where `outputs` and
    `inputs` are the pins of one sort. -/
def JoinsSort (outputs inputs : Node → List Pin) (nodes : List Node) (e : Edge) : Prop :=
  (∃ source ∈ nodes, source.id = e.source ∧ e.sourceHandle ∈ (outputs source).map Pin.id) ∧
    ∃ target ∈ nodes, target.id = e.target ∧ e.targetHandle ∈ (inputs target).map Pin.id

def JoinsExec (nodes : List Node) (e : Edge) : Prop :=
  JoinsSort Node.execOutputs Node.execInputs nodes e

def JoinsData (nodes : List Node) (e : Edge) : Prop :=
  ¬ JoinsExec nodes e ∧ JoinsSort Node.dataOutputs Node.dataInputs nodes e

instance (outputs inputs : Node → List Pin) (nodes : List Node) (e : Edge) :
    Decidable (JoinsSort outputs inputs nodes e) :=
  inferInstanceAs (Decidable (_ ∧ _))

instance (nodes : List Node) (e : Edge) : Decidable (JoinsExec nodes e) :=
  inferInstanceAs (Decidable (JoinsSort _ _ nodes e))

instance (nodes : List Node) (e : Edge) : Decidable (JoinsData nodes e) :=
  inferInstanceAs (Decidable (_ ∧ _))

/-- Keeps an exec edge always, and a data edge unless one that is listed before it has the same
    end. -/
def validEdge? (nodes : List Node) (earlier : List Edge) (e : Edge) : Option Edge :=
  if JoinsExec nodes e then some { e with kind := .exec }
  else if JoinsData nodes e ∧ ∀ other ∈ earlier, JoinsData nodes other →
      (other.target, other.targetHandle) ≠ (e.target, e.targetHandle) then
    some { e with kind := .data }
  else none

variable {g : Graph} {nodes : List Node} {e : Edge}

theorem mem_ids_inView (nodes : List Node) (id : NodeId) :
    id ∈ (inView firstNode? nodes).map Node.id ↔ id ∈ nodes.map Node.id := by
  induction nodes using List.reverseRecOn with
  | nil => rfl
  | append_singleton nodes n ih =>
    rw [inView_concat, List.map_append, List.map_append, List.mem_append, List.mem_append, ih]
    by_cases htaken : n.id ∈ nodes.map Node.id
    · simp only [firstNode?, htaken, if_true, Option.toList_none, List.map_nil, List.not_mem_nil,
        or_false, List.map_cons, List.mem_singleton]
      exact ⟨Or.inl, fun h => h.elim (fun h => h) fun h => h ▸ htaken⟩
    · simp only [firstNode?, htaken, if_false, Option.toList_some]

theorem addNodeOrDrop_eq (g : Graph) (n : Node) :
    g.addNodeOrDrop n = { g with nodes := g.nodes ++ (firstNode? g.nodes n).toList } := by
  unfold addNodeOrDrop firstNode?
  by_cases htaken : n.id ∈ g.nodes.map Node.id
  · obtain ⟨found, hfound⟩ := Option.ne_none_iff_exists'.1 (mt node?_eq_none_iff.1 (not_not.2 htaken))
    simp [addNode, hfound, htaken]
  · simp [addNode, node?_eq_none_iff.2 htaken, htaken]

theorem foldl_addNodeOrDrop_eq_inView (nodes : List Node) :
    nodes.foldl addNodeOrDrop empty = ⟨inView firstNode? nodes, []⟩ := by
  induction nodes using List.reverseRecOn with
  | nil => rfl
  | append_singleton nodes n ih =>
    have hsame : firstNode? (inView firstNode? nodes) n = firstNode? nodes n := by
      simp only [firstNode?, mem_ids_inView]
    rw [List.foldl_append, ih, inView_concat, List.foldl_cons, List.foldl_nil, addNodeOrDrop_eq,
      hsame]

theorem isSome_findPin? (pins : List Pin) (id : String) :
    (Node.findPin? pins id).isSome = true ↔ id ∈ pins.map Pin.id := by
  simp [Node.findPin?]

theorem classify_eq_exec_iff {source target : Node} :
    classify source target e = .ok .exec ↔ e.sourceHandle ∈ source.execOutputs.map Pin.id ∧
      e.targetHandle ∈ target.execInputs.map Pin.id := by
  rw [← isSome_findPin?, ← isSome_findPin?]
  unfold classify Node.execOutput? Node.execInput?
  grind

theorem classify_eq_data_iff {source target : Node} :
    classify source target e = .ok .data ↔ classify source target e ≠ .ok .exec ∧
      e.sourceHandle ∈ source.dataOutputs.map Pin.id ∧
        e.targetHandle ∈ target.dataInputs.map Pin.id := by
  rw [← isSome_findPin?, ← isSome_findPin?]
  unfold classify Node.dataOutput? Node.dataInput?
  grind

theorem joinsSort_iff (hdistinct : (g.nodes.map Node.id).Nodup)
    {outputs inputs : Node → List Pin} :
    JoinsSort outputs inputs g.nodes e ↔
      (∃ source, g.node? e.source = some source ∧ e.sourceHandle ∈ (outputs source).map Pin.id) ∧
        ∃ target, g.node? e.target = some target ∧
          e.targetHandle ∈ (inputs target).map Pin.id := by
  have hsound : Sound ⟨g.nodes, []⟩ :=
    ⟨hdistinct, fun e he => absurd he List.not_mem_nil, fun _ _ => Nat.zero_le 1⟩
  have hnode : ∀ id n, g.node? id = some n ↔ n ∈ g.nodes ∧ n.id = id :=
    fun id n => hsound.node?_eq_some_iff
  simp only [JoinsSort, hnode, and_assoc]

theorem joins_exec_iff (hdistinct : (g.nodes.map Node.id).Nodup) :
    g.Joins { e with kind := .exec } ↔ JoinsExec g.nodes e := by
  have hclassify : ∀ source target, classify source target { e with kind := .exec } =
      classify source target e := fun _ _ => rfl
  unfold JoinsExec Joins
  rw [joinsSort_iff hdistinct]
  cases g.node? e.source with
  | none => simp
  | some source => cases g.node? e.target <;> simp [hclassify, classify_eq_exec_iff]

theorem joins_data_iff (hdistinct : (g.nodes.map Node.id).Nodup) :
    g.Joins { e with kind := .data } ↔ JoinsData g.nodes e := by
  have hclassify : ∀ source target kind, classify source target { e with kind } =
      classify source target e := fun _ _ _ => rfl
  unfold JoinsData
  rw [joinsSort_iff hdistinct, ← joins_exec_iff hdistinct]
  unfold Joins
  cases g.node? e.source with
  | none => simp
  | some source =>
    cases g.node? e.target with
    | none => simp
    | some target => simp [hclassify, classify_eq_data_iff]

theorem addEdgeOrDrop_eq_of_distinct (hdistinct : (g.nodes.map Node.id).Nodup) (e : Edge) :
    g.addEdgeOrDrop e = { g with
      edges := g.edges ++
        if JoinsExec g.nodes e then [{ e with kind := .exec }]
        else if JoinsData g.nodes e ∧ g.edgeFeeding? e.target e.targetHandle = none then
          [{ e with kind := .data }]
        else [] } := by
  unfold addEdgeOrDrop
  split_ifs with hexec hdata
  · have hok : g.addEdge e =
        .ok ({ g with edges := g.edges ++ [{ e with kind := .exec }] }, .exec) :=
      addEdge_eq_ok_iff.2 ⟨(joins_exec_iff hdistinct).2 hexec, by simp, rfl⟩
    rw [hok]
  · have hok : g.addEdge e =
        .ok ({ g with edges := g.edges ++ [{ e with kind := .data }] }, .data) :=
      addEdge_eq_ok_iff.2 ⟨(joins_data_iff hdistinct).2 hdata.1, fun _ => hdata.2, rfl⟩
    rw [hok]
  · cases hadd : g.addEdge e with
    | error cause => simp
    | ok result =>
      obtain ⟨g', kind⟩ := result
      obtain ⟨hjoins, hfree, -⟩ := addEdge_eq_ok_iff.1 hadd
      cases kind with
      | exec => exact absurd ((joins_exec_iff hdistinct).1 hjoins) hexec
      | data => exact absurd ⟨(joins_data_iff hdistinct).1 hjoins, hfree rfl⟩ hdata

/-- An edge is kept for an input exactly if a data edge that ends there is listed: the first of them
    is kept, and dropped ones do not count. -/
theorem exists_feeds_inView (nodes : List Node) (edges : List Edge) (node : NodeId)
    (handle : Handle) :
    (∃ e ∈ inView (validEdge? nodes) edges, e.feeds node handle = true) ↔
      ∃ e ∈ edges, JoinsData nodes e ∧ (e.target, e.targetHandle) = (node, handle) := by
  induction edges using List.reverseRecOn with
  | nil => simp [inView]
  | append_singleton edges last ih =>
    simp only [inView_concat, List.mem_append, or_and_right, exists_or, ih, List.mem_singleton,
      exists_eq_left, Option.mem_toList]
    constructor
    · rintro (hearlier | ⟨kept, hkept, hfeeds⟩)
      · exact .inl hearlier
      · rw [Edge.feeds_eq_decide, decide_eq_true_iff] at hfeeds
        unfold validEdge? at hkept
        split_ifs at hkept with hexec hdata
        · cases hkept
          cases hfeeds.1
        · cases hkept
          exact .inr ⟨hdata.1, Prod.ext hfeeds.2.1 hfeeds.2.2⟩
    · rintro (hearlier | ⟨hdata, hend⟩)
      · exact .inl hearlier
      · by_cases hfree : ∀ other ∈ edges, JoinsData nodes other →
            (other.target, other.targetHandle) ≠ (last.target, last.targetHandle)
        · refine .inr ⟨{ last with kind := .data }, ?_, ?_⟩
          · unfold validEdge?
            rw [if_neg hdata.1, if_pos ⟨hdata, hfree⟩]
          · simpa [Edge.feeds_eq_decide] using hend
        · push Not at hfree
          obtain ⟨other, hmem, hother, hsame⟩ := hfree
          exact .inl ⟨other, hmem, hother, hsame.trans hend⟩

theorem foldl_addEdgeOrDrop_eq_inView {nodes : List Node} (hdistinct : (nodes.map Node.id).Nodup)
    (edges : List Edge) :
    edges.foldl addEdgeOrDrop ⟨nodes, []⟩ = ⟨nodes, inView (validEdge? nodes) edges⟩ := by
  induction edges using List.reverseRecOn with
  | nil => rfl
  | append_singleton edges e ih =>
    have hfree : edgeFeeding? ⟨nodes, inView (validEdge? nodes) edges⟩ e.target e.targetHandle =
        none ↔ ∀ other ∈ edges, JoinsData nodes other →
          (other.target, other.targetHandle) ≠ (e.target, e.targetHandle) := by
      have hfed := exists_feeds_inView nodes edges e.target e.targetHandle
      unfold edgeFeeding?
      rw [List.find?_eq_none]
      constructor
      · intro hnone other hmem hdata hend
        obtain ⟨kept, hkept, hfeeds⟩ := hfed.2 ⟨other, hmem, hdata, hend⟩
        exact hnone kept hkept hfeeds
      · intro hnone kept hkept hfeeds
        obtain ⟨other, hmem, hdata, hend⟩ := hfed.1 ⟨kept, hkept, hfeeds⟩
        exact hnone other hmem hdata hend
    have hstep := addEdgeOrDrop_eq_of_distinct (g := ⟨nodes, inView (validEdge? nodes) edges⟩)
      hdistinct e
    rw [List.foldl_append, ih, inView_concat, List.foldl_cons, List.foldl_nil, hstep]
    simp only [hfree, validEdge?]
    split_ifs <;> rfl

theorem inView_firstNode?_nodup (nodes : List Node) :
    ((inView firstNode? nodes).map Node.id).Nodup := by
  induction nodes using List.reverseRecOn with
  | nil => exact List.nodup_nil
  | append_singleton nodes n ih =>
    rw [inView_concat, firstNode?]
    split_ifs with htaken
    · simpa using ih
    · have hnew : n.id ∉ (inView firstNode? nodes).map Node.id := by
        rwa [mem_ids_inView]
      rw [Option.toList_some, List.map_append, List.map_singleton, ← List.concat_eq_append]
      exact ih.concat hnew

/-- Loading keeps the first node of each identifier, every exec edge between kept nodes, and the first
    data edge that ends at each input, all in the order of the lists. Which kinds the edges had
    before does not matter. -/
theorem ofParts_keeps_valid (nodes : List Node) (edges : List Edge) :
    (ofParts nodes edges).nodes = inView firstNode? nodes ∧
      (ofParts nodes edges).edges = inView (validEdge? (inView firstNode? nodes)) edges ∧
      ofParts nodes (edges.map fun e => { e with kind := .data }) = ofParts nodes edges := by
  have hload : ofParts nodes edges =
      ⟨inView firstNode? nodes, inView (validEdge? (inView firstNode? nodes)) edges⟩ := by
    unfold ofParts
    rw [foldl_addNodeOrDrop_eq_inView]
    exact foldl_addEdgeOrDrop_eq_inView (inView_firstNode?_nodup nodes) edges
  refine ⟨by rw [hload], by rw [hload], ?_⟩
  unfold ofParts
  exact foldl_addEdgeOrDrop_unclassified _ edges

-- An edge that is dropped does not keep the next one from its input.
example :
    (ofParts
        [{ Node.bare "ask" "action-ask" with dataOutputs := [.required "name" .string] },
          Node.bare "ask" "action-say",
          { Node.bare "say" "action-say" with dataInputs := [.required "text" .string] }]
        [{ nameEdge with sourceHandle := "age" }, nameEdge, { nameEdge with id := none }]).edges =
      [{ nameEdge with kind := .data }] := by
  rfl

end Graph

end PinFlow
