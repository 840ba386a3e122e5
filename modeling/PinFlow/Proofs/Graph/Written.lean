import PinFlow.Proofs.Graph.Store

set_option autoImplicit false

/-!
# Written graphs

Reading what was written gives back pins, nodes, edges up to their kinds, and graphs. The kinds are
not written: they are found again, because the edges are added to the same nodes as before, and each
after the same edges. A graph that was loaded, whatever was dropped on the way, is therefore written
and loaded without further change.
-/

namespace PinFlow

namespace Shape

variable {α β : Type}

theorem field_keyed {fields : Fields Value} {r : Record} {f : Field α} {key : String} {v : Value}
    {a : α} (honce : (fields.filter fun entry => f.isNamed entry.1) = [(key, v)])
    (hread : f.read v = .ok a) : (Form.keyed fields).field r f = .ok a := by
  simp only [Form.field, honce, hread, Checked.ofExcept]

theorem items_map {read : Reader α} {write : β → Value} {f : β → α}
    (h : ∀ b, read (write b) = .ok (f b)) (bs : List β) :
    items read (bs.map write) = .ok (bs.map f) := by
  induction bs with
  | nil => rfl
  | cons b rest ih =>
    simp only [List.map_cons, items, h, ih]
    rfl

end Shape

open Shape

theorem PinType.read_toValue (t : PinType) : PinType.read t.toValue = .ok t := by
  cases t <;> rfl

theorem Pin.read_toValue (p : Pin) : Pin.read p.toValue = .ok p := by
  have htype := PinType.read_toValue p.type
  change (Pin.ofForm (.keyed _)).report = _
  unfold Pin.ofForm
  rw [field_keyed (by rfl) (by rfl), field_keyed (by rfl) htype, field_keyed (by rfl) (by rfl),
    field_keyed (by rfl) (by rfl)]
  rfl

theorem Pin.sequence_read_toValue (pins : List Pin) :
    sequence Pin.read (.array (pins.map Pin.toValue)) = .ok pins := by
  have h := items_map (f := fun p => p) Pin.read_toValue pins
  rwa [List.map_id'] at h

theorem Node.read_toValue (n : Node) : Node.read n.toValue = .ok n := by
  change (Node.ofForm (.keyed _)).report = _
  unfold Node.ofForm
  rw [field_keyed (by rfl) (by rfl), field_keyed (by rfl) (by rfl),
    field_keyed (by rfl) (Pin.sequence_read_toValue n.execInputs),
    field_keyed (by rfl) (Pin.sequence_read_toValue n.execOutputs),
    field_keyed (by rfl) (Pin.sequence_read_toValue n.dataInputs),
    field_keyed (by rfl) (Pin.sequence_read_toValue n.dataOutputs),
    field_keyed (by rfl) (by rfl)]
  rfl

/-- The edge as it is before it becomes part of a graph. -/
def Edge.unclassified (e : Edge) : Edge := { e with kind := .data }

theorem Edge.read_toValue (e : Edge) : Edge.read e.toValue = .ok e.unclassified := by
  change (Edge.ofForm (.keyed _)).report = _
  unfold Edge.ofForm
  obtain ⟨id, source, sourceHandle, target, targetHandle, kind⟩ := e
  cases id with
  | none => rfl
  | some id => rfl

theorem Node.sequence_read_toValue (nodes : List Node) :
    sequence Node.read (.array (nodes.map Node.toValue)) = .ok nodes := by
  have h := items_map (f := fun n => n) Node.read_toValue nodes
  rwa [List.map_id'] at h

theorem GraphParts.read_toValue (p : GraphParts) :
    GraphParts.read p.toValue = .ok ⟨p.nodes, p.edges.map Edge.unclassified⟩ := by
  have hedges : sequence Edge.read (.array (p.edges.map Edge.toValue)) =
      .ok (p.edges.map Edge.unclassified) := items_map Edge.read_toValue p.edges
  change (GraphParts.ofForm (.keyed _)).report = _
  unfold GraphParts.ofForm
  rw [field_keyed (by rfl) (Node.sequence_read_toValue p.nodes), field_keyed (by rfl) hedges]
  rfl

namespace Graph

variable {g : Graph}

theorem foldl_addEdgeOrDrop_unclassified (g : Graph) (edges : List Edge) :
    (edges.map Edge.unclassified).foldl addEdgeOrDrop g = edges.foldl addEdgeOrDrop g := by
  -- The kind that an edge had before is overwritten.
  rw [List.foldl_map]
  rfl

theorem foldl_addNodeOrDrop (g : Graph) (nodes : List Node)
    (h : ((g.nodes ++ nodes).map Node.id).Nodup) :
    nodes.foldl addNodeOrDrop g = { g with nodes := g.nodes ++ nodes } := by
  induction nodes generalizing g with
  | nil => rw [List.foldl_nil, List.append_nil]
  | cons n rest ih =>
    have hnew : g.node? n.id = none := by
      rw [node?_eq_none_iff]
      intro hmem
      rw [List.map_append, List.map_cons] at h
      exact (List.disjoint_of_nodup_append h) hmem List.mem_cons_self
    have hadd : g.addNodeOrDrop n = { g with nodes := g.nodes ++ [n] } := by
      simp only [addNodeOrDrop, addNode, hnew]
    rw [List.foldl_cons, hadd, ih]
    · simp only [List.append_assoc, List.singleton_append]
    · simpa only [List.append_assoc, List.singleton_append] using h

theorem foldl_addEdgeOrDrop (g : Graph) (edges : List Edge)
    (h : Sound { g with edges := g.edges ++ edges }) :
    edges.foldl addEdgeOrDrop g = { g with edges := g.edges ++ edges } := by
  induction edges generalizing g with
  | nil => rw [List.foldl_nil, List.append_nil]
  | cons e rest ih =>
    have hends : g.Joins e := h.joined e (List.mem_append_right _ List.mem_cons_self)
    have hfree : e.kind = .data → g.edgeFeeding? e.target e.targetHandle = none := by
      intro hdata
      have hfeeds : e.feeds e.target e.targetHandle = true := by simp [e.feeds_eq_decide, hdata]
      have hsingle := h.single e.target e.targetHandle
      rw [List.filter_append, List.filter_cons, if_pos hfeeds, List.length_append,
        List.length_cons] at hsingle
      have hnil : g.edges.filter (·.feeds e.target e.targetHandle) = [] :=
        List.length_eq_zero_iff.1 (by omega)
      exact List.find?_eq_none.2 (List.filter_eq_nil_iff.1 hnil)
    have hadd : g.addEdgeOrDrop e = { g with edges := g.edges ++ [e] } := by
      have hok := addEdge_eq_ok_iff.2 ⟨hends, hfree, rfl⟩
      simp only [addEdgeOrDrop, hok]
    rw [List.foldl_cons, hadd, ih]
    · simp only [List.append_assoc, List.singleton_append]
    · simpa only [List.append_assoc, List.singleton_append] using h

theorem Sound.ofParts_eq (hg : g.Sound) : ofParts g.nodes g.edges = g := by
  have hnodes := foldl_addNodeOrDrop Graph.empty g.nodes hg.distinct
  have hedges := foldl_addEdgeOrDrop ⟨g.nodes, []⟩ g.edges hg
  unfold ofParts
  rw [hnodes]
  exact hedges

theorem Sound.read_toValue (hg : g.Sound) : Graph.read g.toValue = .ok g := by
  have hparts := GraphParts.read_toValue g.parts
  have hload : ofParts g.nodes (g.edges.map Edge.unclassified) = g := by
    unfold ofParts
    rw [foldl_addEdgeOrDrop_unclassified]
    exact hg.ofParts_eq
  change (GraphParts.read g.parts.toValue).map _ = _
  rw [hparts]
  exact congrArg Except.ok hload

/-- Loading is building, first with the nodes and then with the edges. -/
theorem ofParts_eq_built (nodes : List Node) (edges : List Edge) :
    ofParts nodes edges = built (nodes.map .node ++ edges.map .edge) := by
  have hnode : ∀ (g : Graph) n, (g.perform (.node n)).2 = g.addNodeOrDrop n := by
    intro g n
    cases h : g.addNode n <;> simp only [perform, addNodeOrDrop, h]
  have hedge : ∀ (g : Graph) e, (g.perform (.edge e)).2 = g.addEdgeOrDrop e := by
    intro g e
    cases h : g.addEdge e <;> simp only [perform, addEdgeOrDrop, h]
  unfold built performAll ofParts
  rw [List.foldl_append, List.foldl_map, List.foldl_map]
  simp only [hnode, hedge]

theorem sound_of_read {v : Value} (h : Graph.read v = .ok g) : g.Sound := by
  unfold Graph.read at h
  cases hparts : GraphParts.read v with
  | error cause =>
    rw [hparts] at h
    cases h
  | ok p =>
    rw [hparts] at h
    cases h
    dsimp only
    rw [ofParts_eq_built]
    exact built_sound _

/-- Nothing is lost by writing: parts of graphs and whole graphs are read back as they were, edges
    outside of a graph up to their kinds. What was loaded from any value, of which anything may have
    been dropped, is written and loaded without change from then on. -/
theorem written_reads_back :
    (∀ edits, ofParts (built edits).nodes (built edits).edges = built edits) ∧
      (∀ p : Pin, Pin.read p.toValue = .ok p) ∧ (∀ n : Node, Node.read n.toValue = .ok n) ∧
      (∀ e : Edge, Edge.read e.toValue = .ok { e with kind := .data }) ∧
      (∀ p : GraphParts, GraphParts.read p.toValue =
        .ok ⟨p.nodes, p.edges.map fun e => { e with kind := .data }⟩) ∧
      (∀ edits, Graph.read (built edits).toValue = .ok (built edits)) ∧
      ∀ v w, (Graph.read v).map Graph.toValue = .ok w →
        (Graph.read w).map Graph.toValue = .ok w := by
  refine ⟨fun edits => (built_sound edits).ofParts_eq, Pin.read_toValue, Node.read_toValue,
    Edge.read_toValue, GraphParts.read_toValue, fun edits => (built_sound edits).read_toValue, ?_⟩
  intro v w h
  cases hread : Graph.read v with
  | error cause =>
    rw [hread] at h
    cases h
  | ok g =>
    rw [hread] at h
    cases h
    rw [(sound_of_read hread).read_toValue]
    rfl

/-- A graph in its array form, with parts in either form and under other names. A node is listed
    twice, an input is fed twice, and an edge ends nowhere. -/
def untidyValue : Value :=
  .array [
    .array [
      .object [("data", .object [("value", .null)]),
        ("execOutputs", .array [.array [.string "out", .string "exec"]]),
        ("id", .string "start"), ("type", .string "event-ready")],
      .array [.string "say", .string "action-say", .array [.array [.string "in", .string "exec"]],
        .array [], .array [.object [("id", .string "text")]]],
      .array [.string "start", .string "action-say"],
      .object [("dataOutputs", .array [.object [("id", .string "value"), ("optional", .bool true)]]),
        ("definition", .string "constant-string"), ("id", .string "mark")]],
    .array [
      .array [.null, .string "start", .string "out", .string "say", .string "in"],
      .object [("source", .string "mark"), ("sourceHandle", .string "value"),
        ("target", .string "say"), ("targetHandle", .string "text")],
      .array [.string "twice", .string "mark", .string "value", .string "say", .string "text"],
      .array [.null, .string "start", .string "out", .string "hear", .string "in"]]]

def tidied : Graph where
  nodes :=
    [{ Node.bare "start" "event-ready" with
        execOutputs := [⟨"out", .exec, "", false⟩]
        config := [("value", .null)] },
      { Node.bare "say" "action-say" with
        execInputs := [⟨"in", .exec, "", false⟩]
        dataInputs := [⟨"text", .any, "", false⟩] },
      { Node.bare "mark" "constant-string" with dataOutputs := [⟨"value", .any, "", true⟩] }]
  edges :=
    [⟨none, "start", "out", "say", "in", .exec⟩, ⟨none, "mark", "value", "say", "text", .data⟩]

/-- Three nodes and an edge of each kind are kept, and written and loaded without change. -/
theorem written_reads_back_untidy :
    Graph.read untidyValue = .ok tidied ∧
      (Graph.read tidied.toValue).map Graph.toValue = .ok tidied.toValue := by
  obtain ⟨-, -, -, -, -, -, hfixed⟩ := written_reads_back
  have hread : Graph.read untidyValue = .ok tidied := by rfl
  exact ⟨hread, hfixed untidyValue _ (by rw [hread]; rfl)⟩

end Graph

end PinFlow
