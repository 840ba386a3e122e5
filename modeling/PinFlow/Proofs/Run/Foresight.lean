import PinFlow.Proofs.Graph.Cycle
import PinFlow.Proofs.Reading.Report
import PinFlow.Proofs.Run.Logic

set_option autoImplicit false

/-!
# Validation foresees warnings

Validation looks at nodes and edges one by one, a run at pins on demand. They agree nevertheless: a
run records a cycle of data, an unknown definition, an event without a way out or a required input
that is missing only where validation has found the reason, or where the input has an edge and
nothing came along it.
-/

namespace PinFlow

namespace Graph

variable {g : Graph}

def Connected (g : Graph) (node : NodeId) (handle : Handle) : Prop :=
  ∃ e ∈ g.dataEdges, e.target = node ∧ e.targetHandle = handle

theorem connected_of_edgeFeeding? {node : NodeId} {handle : Handle} {e : Edge}
    (h : g.edgeFeeding? node handle = some e) :
    e ∈ g.dataEdges ∧ e.target = node ∧ e.targetHandle = handle := by
  have hfeeds := List.find?_some h
  simp only [Edge.feeds, Bool.and_eq_true, beq_iff_eq] at hfeeds
  obtain ⟨⟨hdata, htarget⟩, hhandle⟩ := hfeeds
  exact ⟨List.mem_filter.2 ⟨List.mem_of_find?_eq_some h, hdata⟩, htarget, hhandle⟩

theorem Feeds.linked {input key : PinKey} (h : g.Feeds input key) :
    Linked g.dataEdges input.1 key.1 := by
  obtain ⟨source, kind, horigin, pin, -, rfl⟩ := h
  unfold origin at horigin
  split at horigin
  · cases horigin
  · rename_i e hedge
    obtain ⟨hmem, htarget, -⟩ := connected_of_edgeFeeding? hedge
    split at horigin
    · rename_i found hfound
      have hsource : found = source := by
        unfold Origin.ofOutput at horigin
        split at horigin
        all_goals cases horigin
        rfl
      rw [hsource] at hfound
      exact ⟨e, hmem, (g.node?_id hfound).symm, htarget⟩
    · cases horigin

theorem dataCycle_mem_validate {key : PinKey} (h : Relation.TransGen g.Feeds key key) :
    Issue.dataCycle ∈ g.validate := by
  have hclosed : Relation.TransGen (Linked g.dataEdges) key.1 key.1 :=
    h.lift Prod.fst fun _ _ hfeeds => hfeeds.linked
  unfold validate
  rw [if_pos (hasCycle_of_closed hclosed)]
  exact List.mem_append_right _ List.mem_cons_self

theorem mem_validate_of_nodeIssues {node : Node} {issue : Issue}
    (hnode : g.node? node.id = some node) (h : issue ∈ g.nodeIssues node) :
    issue ∈ g.validate := by
  unfold validate
  exact List.mem_append_left _
    (List.mem_append_left _ (List.mem_flatMap.2 ⟨node, g.node?_mem hnode, h⟩))

theorem unknownDefinition_mem_validate {node : Node} (hnode : g.node? node.id = some node)
    (hkind : node.kind? = none) :
    Issue.unknownDefinition node.id node.definition ∈ g.validate := by
  refine mem_validate_of_nodeIssues hnode ?_
  simp only [nodeIssues, Node.category?, hkind, Option.map_none, List.mem_cons, true_or]

theorem eventWithoutExecOutput_mem_validate {node : Node} (hnode : g.node? node.id = some node)
    (hevent : node.category? = some .event) (hnone : node.defaultOutput? = none) :
    Issue.eventWithoutExecOutput node.id ∈ g.validate := by
  refine mem_validate_of_nodeIssues hnode ?_
  have hempty : node.execOutputs.isEmpty = true := by
    rw [List.head?_eq_none_iff.1 hnone]
    rfl
  simp only [nodeIssues, hevent, hempty, and_self, if_true]
  exact List.mem_append_left _ List.mem_cons_self

theorem requiredInputUnset_mem_validate {node : Node} {pin : Pin}
    (hnode : g.node? node.id = some node) (hkind : node.kind? ≠ none)
    (hpin : pin ∈ node.dataInputs) (hrequired : pin.optional = false)
    (hedge : g.edgeFeeding? node.id pin.id = none) (hliteral : node.configured? pin.id = none) :
    Issue.requiredInputUnset node.id pin.id ∈ g.validate := by
  refine mem_validate_of_nodeIssues hnode ?_
  obtain ⟨kind, hkind⟩ := Option.ne_none_iff_exists'.1 hkind
  simp only [nodeIssues, Node.category?, hkind, Option.map_some]
  refine List.mem_append_right _ (List.mem_map.2 ⟨pin, List.mem_filter.2 ⟨hpin, ?_⟩, rfl⟩)
  rw [hrequired, hedge, hliteral]
  rfl

end Graph

/-- What validation says where a run records the warning. -/
def Warning.Foreseen (g : Graph) : Warning → Prop
  | .dataCycleSkipped _ _ => .dataCycle ∈ g.validate
  | .unknownDefinition node definition => .unknownDefinition node definition ∈ g.validate
  | .noExecOutput node => .eventWithoutExecOutput node ∈ g.validate
  | .missingRequiredInput node pin =>
    g.Connected node pin ∨ .requiredInputUnset node pin ∈ g.validate
  | _ => True

/-- The warnings that are left on a graph in which validation finds nothing. -/
def Warning.Unforeseeable (g : Graph) : Warning → Prop
  | .dataCycleSkipped _ _ => False
  | .unknownDefinition _ _ => False
  | .noExecOutput _ => False
  | .missingRequiredInput node pin => g.Connected node pin
  | _ => True

theorem Warning.Foreseen.unforeseeable {g : Graph} {w : Warning} (hg : g.validate = [])
    (h : w.Foreseen g) : w.Unforeseeable g := by
  have hnone : ∀ issue, issue ∉ g.validate := by
    rw [hg]
    exact fun _ => List.not_mem_nil
  cases w with
  | dataCycleSkipped node handle => exact hnone _ h
  | unknownDefinition node definition => exact hnone _ h
  | noExecOutput node => exact hnone _ h
  | missingRequiredInput node pin => exact h.resolve_right (hnone _)
  | _ => trivial

theorem Graph.Reports.foreseen {g : Graph} {w : Warning} (h : g.Reports w) : w.Foreseen g := by
  cases h with
  | cycle hcycle => exact dataCycle_mem_validate hcycle
  | cut node depth => trivial
  | unknown hnode hkind => exact unknownDefinition_mem_validate hnode hkind
  | unfamiliar _ => trivial

structure Audited (g : Graph) (st : RunState) : Prop where
  sane : Sane g st
  foreseen : ∀ w ∈ st.warnings, w.Foreseen g

namespace Audited

variable {g : Graph} {st st' : RunState}

theorem fresh (g : Graph) (trigger : Trigger) : Audited g (RunState.fresh trigger) :=
  ⟨.fresh g trigger, fun _ h => nomatch h⟩

theorem warn {w : Warning} (h : Audited g st) (hw : w.Foreseen g) : Audited g (st.warn w) := by
  refine ⟨h.sane.records st.active st.executed _, fun w' hw' => ?_⟩
  rcases List.mem_append.1 hw' with hbefore | hnew
  · exact h.foreseen w' hbefore
  · rw [List.mem_singleton.1 hnew]
    exact hw

theorem reporting (h : Audited g st) (hsane : Sane g st') (hreporting : Reporting g st st') :
    Audited g st' := by
  refine ⟨hsane, fun w hw => ?_⟩
  rcases hreporting.mem hw with hbefore | hreports
  · exact h.foreseen w hbefore
  · exact hreports.foreseen

end Audited

namespace Setup

variable {s : Setup}

theorem readPin_literal {st : RunState} (hst : Sane s.graph st) {node : Node}
    (hnode : s.graph.node? node.id = some node) {handle : Handle}
    (hedge : s.graph.edgeFeeding? node.id handle = none) :
    (s.readPin node handle st).1 = node.configured? handle := by
  have horigin : s.graph.origin (node.id, handle) = .literal := by
    simp only [Graph.origin, hedge]
  have hunfed : ∀ source kind, s.graph.origin (node.id, handle) ≠ .computed source kind :=
    fun _ _ h => nomatch horigin.symm.trans h
  rw [readPin_of_unfed hst hnode hunfed,
    s.graph.reference_eq _ _ (Graph.determined_of_unfed hunfed).acyclic]
  simp only [horigin, hnode, Option.bind_some]

theorem act_audited {node : Node} {st st' : RunState} (hnode : s.graph.node? node.id = some node)
    (h : Acts s node st st') (hst : Audited s.graph st) : Audited s.graph st' := by
  have hresolving := hst.sane.resolving
  have hread : ∀ handle, Audited s.graph (s.readPin node handle st).2 := fun handle =>
    hst.reporting (take_sane hst.sane (.read node handle) hnode)
      (readPin_reporting hresolving node handle)
  cases h with
  | read handle => exact hread handle
  | miss pin hkind hpin hrequired hnone =>
    refine (hread pin.id).warn ?_
    cases hedge : s.graph.edgeFeeding? node.id pin.id with
    | some e => exact .inl ⟨e, Graph.connected_of_edgeFeeding? hedge⟩
    | none =>
      rw [readPin_literal hst.sane hnode hedge] at hnone
      refine .inr (Graph.requiredInputUnset_mem_validate hnode ?_ hpin hrequired hedge hnone)
      rw [hkind]
      exact Option.some_ne_none _
  | evaluate kind hcomputes =>
    exact hst.reporting (take_sane hst.sane (.evaluate node kind) hcomputes)
      (evaluateEagerly_reporting hresolving hcomputes)
  | remark w hw =>
    refine hst.warn ?_
    cases w with
    | unknownFlowKind node kind => trivial
    | unresolvedCondition node => trivial
    | notAnArray node => trivial
    | pureNodeOnExecPath node => trivial
    | _ => cases hw

theorem move_audited {st st' : RunState} (h : Moves s st st') (hst : Audited s.graph st) :
    Audited s.graph st' := by
  cases h with
  | act hnode hact => exact act_audited hnode hact hst
  | store node outputs => exact ⟨hst.sane.setOutputs node outputs, hst.foreseen⟩
  | mark node => exact ⟨hst.sane.records st.active _ st.warnings, hst.foreseen⟩
  | pass hnode hkind => exact hst.warn (Graph.unknownDefinition_mem_validate hnode hkind)
  | idle hnode hevent hnone =>
    exact hst.warn (Graph.eventWithoutExecOutput_mem_validate hnode hevent hnone)
  | skip _ => exact hst.warn trivial

def StaysAudited (g : Graph) (st st' : RunState) : Prop := Audited g st → Audited g st'

theorem kept_audited (s : Setup) : Kept s (Audited s.graph) (StaysAudited s.graph) where
  refl _ hst := hst
  trans _ _ _ h h' hst := h' (h hst)
  move _ _ hmove hst := ⟨move_audited hmove, move_audited hmove hst⟩

theorem followEdge_none_audited (depth : Nat) (edge : Edge) :
    Path.Has (Audited s.graph) (Activity.Keeps (Audited s.graph) (StaysAudited s.graph))
      (s.followEdge none depth edge) := by
  intro st hst
  unfold followEdge
  dsimp only
  split
  · exact ⟨fun _ => hst.warn trivial, hst.warn trivial⟩
  · exact ⟨fun _ => hst.warn trivial, hst.warn trivial⟩

theorem fireFrom_audited (room depth : Nat) (id : NodeId) (handle : Handle) :
    Path.Has (Audited s.graph) (Activity.Keeps (Audited s.graph) (StaysAudited s.graph))
      (s.fireFrom room depth id handle) := by
  induction room generalizing depth id handle with
  | zero => exact (kept_audited s).rules.fireWith fun edge _ => followEdge_none_audited depth edge
  | succ room ih =>
    refine (kept_audited s).rules.fireWith fun edge _ => ?_
    have hrecord : ∀ st active, Audited s.graph st → Audited s.graph { st with active := active } :=
      fun st active h => ⟨h.sane.records active st.executed st.warnings, h.foreseen⟩
    refine (kept_audited s).followEdge (kept_audited s) (ih (depth + 1)) ?_ ?_
    · exact fun st hst _ => ⟨hrecord st _, hrecord st _ hst⟩
    · exact fun st hst => ⟨hrecord st _, hrecord st _ hst⟩

theorem start_audited (s : Setup) (entry : NodeId) (trigger : Trigger) :
    (s.start entry trigger).Traced (fun _ st => Audited s.graph st)
      (fun _ result => ∀ st, result = .ok st → Audited s.graph st) (RunState.fresh trigger) := by
  have hfresh := Audited.fresh s.graph trigger
  have hrun := (kept_audited s).run (fireFrom_audited _ 0) entry hfresh
  refine (hrun.always (fun _ _ hst h => h hst) hfresh).mono (fun _ _ h => h.2) ?_
  exact fun _ _ h st hst => (h.2 st hst).2

/-- Every warning in every state that a run shows, and in its result, was foreseen by validation;
    where validation finds nothing, only such are left as it cannot foresee. -/
theorem run_warnings_foreseen (s : Setup) (entry : NodeId) (trigger : Trigger) :
    ((s.start entry trigger).Traced (fun _ st => ∀ w ∈ st.warnings, w.Foreseen s.graph)
        (fun _ result => ∀ st, result = .ok st → ∀ w ∈ st.warnings, w.Foreseen s.graph)
        (RunState.fresh trigger) ∧
      ∀ (d : Dispatcher) st, ((s.start entry trigger).play d).result = .ok st →
        ∀ w ∈ st.warnings, w.Foreseen s.graph) ∧
    (s.graph.validate = [] →
      (s.start entry trigger).Traced (fun _ st => ∀ w ∈ st.warnings, w.Unforeseeable s.graph)
        (fun _ result => ∀ st, result = .ok st → ∀ w ∈ st.warnings, w.Unforeseeable s.graph)
        (RunState.fresh trigger) ∧
      ∀ (d : Dispatcher) st, ((s.start entry trigger).play d).result = .ok st →
        ∀ w ∈ st.warnings, w.Unforeseeable s.graph) := by
  have hrun := start_audited s entry trigger
  have hplay : ∀ (d : Dispatcher) st, ((s.start entry trigger).play d).result = .ok st →
      Audited s.graph st := by
    intro d
    obtain ⟨last, hresult⟩ := hrun.result d 0 []
    exact hresult
  refine ⟨⟨?_, fun d st hst => (hplay d st hst).foreseen⟩, fun hg => ⟨?_, fun d st hst w hw => ?_⟩⟩
  · exact hrun.mono (fun _ _ h => h.foreseen) fun _ _ h st hst => (h st hst).foreseen
  · refine hrun.mono (fun _ _ h w hw => (h.foreseen w hw).unforeseeable hg) ?_
    exact fun _ _ h st hst w hw => ((h st hst).foreseen w hw).unforeseeable hg
  · exact ((hplay d st hst).foreseen w hw).unforeseeable hg

/-- What is said depends on itself and lacks a tone, and control goes on to a node of no kind. -/
def flawed : Setup where
  graph := .ofParts
    [{ Node.bare "start" "event-ready" with execOutputs := [.exec "out"] },
      { Graph.sayNode with
        execOutputs := [.exec "out"]
        dataInputs := [.required "text" .string, .required "tone" .string] },
      Graph.joinNode, { Node.bare "odd" "mystery" with execInputs := [.exec "in"] }]
    [⟨none, "start", "out", "say", "in", .data⟩, ⟨none, "say", "out", "odd", "in", .data⟩,
      ⟨none, "join", "result", "say", "text", .data⟩, ⟨none, "join", "result", "join", "a", .data⟩]
  limits := ⟨2, .zero⟩
  dice _ := 0

theorem run_warnings_foreseen_flawed :
    (∃ st, ((flawed.start "start" []).play .silent).result = .ok st ∧
      st.warnings = [.dataCycleSkipped "join" "a", .missingRequiredInput "say" "tone",
        .unknownDefinition "odd" "mystery"] ∧
      ∀ w ∈ st.warnings, w.Foreseen flawed.graph) ∧
    greetingSetup.graph.validate = [] ∧
      ∃ st, ((greetingSetup.start "start" []).play .silent).result = .ok st ∧
        ∀ w ∈ st.warnings, w.Unforeseeable greetingSetup.graph := by
  have hvalid : greetingSetup.graph.validate = [] := by rfl
  refine ⟨⟨_, rfl, rfl, ?_⟩, hvalid, _, rfl, ?_⟩
  · exact (run_warnings_foreseen flawed "start" []).1.2 .silent _ rfl
  · exact ((run_warnings_foreseen greetingSetup "start" []).2 hvalid).2 .silent _ rfl

end Setup

end PinFlow
