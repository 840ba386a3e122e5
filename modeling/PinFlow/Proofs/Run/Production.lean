import PinFlow.Proofs.Run.History
import PinFlow.Proofs.Run.Stability

set_option autoImplicit false

/-!
# Which nodes have outputs

Two things give outputs to a node: an action is answered, or a for-each node begins an iteration.
The history of a run tells both, and it tells the outputs too: the reply, or the element that is
next among those read when control entered the loop. `Accounted` says that the stored outputs and
the generation are what the history tells. A loop may be entered again from within its own body;
its iterations are told apart by the path at whose end control entered it.
-/

namespace PinFlow

namespace Deed

def enters (id : NodeId) (path : List PinKey) : Deed → Bool
  | .noted (.entered node) st => node == id && st.active == path
  | _ => false

def repeats (id : NodeId) (path : List PinKey) : Deed → Bool
  | .noted (.firing node handle) st => node == id && handle == "loopBody" && st.active == path
  | _ => false

def accepted : Deed → Bool
  | .called _ _ (.ok _) => true
  | _ => false

def iterates (g : Graph) : Deed → Bool
  | .noted (.firing node handle) _ => g.hasKind (.flow .forEach) node && handle == "loopBody"
  | _ => false

/-- The node is an action whose call is accepted, or a for-each node that begins an iteration. -/
def Supplies (g : Graph) (id : NodeId) : Deed → Prop
  | .called call _ (.ok _) => call.node = id ∧ g.hasKind .action id = true
  | .noted (.firing node handle) _ =>
    node = id ∧ handle = "loopBody" ∧ g.hasKind (.flow .forEach) id = true
  | _ => False

end Deed

def Graph.Produced (g : Graph) (past : List Deed) (id : NodeId) : Prop :=
  ∃ deed ∈ past, deed.Supplies g id

/-- The iterations that the node has begun since control last entered it at the end of the path. -/
def turns (id : NodeId) (path : List PinKey) (past : List Deed) : Nat :=
  (past.takeWhile fun deed => !deed.enters id path).countP (Deed.repeats id path)

namespace Setup

variable (s : Setup)

/-- What the next iteration stores: its element is the first that is not used up among those that
    were read when control last entered the node at the end of the path. -/
def iteration? (node : Node) (path : List PinKey) (past : List Deed) : Option (Fields Value) :=
  (past.find? (Deed.enters node.id path)).bind fun entry =>
    (s.loopItems node entry.state)[turns node.id path past]?.map
      (iterationOutputs · (turns node.id path past))

def product? (past : List Deed) : Deed → Option (NodeId × Fields Value)
  | .called call _ (.ok outputs) => some (call.node, outputs)
  | .called _ _ (.error _) => none
  | .noted (.entered _) _ => none
  | .noted (.firing id handle) st =>
    if s.graph.hasKind (.flow .forEach) id && handle == "loopBody" then
      (s.graph.node? id).bind fun node => (s.iteration? node st.active past).map (id, ·)
    else none

def latest? (id : NodeId) : List Deed → Option (Fields Value)
  | [] => none
  | deed :: past =>
    match s.product? past deed with
    | some (node, outputs) => if node = id then some outputs else latest? id past
    | none => latest? id past

end Setup

structure Accounted (s : Setup) (past : List Deed) (st : RunState) : Prop where
  stored : ∀ id, (st.outputs.get? id).isSome = true ↔ s.graph.Produced past id
  latest : ∀ id, st.outputs.get? id = s.latest? id past
  executed : ∀ id, (st.outputs.get? id).isSome = true → id ∈ st.executed
  generation : st.generation =
    past.countP Deed.accepted + past.countP (Deed.iterates s.graph)
  entered : ∀ id st', .noted (.entered id) st' ∈ past → id ∈ st.executed

namespace Deed

variable {g : Graph} {deed : Deed} {id other : NodeId}

theorem Supplies.unique (h : deed.Supplies g id) (h' : deed.Supplies g other) : other = id := by
  cases deed with
  | noted note st =>
    cases note with
    | entered node => exact h.elim
    | firing node handle => exact h'.1.symm.trans h.1
  | called call st reply =>
    cases reply with
    | ok outputs => exact h'.1.symm.trans h.1
    | error cause => exact h.elim

theorem Supplies.counts (h : deed.Supplies g id) :
    (deed.accepted = true ∧ deed.iterates g = false) ∨
      (deed.accepted = false ∧ deed.iterates g = true) := by
  cases deed with
  | noted note st =>
    cases note with
    | entered node => exact h.elim
    | firing node handle =>
      obtain ⟨rfl, rfl, hkind⟩ := h
      exact .inr ⟨rfl, by simp [iterates, hkind]⟩
  | called call st reply =>
    cases reply with
    | ok outputs => exact .inl ⟨rfl, rfl⟩
    | error cause => exact h.elim

theorem not_supplies (haccepted : deed.accepted = false) (hiterates : deed.iterates g = false)
    (id : NodeId) : ¬ deed.Supplies g id := by
  intro h
  rcases h.counts with ⟨htrue, -⟩ | ⟨-, htrue⟩
  · rw [haccepted] at htrue
    cases htrue
  · rw [hiterates] at htrue
    cases htrue

end Deed

theorem Graph.produced_cons {g : Graph} {deed : Deed} {past : List Deed} {id : NodeId} :
    g.Produced (deed :: past) id ↔ deed.Supplies g id ∨ g.Produced past id := by
  unfold Produced
  rw [List.exists_mem_cons_iff]

namespace Setup

variable {s : Setup} {past : List Deed} {deed : Deed}

theorem product?_eq_none (haccepted : deed.accepted = false)
    (hiterates : deed.iterates s.graph = false) : s.product? past deed = none := by
  cases deed with
  | noted note st =>
    cases note with
    | entered node => rfl
    | firing node handle => exact if_neg (by simpa [Deed.iterates] using hiterates)
  | called call st reply =>
    cases reply with
    | ok outputs => cases haccepted
    | error cause => rfl

end Setup

namespace Accounted

variable {s : Setup} {past : List Deed} {st st' : RunState} {node : Node}

theorem of_records (h : Accounted s past st) (houtputs : st'.outputs = st.outputs)
    (hgeneration : st'.generation = st.generation) (hexecuted : st.executed ⊆ st'.executed) :
    Accounted s past st' where
  stored id := by
    rw [houtputs]
    exact h.stored id
  latest id := by
    rw [houtputs]
    exact h.latest id
  executed id hid := by
    rw [houtputs] at hid
    exact hexecuted (h.executed id hid)
  generation := hgeneration.trans h.generation
  entered id st' hmem := hexecuted (h.entered id st' hmem)

theorem frame (h : Accounted s past st) (hframe : ReadFrame st st') : Accounted s past st' :=
  h.of_records hframe.outputs hframe.generation (by rw [hframe.executed]; exact List.Subset.refl _)

theorem pass (h : Accounted s past st) {deed : Deed} (haccepted : deed.accepted = false)
    (hiterates : deed.iterates s.graph = false)
    (hentered : ∀ id st', .noted (.entered id) st' = deed → id ∈ st.executed) :
    Accounted s (deed :: past) st where
  stored id := by
    rw [h.stored id, Graph.produced_cons]
    exact (or_iff_right (Deed.not_supplies haccepted hiterates id)).symm
  latest id := by
    rw [h.latest id, Setup.latest?, Setup.product?_eq_none haccepted hiterates]
  executed := h.executed
  generation := by
    rw [h.generation, List.countP_cons_of_neg (by rw [haccepted]; decide),
      List.countP_cons_of_neg (by rw [hiterates]; decide)]
  entered id st' hmem := by
    rcases List.mem_cons.1 hmem with heq | hmem
    · exact hentered id st' heq
    · exact h.entered id st' hmem

theorem produce (h : Accounted s past st) {deed : Deed} {id : NodeId} {outputs : Fields Value}
    (hproduct : s.product? past deed = some (id, outputs)) (hsupplies : deed.Supplies s.graph id)
    (hexecuted : id ∈ st.executed) : Accounted s (deed :: past) (st.setOutputs id outputs) where
  stored other := by
    rw [RunState.setOutputs, Table.get?_insert, Graph.produced_cons]
    by_cases hother : other = id
    · rw [if_pos hother, hother]
      exact iff_of_true rfl (.inl hsupplies)
    · rw [if_neg hother, h.stored other]
      exact (or_iff_right fun h' => hother (hsupplies.unique h')).symm
  latest other := by
    rw [RunState.setOutputs, Table.get?_insert, Setup.latest?, hproduct]
    by_cases hother : other = id
    · simp [hother]
    · simp [hother, Ne.symm hother, h.latest other]
  executed other hsome := by
    rw [RunState.setOutputs, Table.get?_insert] at hsome
    by_cases hother : other = id
    · rw [hother]
      exact hexecuted
    · rw [if_neg hother] at hsome
      exact h.executed other hsome
  generation := by
    change st.generation + 1 = _
    rw [h.generation]
    rcases hsupplies.counts with ⟨haccepted, hiterates⟩ | ⟨haccepted, hiterates⟩
    · rw [List.countP_cons_of_pos haccepted, List.countP_cons_of_neg (by rw [hiterates]; decide)]
      omega
    · rw [List.countP_cons_of_neg (by rw [haccepted]; decide), List.countP_cons_of_pos hiterates]
      omega
  entered other st' hmem := by
    rcases List.mem_cons.1 hmem with heq | hmem
    · rw [← heq] at hsupplies
      exact hsupplies.elim
    · exact h.entered other st' hmem

theorem enter (h : Accounted s past st) (id : NodeId) :
    Accounted s (.noted (.entered id) (st.markExecuted id) :: past) (st.markExecuted id) := by
  have hmarked : Accounted s past (st.markExecuted id) :=
    h.of_records rfl rfl (List.subset_append_left _ _)
  refine hmarked.pass rfl rfl ?_
  rintro _ _ ⟨⟩
  exact List.mem_append_right _ (List.mem_singleton_self id)

theorem answer (h : Accounted s past st) (hnode : s.graph.node? node.id = some node)
    (hkind : node.kind? = some .action) (hexecuted : node.id ∈ st.executed)
    (inputs outputs : Fields Value) :
    Accounted s
      (.called ⟨node.id, node.definition, inputs, node.config⟩ st (.ok outputs) :: past)
      (st.setOutputs node.id outputs) :=
  h.produce rfl ⟨rfl, by rw [Graph.hasKind_eq hnode, hkind]; rfl⟩ hexecuted

theorem fire (h : Accounted s past st) {id : NodeId} {handle : Handle}
    (hiterates : (s.graph.hasKind (.flow .forEach) id && handle == "loopBody") = false) :
    Accounted s (.noted (.firing id handle) st :: past) st :=
  h.pass rfl hiterates fun _ _ h => nomatch h

theorem iterate (h : Accounted s past st) (hnode : s.graph.node? node.id = some node)
    (hkind : node.kind? = some (.flow .forEach)) (hexecuted : node.id ∈ st.executed)
    {path : List PinKey} (hactive : st.active = path) {outputs : Fields Value}
    (hiteration : s.iteration? node path past = some outputs) :
    Accounted s (.noted (.firing node.id "loopBody") (st.setOutputs node.id outputs) :: past)
      (st.setOutputs node.id outputs) := by
  have hloop : s.graph.hasKind (.flow .forEach) node.id = true := by
    rw [Graph.hasKind_eq hnode, hkind]
    rfl
  have hready : (st.setOutputs node.id outputs).active = path := hactive
  refine h.produce ?_ ⟨rfl, rfl, hloop⟩ hexecuted
  simp [Setup.product?, hloop, hnode, hready, hiteration]

end Accounted

section Loops

variable {path : List PinKey} {past past' : List Deed} {id : NodeId}

end Loops

namespace Setup

variable {s : Setup} {node : Node} {path : List PinKey}

/-- The exits of a loop that are left: an iteration for each element that is not used up, and the
    way out. -/
def LoopLeft (s : Setup) (node : Node) (path : List PinKey) (exits : List NodeExit)
    (past : List Deed) : Prop :=
  exits = [] ∨ ∃ entry, past.find? (Deed.enters node.id path) = some entry ∧
    exits = ((s.loopItems node entry.state).zipIdx.drop (turns node.id path past)).map
      (fun item => .iteration item.1 item.2) ++ [.plain "completed"]

theorem LoopLeft.executed {exits : List NodeExit} {past : List Deed} {st : RunState}
    {exit : NodeExit} (h : s.LoopLeft node path (exit :: exits) past) (hst : Accounted s past st) :
    node.id ∈ st.executed := by
  rcases h with h | ⟨entry, hentry, -⟩
  · cases h
  · have henters := List.find?_some hentry
    have hmem := List.mem_of_find?_eq_some hentry
    cases entry with
    | called call st reply => cases henters
    | noted note st' =>
      cases note with
      | firing node handle => cases henters
      | entered id =>
        simp only [Deed.enters, Bool.and_eq_true, beq_iff_eq] at henters
        rw [← henters.1]
        exact hst.entered id st' hmem

theorem LoopLeft.next {exits : List NodeExit} {past : List Deed} {exit : NodeExit}
    (h : s.LoopLeft node path (exit :: exits) past) :
    (exit = .plain "completed" ∧ exits = []) ∨
      ∃ element, exit = .iteration element (turns node.id path past) ∧
        s.iteration? node path past =
          some (iterationOutputs element (turns node.id path past)) ∧
        ∀ past', past'.find? (Deed.enters node.id path) = past.find? (Deed.enters node.id path) →
          turns node.id path past' = turns node.id path past + 1 →
          s.LoopLeft node path exits past' := by
  rcases h with h | ⟨entry, hentry, hexits⟩
  · cases h
  · generalize hn : turns node.id path past = n at hexits ⊢
    cases hdrop : (s.loopItems node entry.state).zipIdx.drop n with
    | nil =>
      rw [hdrop] at hexits
      obtain ⟨rfl, rfl⟩ := List.cons.inj hexits
      exact .inl ⟨rfl, rfl⟩
    | cons item rest =>
      rw [hdrop, List.map_cons, List.cons_append] at hexits
      obtain ⟨rfl, rfl⟩ := List.cons.inj hexits
      -- The first of what is left of the numbered elements is the one with that number.
      have hitem : (s.loopItems node entry.state).zipIdx[n]? = some item := by
        rw [← List.head?_drop, hdrop]
        rfl
      rw [List.getElem?_zipIdx, Option.map_eq_some_iff] at hitem
      obtain ⟨element, helement, rfl⟩ := hitem
      have hrest : (s.loopItems node entry.state).zipIdx.drop (n + 1) = rest := by
        rw [← List.tail_drop, hdrop]
        rfl
      refine .inr ⟨element, by rw [Nat.zero_add], ?_, fun past' hfind hturns => ?_⟩
      · rw [iteration?, hentry, Option.bind_some, hn, helement]
        rfl
      · refine .inr ⟨entry, hfind.trans hentry, ?_⟩
        rw [hturns, hrest]

end Setup

def Graph.FedByOutput (g : Graph) (source : Node) (key : PinKey) : Prop :=
  ∃ edge, g.edgeFeeding? key.1 key.2 = some edge ∧ g.node? edge.source = some source ∧
    (source.category? = some .action ∨ source.category? = some .flow)

theorem Graph.FedByOutput.origin {g : Graph} {source : Node} {key : PinKey}
    (h : g.FedByOutput source key) : ∃ out, g.origin key = .output source.id out := by
  obtain ⟨edge, hedge, hsource, hcategory⟩ := h
  refine ⟨edge.sourceHandle, ?_⟩
  simp only [Graph.origin, hedge, hsource, Origin.ofOutput]
  cases hkind : source.kind? with
  | none => simp [Node.category?, hkind] at hcategory
  | some kind =>
    cases kind with
    | event kind => simp [Node.category?, hkind, NodeKind.category] at hcategory
    | pure kind => simp [Node.category?, hkind, NodeKind.category] at hcategory
    | action => rfl
    | flow kind => rfl

theorem Sane.pinMemo_of_output {g : Graph} {st : RunState} (hst : Sane g st) {key : PinKey}
    {source : NodeId} {out : Handle} (horigin : g.origin key = .output source out) :
    st.pinMemo.get? key = none := by
  have hdetermined : g.Determined key :=
    Graph.determined_of_unfed fun _ _ h => nomatch horigin.symm.trans h
  cases hmemo : st.pinMemo.get? key with
  | none => rfl
  | some value =>
    have hfound : st.memoizedPin? key = some ⟨value, .run⟩ :=
      (Memo.lookup_eq_run_iff value).2 hmemo
    -- The value would have to be that of the output whatever the outputs are.
    have hlasts : ∀ outputs, g.reference st.trigger outputs key = value :=
      hst.faithful.pins key _ hfound hdetermined
    have hvalue : ∀ outputs : Outputs, outputs source out = value := by
      intro outputs
      rw [← hlasts outputs, g.reference_eq _ _ hdetermined.acyclic, horigin]
    exact nomatch (hvalue fun _ _ => none).trans (hvalue fun _ _ => some .null).symm

namespace Setup

end Setup

end PinFlow
