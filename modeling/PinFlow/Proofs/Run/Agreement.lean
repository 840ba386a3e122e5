import PinFlow.Proofs.Run.Logic

set_option autoImplicit false

/-!
# Two setups on the same path

Where two setups read the same from every state that a path comes to, the path has the same
behaviour in both: not only do the states correspond, the activities are equal. The lemmas follow
those of `Kept`, one for each way of executing a node.
-/

namespace PinFlow

structure Agree (s s' : Setup) (good : RunState → Prop) : Prop where
  graph : s'.graph = s.graph
  maxDelay : s'.limits.maxDelay = s.limits.maxDelay
  read : ∀ node handle st, good st → s'.readPin node handle st = s.readPin node handle st
  evaluate : ∀ node kind st, good st →
    s'.evaluateEagerly node kind st = s.evaluateEagerly node kind st

/-- From good states the paths are equal, and they stay in good states. -/
structure Path.Matches (good : RunState → Prop) (R : RunState → RunState → Prop)
    (path path' : Path) : Prop where
  keeps : path.Has good (Activity.Keeps good R)
  same : ∀ st, good st → path' st = path st

namespace Path.Matches

variable {good : RunState → Prop} {R : RunState → RunState → Prop}

theorem andThen_eq {st : RunState} {first : Activity Progress} {second second' : Path}
    (hfirst : first.Keeps good R st)
    (hsecond : Path.Matches good R second second') :
    Path.andThen first second' = Path.andThen first second := by
  refine hfirst.bind_congr fun last p hp => ?_
  cases p with
  | going st' => exact hsecond.same st' hp.2
  | failed st' error => rfl

theorem each {s : Setup} (hk : Kept s good R) {ι : Type} {path path' : ι → Path} {items : List ι}
    (h : ∀ i ∈ items, Path.Matches good R (path i) (path' i)) :
    Path.Matches good R (Path.each path items) (Path.each path' items) := by
  refine ⟨hk.rules.each fun i hi => (h i hi).keeps, ?_⟩
  induction items with
  | nil => exact fun _ _ => rfl
  | cons i rest ih =>
    intro st hst
    have hi := h i List.mem_cons_self
    have hrest : ∀ j ∈ rest, Path.Matches good R (path j) (path' j) :=
      fun j hj => h j (List.mem_cons_of_mem _ hj)
    have hmatches : Path.Matches good R (Path.each path rest) (Path.each path' rest) :=
      ⟨hk.rules.each fun j hj => (hrest j hj).keeps, ih hrest⟩
    change Path.andThen (path' i st) (Path.each path' rest) =
      Path.andThen (path i st) (Path.each path rest)
    rw [hi.same st hst]
    exact andThen_eq (hi.keeps st hst) hmatches

end Path.Matches

namespace Agree

variable {s s' : Setup} {good : RunState → Prop} {R : RunState → RunState → Prop}
  {fire fire' : Firing} {node : Node}

theorem actionInputs (ha : Agree s s' good) (hk : Kept s good R)
    (hnode : s.graph.node? node.id = some node) (hkind : node.kind? = some .action)
    {st : RunState} (hst : good st) :
    s'.actionInputs node st = s.actionInputs node st := by
  have hfold : ∀ pins ⊆ node.dataInputs, ∀ acc : Fields Value × RunState, good acc.2 →
      pins.foldl (s'.addActionInput node) acc = pins.foldl (s.addActionInput node) acc := by
    intro pins
    induction pins with
    | nil =>
      intro _ acc _
      rw [List.foldl_nil, List.foldl_nil]
    | cons pin rest ih =>
      intro hpins acc hacc
      have hadd : s'.addActionInput node acc pin = s.addActionInput node acc pin := by
        unfold Setup.addActionInput
        rw [ha.read node pin.id acc.2 hacc]
      have hact := Conducts.addActionInput (s := s) hkind (hpins List.mem_cons_self) acc
      rw [List.foldl_cons, List.foldl_cons, hadd]
      exact ih (List.subset_of_cons_subset hpins) _ (hk.rules.act hnode hact hacc).1
  unfold Setup.actionInputs
  exact hfold node.dataInputs (List.Subset.refl _) ([], st) hst

theorem visitPure (ha : Agree s s' good) (hk : Kept s good R)
    (hnode : s.graph.node? node.id = some node) (kind : PureKind) {st : RunState}
    (hst : good st) : s'.visitPure node kind st = s.visitPure node kind st := by
  have hremark : Acts s node st (st.warn (.pureNodeOnExecPath node.id)) := .remark _ rfl
  obtain ⟨-, hgood⟩ := hk.move _ _ (.act hnode hremark) hst
  have hevaluate := ha.evaluate node kind _ hgood
  unfold Setup.visitPure
  dsimp only
  split
  · rfl
  · exact congrArg Prod.snd hevaluate

theorem readPin_good (hk : Kept s good R) (hnode : s.graph.node? node.id = some node)
    (handle : Handle) {st : RunState} (hst : good st) : good (s.readPin node handle st).2 :=
  (hk.rules.act hnode (.read handle) hst).1

theorem fireDefault (hfire : ∀ handle, Path.Matches good R (fire handle) (fire' handle))
    {st : RunState} (hst : good st) :
    PinFlow.fireDefault fire' node st = PinFlow.fireDefault fire node st := by
  unfold PinFlow.fireDefault
  cases node.defaultOutput? with
  | some pin => exact (hfire pin.id).same st hst
  | none => rfl

theorem performAction (ha : Agree s s' good) (hk : Kept s good R)
    (hnode : s.graph.node? node.id = some node) (hkind : node.kind? = some .action)
    (hfire : ∀ handle, Path.Matches good R (fire handle) (fire' handle)) {st : RunState}
    (hst : good st) : s'.performAction fire' node st = s.performAction fire node st := by
  obtain ⟨hgood, -⟩ := hk.rules.acts hnode (Conducts.actionInputs hkind) hst
  unfold Setup.performAction
  rw [ha.actionInputs hk hnode hkind hst]
  generalize s.actionInputs node st = read at hgood
  dsimp only
  congr 1
  funext reply
  cases reply with
  | ok outputs =>
    obtain ⟨-, hgood'⟩ := hk.move _ _ (.store node.id outputs) hgood
    exact fireDefault hfire hgood'
  | error cause => rfl

theorem branch (ha : Agree s s' good) (hk : Kept s good R)
    (hnode : s.graph.node? node.id = some node)
    (hfire : ∀ handle, Path.Matches good R (fire handle) (fire' handle)) {st : RunState}
    (hst : good st) : s'.branch fire' node st = s.branch fire node st := by
  have hgood := readPin_good hk hnode "condition" hst
  unfold Setup.branch
  rw [ha.read node _ st hst]
  generalize s.readPin node "condition" st = read at hgood
  split
  · rfl
  · rfl
  · exact (hfire _).same _ hgood

theorem switch (ha : Agree s s' good) (hk : Kept s good R)
    (hnode : s.graph.node? node.id = some node)
    (hfire : ∀ handle, Path.Matches good R (fire handle) (fire' handle)) {st : RunState}
    (hst : good st) : s'.switch fire' node st = s.switch fire node st := by
  have hgood := readPin_good hk hnode "value" hst
  unfold Setup.switch
  rw [ha.read node _ st hst]
  exact (hfire _).same _ hgood

theorem iterate (hk : Kept s good R)
    (hfire : ∀ handle, Path.Matches good R (fire handle) (fire' handle)) (item : Value × Nat) :
    Path.Matches good R (Setup.iterate fire node item) (Setup.iterate fire' node item) := by
  have hstore := fun (st : RunState) (hst : good st) =>
    hk.rules.move _ _ (.store node.id (iterationOutputs item.1 item.2)) hst
  refine ⟨fun st hst => ?_, fun st hst => (hfire _).same _ (hstore st hst).1⟩
  exact (hstore st hst).along (hfire "loopBody").keeps

theorem forEach (ha : Agree s s' good) (hk : Kept s good R)
    (hnode : s.graph.node? node.id = some node)
    (hfire : ∀ handle, Path.Matches good R (fire handle) (fire' handle)) {st : RunState}
    (hst : good st) : s'.forEach fire' node st = s.forEach fire node st := by
  have hgood := readPin_good hk hnode "array" hst
  unfold Setup.forEach
  rw [ha.read node _ st hst]
  generalize s.readPin node "array" st = read at hgood
  split
  · rename_i items st'
    have hitems : Path.Matches good R (Path.each (Setup.iterate fire node) items.zipIdx)
        (Path.each (Setup.iterate fire' node) items.zipIdx) :=
      .each hk fun item _ => iterate hk hfire item
    rw [hitems.same st' hgood]
    exact Path.Matches.andThen_eq (hitems.keeps st' hgood) (hfire _)
  · rename_i value st' _
    have hremark : Acts s node st' (st'.warn (.notAnArray node.id)) := .remark _ rfl
    obtain ⟨-, hgood'⟩ := hk.move _ _ (.act hnode hremark) hgood
    exact (hfire _).same _ hgood'

theorem delay (ha : Agree s s' good) (hk : Kept s good R)
    (hnode : s.graph.node? node.id = some node)
    (hfire : ∀ handle, Path.Matches good R (fire handle) (fire' handle)) {st : RunState}
    (hst : good st) : s'.delay fire' node st = s.delay fire node st := by
  have hgood := readPin_good hk hnode "duration" hst
  unfold Setup.delay
  rw [ha.read node _ st hst, ha.maxDelay]
  dsimp only
  rw [fireDefault hfire hgood]

theorem steer (ha : Agree s s' good) (hk : Kept s good R)
    (hnode : s.graph.node? node.id = some node)
    (hfire : ∀ handle, Path.Matches good R (fire handle) (fire' handle)) (kind : FlowKind)
    {st : RunState} (hst : good st) : s'.steer fire' node kind st = s.steer fire node kind st := by
  cases kind with
  | branch => exact ha.branch hk hnode hfire hst
  | switch => exact ha.switch hk hnode hfire hst
  | sequence => exact (Path.Matches.each hk fun handle _ => hfire handle).same st hst
  | forEach => exact ha.forEach hk hnode hfire hst
  | delay => exact ha.delay hk hnode hfire hst
  | unknown name => rfl

theorem execute (ha : Agree s s' good) (hk : Kept s good R)
    (hnode : s.graph.node? node.id = some node)
    (hfire : ∀ handle, Path.Matches good R (fire handle) (fire' handle)) :
    Path.Matches good R (s.execute fire node) (s'.execute fire' node) := by
  refine ⟨hk.rules.execute hnode fun handle => (hfire handle).keeps, fun st hst => ?_⟩
  obtain ⟨-, hgood⟩ := hk.move _ _ (.mark node.id) hst
  unfold Setup.execute
  split
  · rfl
  · rename_i kind hkind
    dsimp only
    congr 1
    funext _
    cases kind with
    | event kind => exact fireDefault hfire hgood
    | action => exact ha.performAction hk hnode hkind hfire hgood
    | pure kind =>
      dsimp only
      rw [ha.visitPure hk hnode kind hgood]
    | flow kind => exact ha.steer hk hnode hfire kind hgood

/-- Behind an edge the setups may agree on other states; at which depth it is followed does not
    matter where it is followed at all. -/
theorem followEdge {inner : RunState → Prop} (ha : Agree s s' good) (hinner : Kept s inner R)
    (hainner : Agree s s' inner) {deeper deeper' : NodeId → Firing} {depth : Nat} (depth' : Nat)
    {edge : Edge}
    (hfire : ∀ node handle, Path.Matches inner R (deeper node handle) (deeper' node handle))
    (henter : ∀ st, good st → (edge.target, edge.targetHandle) ∉ st.active →
      inner (st.beginVisit (edge.target, edge.targetHandle)))
    (hkeeps : Path.Has good (Activity.Keeps good R) (s.followEdge (some deeper) depth edge)) :
    Path.Matches good R (s.followEdge (some deeper) depth edge)
      (s'.followEdge (some deeper') depth' edge) := by
  refine ⟨hkeeps, fun st hst => ?_⟩
  unfold Setup.followEdge
  rw [ha.graph]
  dsimp only
  split
  · rfl
  · rename_i hvisiting
    split
    · rfl
    · rename_i target htarget
      have hnode := s.graph.node?_self htarget
      have hgood := henter st hst fun h => hvisiting (List.contains_iff_mem.2 h)
      rw [(hainner.execute hinner hnode (hfire target.id)).same _ hgood]

theorem fireWith (ha : Agree s s' good) (hk : Kept s good R)
    {deeper deeper' : Option (NodeId → Firing)} {depth depth' : Nat} {id : NodeId} {handle : Handle}
    (h : ∀ edge ∈ s.graph.edgesLeaving id handle,
      Path.Matches good R (s.followEdge deeper depth edge) (s'.followEdge deeper' depth' edge)) :
    Path.Matches good R (s.fireWith deeper depth id handle)
      (s'.fireWith deeper' depth' id handle) := by
  refine ⟨hk.rules.fireWith fun edge hedge => (h edge hedge).keeps, fun st hst => ?_⟩
  unfold Setup.fireWith
  rw [ha.graph]
  congr 1
  funext _
  exact (Path.Matches.each hk h).same st hst

theorem run (ha : Agree s s' good) (hk : Kept s good R)
    (hfire : ∀ id handle, Path.Matches good R (s.fireAt 0 id handle) (s'.fireAt 0 id handle))
    (entry : NodeId) {trigger : Trigger} (hfresh : good (RunState.fresh trigger)) :
    s'.start entry trigger = s.start entry trigger := by
  unfold Setup.start
  rw [ha.graph]
  cases s.graph.node? entry with
  | none => rfl
  | some node =>
    obtain ⟨-, hgood⟩ := hk.move _ _ (.mark node.id) hfresh
    dsimp only
    split
    · cases node.defaultOutput? with
      | some pin =>
        have hsame := (hfire node.id pin.id).same _ hgood
        exact congrArg (Activity.map Progress.outcome) hsame
      | none => rfl
    · rfl

end Agree

end PinFlow
