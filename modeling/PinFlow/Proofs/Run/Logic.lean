import PinFlow.Proofs.Run.Conduct
import PinFlow.Run.Dispatcher

set_option autoImplicit false

/-!
# Following a run through its states

`Traced` says of a run that each state it shows is related to the one before, whatever the replies
are. `Rules` collects what has to be checked of a property of runs; then executing a node has it,
given that the ways of leaving the node have. For a relation between states it is enough to check
one move at a time, which is `Kept`.
-/

namespace PinFlow

namespace Activity

variable {α β : Type}

/-- From a state on, each state that is shown is related to the one before it, and the last of them
    to the result. -/
def Traced (R : RunState → RunState → Prop) (ends : RunState → α → Prop) :
    RunState → Activity α → Prop
  | st, .done result => ends st result
  | st, .noting _ next rest => R st next ∧ Traced R ends next (rest ())
  | st, .calling _ next resume => R st next ∧ ∀ reply, Traced R ends next (resume reply)
  | st, .waiting _ next resume => R st next ∧ Traced R ends next (resume ())

variable {R : RunState → RunState → Prop} {mid : RunState → α → Prop}
  {ends : RunState → β → Prop}

theorem Traced.bind {st : RunState} {a : Activity α} {f : α → Activity β}
    (h : a.Traced R mid st) (hf : ∀ last x, mid last x → (f x).Traced R ends last) :
    (a.bind f).Traced R ends st := by
  induction a generalizing st with
  | done result => exact hf st result h
  | noting note next rest ih => exact ⟨h.1, ih () h.2⟩
  | calling call next resume ih => exact ⟨h.1, fun reply => ih reply (h.2 reply)⟩
  | waiting delay next resume ih => exact ⟨h.1, ih () h.2⟩

theorem Traced.mono {R' : RunState → RunState → Prop} {mid' : RunState → α → Prop}
    (hR : ∀ st st', R st st' → R' st st') (hmid : ∀ st x, mid st x → mid' st x) {st : RunState}
    {a : Activity α} (h : a.Traced R mid st) : a.Traced R' mid' st := by
  induction a generalizing st with
  | done result => exact hmid st result h
  | noting note next rest ih => exact ⟨hR _ _ h.1, ih () h.2⟩
  | calling call next resume ih => exact ⟨hR _ _ h.1, fun reply => ih reply (h.2 reply)⟩
  | waiting delay next resume ih => exact ⟨hR _ _ h.1, ih () h.2⟩

theorem Traced.start (htrans : ∀ a b c, R a b → R b c → R a c)
    (hends : ∀ st st' x, R st st' → mid st' x → mid st x) {st st' : RunState} {a : Activity α}
    (hst : R st st') (h : a.Traced R mid st') : a.Traced R mid st := by
  cases a with
  | done result => exact hends st st' result hst h
  | noting note next rest => exact ⟨htrans _ _ _ hst h.1, h.2⟩
  | calling call next resume => exact ⟨htrans _ _ _ hst h.1, h.2⟩
  | waiting delay next resume => exact ⟨htrans _ _ _ hst h.1, h.2⟩

theorem Traced.bind_congr {st : RunState} {a : Activity α} {f f' : α → Activity β}
    (h : a.Traced R mid st) (hf : ∀ last x, mid last x → f x = f' x) : a.bind f = a.bind f' := by
  induction a generalizing st with
  | done result => exact hf st result h
  | noting note next rest ih =>
    simp only [bind_noting]
    congr 1
    funext u
    exact ih u h.2
  | calling call next resume ih =>
    simp only [bind_calling]
    congr 1
    funext reply
    exact ih reply (h.2 reply)
  | waiting delay next resume ih =>
    simp only [bind_waiting]
    congr 1
    funext u
    exact ih u h.2

theorem Traced.always {P : RunState → Prop} (hP : ∀ st st', P st → R st st' → P st')
    {st : RunState} {a : Activity α} (hst : P st) (h : a.Traced R mid st) :
    a.Traced (fun st st' => R st st' ∧ P st') (fun last x => P last ∧ mid last x) st := by
  induction a generalizing st with
  | done result => exact ⟨hst, h⟩
  | noting note next rest ih =>
    have hnext := hP _ _ hst h.1
    exact ⟨⟨h.1, hnext⟩, ih () hnext h.2⟩
  | calling call next resume ih =>
    have hnext := hP _ _ hst h.1
    exact ⟨⟨h.1, hnext⟩, fun reply => ih reply hnext (h.2 reply)⟩
  | waiting delay next resume ih =>
    have hnext := hP _ _ hst h.1
    exact ⟨⟨h.1, hnext⟩, ih () hnext h.2⟩

theorem Traced.result {st : RunState} {a : Activity α} (h : a.Traced R mid st) (d : Dispatcher)
    (time : Nat) (earlier : List TimedCall) :
    ∃ last, mid last (a.playFrom d time earlier).result := by
  induction a generalizing st time earlier with
  | done result => exact ⟨st, h⟩
  | noting note next rest ih => exact ih () h.2 time earlier
  | calling call next resume ih => exact ih _ (h.2 _) time _
  | waiting delay next resume ih => exact ih () h.2 _ earlier

end Activity

namespace Step

def isLocal : Step → Bool
  | .warn w => !w.isCut
  | .enter _ => false
  | .leave _ => false
  | _ => true

end Step

/-- What happens to the state in a run, guards and cuts of the depth apart. -/
inductive Moves (s : Setup) (st : RunState) : RunState → Prop where
  | act {node : Node} {st' : RunState} : s.graph.node? node.id = some node → Acts s node st st' →
      Moves s st st'
  | store (node : NodeId) (outputs : Fields Value) : Moves s st (st.setOutputs node outputs)
  | mark (node : NodeId) : Moves s st (st.markExecuted node)
  | pass {node : Node} : s.graph.node? node.id = some node → node.kind? = none →
      Moves s st (st.warn (.unknownDefinition node.id node.definition))
  | idle {node : Node} : s.graph.node? node.id = some node → node.category? = some .event →
      node.defaultOutput? = none → Moves s st (st.warn (.noExecOutput node.id))
  | skip {node : NodeId} {handle : Handle} : (node, handle) ∈ st.active →
      Moves s st (st.warn (.cycleSkipped node handle))

theorem Moves.steps {s : Setup} {st st' : RunState} (h : Moves s st st') :
    ∃ steps : List Step, (∀ step ∈ steps, step.Fits s.graph ∧ step.isLocal = true) ∧
      s.takeAll st steps = st' := by
  cases h with
  | act hnode hact =>
    rename_i node
    cases hact with
    | read handle => exact ⟨[.read node handle], by simp [Step.Fits, Step.isLocal, hnode], rfl⟩
    | miss pin _ _ _ _ =>
      refine ⟨[.read node pin.id, .warn (.missingRequiredInput node.id pin.id)], ?_, rfl⟩
      simp [Step.Fits, Step.isLocal, hnode, Warning.isCut]
    | evaluate kind hcomputes =>
      exact ⟨[.evaluate node kind], by simp [Step.Fits, Step.isLocal, hcomputes], rfl⟩
    | remark w hw =>
      refine ⟨[.warn w], ?_, rfl⟩
      cases w <;> simp_all [Step.Fits, Step.isLocal, Warning.isRemark, Warning.isCut]
  | store node outputs => exact ⟨[.store node outputs], by simp [Step.Fits, Step.isLocal], rfl⟩
  | mark node => exact ⟨[.mark node], by simp [Step.Fits, Step.isLocal], rfl⟩
  | pass _ _ => exact ⟨[.warn _], by simp [Step.Fits, Step.isLocal, Warning.isCut], rfl⟩
  | idle _ _ _ => exact ⟨[.warn _], by simp [Step.Fits, Step.isLocal, Warning.isCut], rfl⟩
  | skip _ => exact ⟨[.warn _], by simp [Step.Fits, Step.isLocal, Warning.isCut], rfl⟩

theorem Acts.sane {s : Setup} {node : Node} {st st' : RunState} (h : Acts s node st st')
    (hnode : s.graph.node? node.id = some node) (hst : Sane s.graph st) : Sane s.graph st' := by
  obtain ⟨steps, hfits, rfl⟩ := (Moves.act hnode h).steps
  exact Setup.takeAll_sane hst steps fun step hstep => (hfits step hstep).1

namespace Setup

theorem start_cases (s : Setup) (entry : NodeId) (trigger : Trigger) :
    (∃ error, s.start entry trigger = .done (.error error)) ∨
      ∃ node, s.graph.node? entry = some node ∧ node.category? = some .event := by
  unfold start
  cases s.graph.node? entry with
  | none => exact .inl ⟨_, rfl⟩
  | some node =>
    dsimp only
    split
    · rename_i hevent
      exact .inr ⟨node, rfl, hevent⟩
    · exact .inl ⟨_, rfl⟩

theorem followEdge_visiting (s : Setup) {st : RunState} {edge : Edge}
    (h : (edge.target, edge.targetHandle) ∈ st.active) (deeper : Option (NodeId → Firing))
    (depth : Nat) : s.followEdge deeper depth edge st =
      .done (.going (st.warn (.cycleSkipped edge.target edge.targetHandle))) := by
  have hvisiting : st.isVisiting (edge.target, edge.targetHandle) = true :=
    List.contains_iff_mem.2 h
  simp only [followEdge, hvisiting, if_true]

end Setup

section Rules

variable (s : Setup) (good : RunState → Prop) (Φ : RunState → Activity Progress → Prop)

/-- Where the one state is reached, it is enough to go on from the other. -/
def Passes (st st' : RunState) : Prop := good st' ∧ ∀ a, Φ st' a → Φ st a

def Path.Has (path : Path) : Prop := ∀ st, good st → Φ st (path st)

/-- A property of what is done from a state on that is put together from its parts. -/
structure Rules : Prop where
  stop : Path.Has good Φ Path.skip
  move : ∀ st st', Moves s st st' → good st → Passes good Φ st st'
  note : ∀ st note rest, Φ st (rest ()) → Φ st (.noting note st rest)
  call : ∀ st node inputs resume, s.graph.node? node.id = some node →
    node.kind? = some .action → good st →
    (∀ cause, resume (.error cause) =
      .done (.failed st (.actionFailed node.id node.definition cause))) →
    (∀ outputs, Φ st (resume (.ok outputs))) →
    Φ st (.calling ⟨node.id, node.definition, inputs, node.config⟩ st resume)
  wait : ∀ st delay resume, Φ st (resume ()) → Φ st (.waiting delay st resume)
  andThen : ∀ st first second, Φ st first → Path.Has good Φ second →
    Φ st (Path.andThen first second)

end Rules

namespace Passes

variable {good : RunState → Prop} {Φ : RunState → Activity Progress → Prop}
  {st st' st'' : RunState}

theorem refl (hst : good st) : Passes good Φ st st := ⟨hst, fun _ h => h⟩

theorem trans (h : Passes good Φ st st') (h' : Passes good Φ st' st'') : Passes good Φ st st'' :=
  ⟨h'.1, fun a ha => h.2 a (h'.2 a ha)⟩

theorem along {path : Path} (h : Passes good Φ st st') (hpath : Path.Has good Φ path) :
    Φ st (path st') :=
  h.2 _ (hpath st' h.1)

end Passes

namespace Rules

variable {s : Setup} {good : RunState → Prop} {Φ : RunState → Activity Progress → Prop}
  {st st' st'' : RunState}

theorem done (hr : Rules s good Φ) (h : Passes good Φ st st') : Φ st (.done (.going st')) :=
  h.2 _ (hr.stop st' h.1)

theorem each (hr : Rules s good Φ) {ι : Type} {path : ι → Path} {items : List ι}
    (h : ∀ i ∈ items, Path.Has good Φ (path i)) : Path.Has good Φ (Path.each path items) := by
  induction items with
  | nil => exact hr.stop
  | cons i rest ih =>
    intro st hst
    exact hr.andThen st _ _ (h i List.mem_cons_self st hst)
      (ih fun i hi => h i (List.mem_cons_of_mem _ hi))

variable {node : Node} {fire : Firing}

theorem act (hr : Rules s good Φ) (hnode : s.graph.node? node.id = some node)
    (h : Acts s node st st') (hst : good st) : Passes good Φ st st' :=
  hr.move st st' (.act hnode h) hst

theorem acts (hr : Rules s good Φ) (hnode : s.graph.node? node.id = some node)
    (h : Relation.ReflTransGen (Acts s node) st st') (hst : good st) : Passes good Φ st st' := by
  induction h with
  | refl => exact .refl hst
  | tail _ hact ih => exact ih.trans (hr.act hnode hact ih.1)

theorem conducts (hr : Rules s good Φ) (hnode : s.graph.node? node.id = some node)
    (hfire : ∀ handle, Path.Has good Φ (fire handle)) {exits : List NodeExit}
    {a : Activity Progress} (h : Conducts s node fire exits st a) (hst : good st) : Φ st a := by
  induction h with
  | done st => exact hr.stop st hst
  | act hact _ ih =>
    have hpass := hr.act hnode hact hst
    exact hpass.2 _ (ih hpass.1)
  | call inputs hkind herror _ ih =>
    refine hr.call _ node inputs _ hnode hkind hst herror fun outputs => ?_
    have hpass := hr.move _ _ (.store node.id outputs) hst
    exact hpass.2 _ (ih outputs hpass.1)
  | wait delay _ ih => exact hr.wait _ delay _ (ih hst)
  | leave exit _ ih =>
    refine hr.andThen _ _ _ ?_ fun st' hst' => ih st' hst'
    cases exit with
    | plain handle => exact hfire handle _ hst
    | iteration element index =>
      have hpass := hr.move _ _ (.store node.id (iterationOutputs element index)) hst
      exact hpass.along (hfire "loopBody")

theorem execute (hr : Rules s good Φ) (hnode : s.graph.node? node.id = some node)
    (hfire : ∀ handle, Path.Has good Φ (fire handle)) :
    Path.Has good Φ (s.execute fire node) := by
  intro st hst
  rcases Setup.execute_cases hnode fire st with ⟨hkind, heq⟩ | ⟨exits, rest, -, heq, hconducts⟩
  · rw [heq]
    exact hr.done (hr.move _ _ (.pass hnode hkind) hst)
  · have hmark := hr.move _ _ (.mark node.id) hst
    rw [heq]
    exact hmark.2 _ (hr.note _ _ _ (hr.conducts hnode hfire hconducts hmark.1))

/-- Behind an edge another property may hold of what is done while the guard is set. -/
theorem followEdge {inner : RunState → Prop} {Ψ : RunState → Activity Progress → Prop}
    (hr : Rules s good Φ) (hinner : Rules s inner Ψ) {deeper : NodeId → Firing} {depth : Nat}
    {edge : Edge} (hfire : ∀ node handle, Path.Has inner Ψ (deeper node handle))
    (hvisit : ∀ st, good st → (edge.target, edge.targetHandle) ∉ st.active →
      inner (st.beginVisit (edge.target, edge.targetHandle)) ∧
        ∀ a, Ψ (st.beginVisit (edge.target, edge.targetHandle)) a →
          Φ st (a.map (Progress.mapState (·.endVisit (edge.target, edge.targetHandle))))) :
    Path.Has good Φ (s.followEdge (some deeper) depth edge) := by
  intro st hst
  unfold Setup.followEdge
  dsimp only
  split
  · rename_i hvisiting
    exact hr.done (hr.move _ _ (.skip (List.contains_iff_mem.1 hvisiting)) hst)
  · rename_i hvisiting
    split
    · exact hr.stop st hst
    · rename_i target htarget
      have hnode := s.graph.node?_self htarget
      obtain ⟨hgood, hback⟩ := hvisit st hst fun h => hvisiting (List.contains_iff_mem.2 h)
      exact hback _ (hinner.execute hnode (hfire target.id) _ hgood)

theorem fireWith (hr : Rules s good Φ) {deeper : Option (NodeId → Firing)} {depth : Nat}
    {id : NodeId} {handle : Handle}
    (h : ∀ edge ∈ s.graph.edgesLeaving id handle,
      Path.Has good Φ (s.followEdge deeper depth edge)) :
    Path.Has good Φ (s.fireWith deeper depth id handle) :=
  fun st hst => hr.note st _ _ (hr.each h st hst)

theorem run (hr : Rules s good Φ) (hfire : ∀ id handle, Path.Has good Φ (s.fireAt 0 id handle))
    {entry : NodeId} {trigger : Trigger} (hfresh : good (RunState.fresh trigger))
    (hnode : s.graph.node? entry = some node) (hevent : node.category? = some .event) :
    ∃ a, Φ (RunState.fresh trigger) a ∧ s.start entry trigger = a.map Progress.outcome := by
  have hmark := hr.move _ _ (.mark node.id) hfresh
  unfold Setup.start
  rw [hnode]
  dsimp only
  rw [if_pos hevent]
  split
  · rename_i pin _
    exact ⟨_, hmark.along (hfire node.id pin.id), rfl⟩
  · rename_i hnone
    have hidle := hr.move _ _ (.idle (s.graph.node?_self hnode) hevent hnone) hmark.1
    exact ⟨_, hr.done (hmark.trans hidle), rfl⟩

end Rules

def Activity.Keeps (good : RunState → Prop) (R : RunState → RunState → Prop) (st : RunState)
    (a : Activity Progress) : Prop :=
  a.Traced R (fun last p => R last p.state ∧ good p.state) st

structure Kept (s : Setup) (good : RunState → Prop) (R : RunState → RunState → Prop) : Prop where
  refl : ∀ st, R st st
  trans : ∀ st st' st'', R st st' → R st' st'' → R st st''
  move : ∀ st st', Moves s st st' → good st → R st st' ∧ good st'

namespace Kept

variable {s : Setup} {good inner : RunState → Prop} {R : RunState → RunState → Prop}

theorem of_steps (hrefl : ∀ st, R st st) (htrans : ∀ st st' st'', R st st' → R st' st'' → R st st'')
    (hstep : ∀ st step, step.Fits s.graph → step.isLocal = true → good st →
      R st (s.take st step) ∧ good (s.take st step)) : Kept s good R where
  refl := hrefl
  trans := htrans
  move st st' hmove hst := by
    obtain ⟨steps, hsteps, rfl⟩ := hmove.steps
    clear hmove
    induction steps generalizing st with
    | nil => exact ⟨hrefl st, hst⟩
    | cons step rest ih =>
      obtain ⟨hfits, hlocal⟩ := hsteps step List.mem_cons_self
      obtain ⟨hR, hgood⟩ := hstep st step hfits hlocal hst
      obtain ⟨hR', hgood'⟩ := ih _ hgood fun step h => hsteps step (List.mem_cons_of_mem _ h)
      exact ⟨htrans _ _ _ hR hR', hgood'⟩

theorem start (hk : Kept s good R) {st st' : RunState} {a : Activity Progress} (hst : R st st')
    (h : a.Keeps good R st') : a.Keeps good R st :=
  h.start hk.trans (fun _ _ _ hR hp => ⟨hk.trans _ _ _ hR hp.1, hp.2⟩) hst

theorem rules (hk : Kept s good R) : Rules s good (Activity.Keeps good R) where
  stop st hst := ⟨hk.refl st, hst⟩
  move st st' hmove hst :=
    have ⟨hR, hgood⟩ := hk.move st st' hmove hst
    ⟨hgood, fun _ ha => hk.start hR ha⟩
  note st _ _ h := ⟨hk.refl st, h⟩
  call st node inputs resume _ _ hst herror hok := by
    refine ⟨hk.refl st, fun reply => ?_⟩
    cases reply with
    | ok outputs => exact hok outputs
    | error cause =>
      rw [herror]
      exact ⟨hk.refl st, hst⟩
  wait st _ _ h := ⟨hk.refl st, h⟩
  andThen st first second hfirst hsecond := by
    refine hfirst.bind fun last p hp => ?_
    cases p with
    | going st' => exact hk.start hp.1 (hsecond st' hp.2)
    | failed st' error => exact hp

theorem followEdge (hk : Kept s good R) (hinner : Kept s inner R) {deeper : NodeId → Firing}
    {depth : Nat} {edge : Edge}
    (hfire : ∀ node handle, Path.Has inner (Activity.Keeps inner R) (deeper node handle))
    (henter : ∀ st, good st → (edge.target, edge.targetHandle) ∉ st.active →
      R st (st.beginVisit (edge.target, edge.targetHandle)) ∧
        inner (st.beginVisit (edge.target, edge.targetHandle)))
    (hleave : ∀ st, inner st → R st (st.endVisit (edge.target, edge.targetHandle)) ∧
      good (st.endVisit (edge.target, edge.targetHandle))) :
    Path.Has good (Activity.Keeps good R) (s.followEdge (some deeper) depth edge) := by
  refine hk.rules.followEdge hinner.rules hfire fun st hst hkey => ?_
  obtain ⟨hR, hgood⟩ := henter st hst hkey
  refine ⟨hgood, fun a ha => hk.start hR (ha.bind fun last p hp => ?_)⟩
  obtain ⟨hlast, hp⟩ := hp
  obtain ⟨hR', hgood'⟩ := hleave p.state hp
  cases p with
  | going st' => exact ⟨hk.trans _ _ _ hlast hR', hgood'⟩
  | failed st' error => exact ⟨hk.trans _ _ _ hlast hR', hgood'⟩

theorem run (hk : Kept s good R)
    (hfire : ∀ id handle, Path.Has good (Activity.Keeps good R) (s.fireAt 0 id handle))
    (entry : NodeId) {trigger : Trigger} (hfresh : good (RunState.fresh trigger)) :
    (s.start entry trigger).Traced R
      (fun last result => ∀ st, result = .ok st → R last st ∧ good st)
      (RunState.fresh trigger) := by
  rcases s.start_cases entry trigger with ⟨error, herror⟩ | ⟨node, hnode, hevent⟩
  · rw [herror]
    exact fun _ h => nomatch h
  · obtain ⟨a, ha, hrun⟩ := hk.rules.run hfire hfresh hnode hevent
    rw [hrun]
    refine ha.bind fun last p hp => ?_
    cases p with
    | going st =>
      rintro _ ⟨⟩
      exact hp
    | failed st error => exact fun _ h => nomatch h

end Kept

end PinFlow
