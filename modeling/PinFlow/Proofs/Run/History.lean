import PinFlow.Proofs.Run.DepthBound

set_option autoImplicit false

/-!
# The history of a run

What a run has noted and called so far, with the states at the time and the replies. `Recounts` says
of a run that each state it shows is in accord with the history before it, whatever the replies are.
`Chronicle` collects what has to be checked of such a property; nodes are checked with `Phases`,
which follow a node from exit to exit, and edges and runs then have it.
-/

namespace PinFlow

def Graph.hasKind (g : Graph) (kind : NodeKind) (id : NodeId) : Bool :=
  (g.node? id).bind Node.kind? = some kind

theorem Graph.hasKind_eq {g : Graph} {node : Node} (h : g.node? node.id = some node)
    (kind : NodeKind) : g.hasKind kind node.id = decide (node.kind? = some kind) := by
  rw [hasKind, h, Option.bind_some]

theorem Node.kind?_ne {node : Node} {kind : NodeKind} {category : Category}
    (h : node.category? = some category) (hne : kind.category ≠ category) :
    node.kind? ≠ some kind := by
  intro hkind
  rw [category?, hkind] at h
  exact hne (Option.some.inj h)

/-- Something that a run has done: it has noted where it was, or made a call and got a reply. -/
inductive Deed where
  | noted (note : Note) (state : RunState)
  | called (call : Call) (state : RunState) (reply : Reply)

namespace Deed

def state : Deed → RunState
  | .noted _ st => st
  | .called _ st _ => st

def call? : Deed → Option Call
  | .noted _ _ => none
  | .called call _ _ => some call

end Deed

namespace Activity

variable {α β : Type}

/-- After what was done in the past, latest first, each state that is shown is in accord with what
    was done before it, and so is the result. -/
def Recounts (P : List Deed → RunState → Prop) (ends : List Deed → α → Prop) :
    List Deed → Activity α → Prop
  | past, .done result => ends past result
  | past, .noting note st rest =>
    P (.noted note st :: past) st ∧ Recounts P ends (.noted note st :: past) (rest ())
  | past, .calling call st resume =>
    P past st ∧ ∀ reply, Recounts P ends (.called call st reply :: past) (resume reply)
  | past, .waiting _ st resume => P past st ∧ Recounts P ends past (resume ())

variable {P : List Deed → RunState → Prop} {mid : List Deed → α → Prop}
  {ends : List Deed → β → Prop} {past : List Deed}

theorem Recounts.bind {a : Activity α} {f : α → Activity β} (h : a.Recounts P mid past)
    (hf : ∀ past' x, mid past' x → (f x).Recounts P ends past') :
    (a.bind f).Recounts P ends past := by
  induction a generalizing past with
  | done result => exact hf past result h
  | noting note st rest ih => exact ⟨h.1, ih () h.2⟩
  | calling call st resume ih => exact ⟨h.1, fun reply => ih reply (h.2 reply)⟩
  | waiting delay st resume ih => exact ⟨h.1, ih () h.2⟩

theorem Recounts.mono {P' : List Deed → RunState → Prop} {mid' : List Deed → α → Prop}
    (hP : ∀ past st, P past st → P' past st) (hmid : ∀ past x, mid past x → mid' past x)
    {a : Activity α} (h : a.Recounts P mid past) : a.Recounts P' mid' past := by
  induction a generalizing past with
  | done result => exact hmid past result h
  | noting note st rest ih => exact ⟨hP _ _ h.1, ih () h.2⟩
  | calling call st resume ih => exact ⟨hP _ _ h.1, fun reply => ih reply (h.2 reply)⟩
  | waiting delay st resume ih => exact ⟨hP _ _ h.1, ih () h.2⟩

theorem Recounts.and {P' : List Deed → RunState → Prop} {mid' : List Deed → α → Prop}
    {a : Activity α} (h : a.Recounts P mid past) (h' : a.Recounts P' mid' past) :
    a.Recounts (fun past st => P past st ∧ P' past st) (fun past x => mid past x ∧ mid' past x)
      past := by
  induction a generalizing past with
  | done result => exact ⟨h, h'⟩
  | noting note st rest ih => exact ⟨⟨h.1, h'.1⟩, ih () h.2 h'.2⟩
  | calling call st resume ih =>
    exact ⟨⟨h.1, h'.1⟩, fun reply => ih reply (h.2 reply) (h'.2 reply)⟩
  | waiting delay st resume ih => exact ⟨⟨h.1, h'.1⟩, ih () h.2 h'.2⟩

/-- The history at the end of a run that goes on from the past, latest first, if the dispatcher
    answers its calls. -/
def deedsFrom (d : Dispatcher) : List Deed → Activity α → List Deed
  | past, .done _ => past
  | past, .noting note st rest => deedsFrom d (.noted note st :: past) (rest ())
  | past, .calling call st resume =>
    deedsFrom d (.called call st (d (past.filterMap Deed.call?) call) :: past)
      (resume (d (past.filterMap Deed.call?) call))
  | past, .waiting _ _ resume => deedsFrom d past (resume ())

def deeds (d : Dispatcher) (a : Activity α) : List Deed := a.deedsFrom d []

theorem playFrom_calls_eq_deeds (d : Dispatcher) (time : Nat) {earlier : List TimedCall}
    (hearlier : earlier.map TimedCall.call = past.filterMap Deed.call?) (a : Activity α) :
    (a.playFrom d time earlier).calls.map TimedCall.call =
      ((a.deedsFrom d past).filterMap Deed.call?).reverse := by
  induction a generalizing past time earlier with
  | done result => rw [playFrom, deedsFrom, List.map_reverse, hearlier]
  | noting note st rest ih => exact ih () time hearlier
  | calling call st resume ih =>
    rw [playFrom, deedsFrom, ← hearlier]
    exact ih _ time (congrArg (call :: ·) hearlier)
  | waiting delay st resume ih => exact ih () _ hearlier

theorem play_calls_eq_deeds (d : Dispatcher) (a : Activity α) :
    (a.play d).calls.map TimedCall.call = ((a.deeds d).filterMap Deed.call?).reverse :=
  playFrom_calls_eq_deeds d 0 rfl a

theorem Recounts.playFrom {a : Activity α} (h : a.Recounts P mid past) (d : Dispatcher)
    (time : Nat) {earlier : List TimedCall}
    (hearlier : earlier.map TimedCall.call = past.filterMap Deed.call?) :
    mid (a.deedsFrom d past) (a.playFrom d time earlier).result := by
  induction a generalizing past time earlier with
  | done result => exact h
  | noting note st rest ih => exact ih () h.2 time hearlier
  | calling call st resume ih =>
    rw [Activity.playFrom, deedsFrom, ← hearlier]
    exact ih _ (h.2 _) time (congrArg (call :: ·) hearlier)
  | waiting delay st resume ih => exact ih () h.2 _ hearlier

theorem Recounts.play {a : Activity α} (h : a.Recounts P mid []) (d : Dispatcher) :
    mid (a.deeds d) (a.play d).result :=
  h.playFrom d 0 rfl

end Activity

/-- The history has gone on with deeds at the ends of paths that have at least the given length. -/
def Since (length : Nat) (past past' : List Deed) : Prop :=
  ∃ new, past' = new ++ past ∧ ∀ deed ∈ new, length ≤ deed.state.active.length

namespace Since

variable {length : Nat} {past past' past'' : List Deed}

theorem refl (length : Nat) (past : List Deed) : Since length past past :=
  ⟨[], rfl, List.forall_mem_nil _⟩

theorem trans (h : Since length past past') (h' : Since length past' past'') :
    Since length past past'' := by
  obtain ⟨new, rfl, hnew⟩ := h
  obtain ⟨new', rfl, hnew'⟩ := h'
  refine ⟨new' ++ new, (List.append_assoc _ _ _).symm, fun deed hdeed => ?_⟩
  exact (List.mem_append.1 hdeed).elim (hnew' deed) (hnew deed)

theorem single {deed : Deed} {path : List PinKey} (h : deed.state.AtRest path) :
    Since path.length past (deed :: past) :=
  ⟨[deed], rfl, List.forall_mem_singleton.2 (Nat.le_of_eq (congrArg List.length h.active.symm))⟩

theorem le {length' : Nat} (h : Since length past past') (hle : length' ≤ length) :
    Since length' past past' := by
  obtain ⟨new, rfl, hnew⟩ := h
  exact ⟨new, rfl, fun deed hdeed => hle.trans (hnew deed hdeed)⟩

theorem subset (h : Since length past past') : past ⊆ past' := by
  obtain ⟨new, rfl, -⟩ := h
  exact List.subset_append_right new past

end Since

/-- From the past on, the invariant was carried to a later history and state, with the same
    traversals in progress. -/
structure Carried (I : List Deed → RunState → Prop) (path : List PinKey) (length : Nat)
    (past past' : List Deed) (st : RunState) : Prop where
  holds : I past' st
  atRest : st.AtRest path
  since : Since length past past'

namespace Carried

variable {I : List Deed → RunState → Prop} {path : List PinKey} {length : Nat}
  {past past' past'' : List Deed} {st : RunState}

theorem refl (hst : I past st) (hrest : st.AtRest path) : Carried I path length past past st :=
  ⟨hst, hrest, .refl length past⟩

theorem after (h : Since length past past') (h' : Carried I path length past' past'' st) :
    Carried I path length past past'' st :=
  { h' with since := h.trans h'.since }

end Carried

section Carries

variable (P I : List Deed → RunState → Prop) (path : List PinKey)

def Activity.Carries (length : Nat) (past : List Deed) (a : Activity Progress) : Prop :=
  a.Recounts P (fun past' p => Carried I path length past past' p.state) past

def Path.Carries (length : Nat) (p : Path) : Prop :=
  ∀ past st, I past st → st.AtRest path → (p st).Carries P I path length past

/-- Once it is noted that an output of the node fires, what is behind the output carries the
    invariant, at the ends of longer paths. -/
def Firing.Carries (node : NodeId) (fire : Firing) : Prop :=
  ∀ handle past st, I (.noted (.firing node handle) st :: past) st → st.AtRest path →
    (fire handle st).Recounts P
      (fun past' p => Carried I path (path.length + 1) (.noted (.firing node handle) st :: past)
        past' p.state) past

end Carries

namespace Activity.Carries

variable {P I : List Deed → RunState → Prop} {path : List PinKey} {length : Nat}
  {past past' : List Deed} {a : Activity Progress}

theorem after (hsince : Since length past past')
    (h : a.Recounts P (fun past'' p => Carried I path length past' past'' p.state) past') :
    a.Recounts P (fun past'' p => Carried I path length past past'' p.state) past' :=
  h.mono (fun _ _ hp => hp) fun _ _ hp => hp.after hsince

theorem andThen {second : Path} (h : a.Carries P I path length past)
    (hsecond : second.Carries P I path length) :
    (Path.andThen a second).Carries P I path length past := by
  refine h.bind fun past' p hp => ?_
  cases p with
  | going st => exact after hp.since (hsecond past' st hp.holds hp.atRest)
  | failed st error => exact hp

end Activity.Carries

theorem Path.Carries.each {P I : List Deed → RunState → Prop} {path : List PinKey} {length : Nat}
    {ι : Type} {follow : ι → Path} {items : List ι}
    (h : ∀ i ∈ items, (follow i).Carries P I path length) :
    (Path.each follow items).Carries P I path length := by
  induction items with
  | nil => exact fun past st hst hrest => .refl hst hrest
  | cons i rest ih =>
    intro past st hst hrest
    exact (h i List.mem_cons_self past st hst hrest).andThen
      (ih fun j hj => h j (List.mem_cons_of_mem _ hj))

theorem Firing.Carries.fireDefault {P I : List Deed → RunState → Prop} {path : List PinKey}
    {node : Node} {fire : Firing} (h : fire.Carries P I path node.id)
    (hnote : ∀ handle past st, I past st → I (.noted (.firing node.id handle) st :: past) st) :
    (fireDefault fire node).Carries P I path path.length := by
  intro past st hst hrest
  unfold PinFlow.fireDefault
  cases node.defaultOutput? with
  | none => exact .refl hst hrest
  | some pin =>
    have hsince : Since path.length past (.noted (.firing node.id pin.id) st :: past) :=
      .single hrest
    refine (h pin.id past st (hnote pin.id past st hst) hrest).mono (fun _ _ hp => hp) ?_
    exact fun _ _ hp => ⟨hp.holds, hp.atRest, hsince.trans (hp.since.le (Nat.le_succ _))⟩

/-- How a node goes on from exit to exit: while some exits are left, `J` holds between them. -/
structure Phases (s : Setup) (P I : List Deed → RunState → Prop) (path : List PinKey) (node : Node)
    (J : List NodeExit → List Deed → RunState → Prop) : Prop where
  point : ∀ exits past st, J exits past st → P past st
  act : ∀ exits past st st', J exits past st → st.AtRest path → Acts s node st st' →
    J exits past st'
  refused : ∀ exits past st inputs cause, J exits past st → st.AtRest path →
    node.kind? = some .action →
    I (.called ⟨node.id, node.definition, inputs, node.config⟩ st (.error cause) :: past) st
  answered : ∀ exits past st inputs outputs, J exits past st → st.AtRest path →
    node.kind? = some .action →
    J exits (.called ⟨node.id, node.definition, inputs, node.config⟩ st (.ok outputs) :: past)
      (st.setOutputs node.id outputs)
  fires : ∀ exit exits past st, J (exit :: exits) past st → st.AtRest path →
    I (.noted (.firing node.id exit.handle) (exit.ready node.id st) :: past)
      (exit.ready node.id st)
  back : ∀ exit exits past past' st st', J (exit :: exits) past st → st.AtRest path →
    Carried I path (path.length + 1)
      (.noted (.firing node.id exit.handle) (exit.ready node.id st) :: past) past' st' →
    J exits past' st'
  done : ∀ past st, J [] past st → I past st

namespace Phases

variable {s : Setup} {P I : List Deed → RunState → Prop} {path : List PinKey} {node : Node}
  {J : List NodeExit → List Deed → RunState → Prop} {fire : Firing}

theorem carries (h : Phases s P I path node J) (hfire : fire.Carries P I path node.id)
    {exits : List NodeExit} {st : RunState} {a : Activity Progress}
    (hconducts : Conducts s node fire exits st a) {past : List Deed} (hst : J exits past st)
    (hrest : st.AtRest path) : a.Carries P I path path.length past := by
  -- Along what the node does, `J` holds of the exits that are left, and the past grows.
  induction hconducts generalizing past with
  | done st => exact .refl (h.done past st hst) hrest
  | act hact _ ih => exact ih (h.act _ _ _ _ hst hrest hact) (hrest.frame hact.frame)
  | @call exits st inputs resume hkind herror _ ih =>
    refine ⟨h.point _ _ _ hst, fun reply => ?_⟩
    have hsince : Since path.length past
        (.called ⟨node.id, node.definition, inputs, node.config⟩ st reply :: past) :=
      .single hrest
    refine Activity.Carries.after hsince ?_
    cases reply with
    | ok outputs =>
      exact ih outputs (h.answered _ _ _ _ _ hst hrest hkind) ⟨hrest.resolving, hrest.active⟩
    | error cause =>
      rw [herror]
      exact .refl (h.refused _ _ _ _ _ hst hrest hkind) hrest
  | wait delay _ ih => exact ⟨h.point _ _ _ hst, ih hst hrest⟩
  | @leave exits st exit rest _ ih =>
    have hready : (exit.ready node.id st).AtRest path := by
      cases exit with
      | plain handle => exact hrest
      | iteration element index => exact ⟨hrest.resolving, hrest.active⟩
    have hnoted : Since path.length past
        (.noted (.firing node.id exit.handle) (exit.ready node.id st) :: past) :=
      .single hready
    refine (hfire exit.handle past _ (h.fires _ _ _ _ hst hrest) hready).bind fun past' p hp => ?_
    -- Only the note itself is at the end of this path; all behind the exit is at longer ones.
    have hsince : Since path.length past past' := hnoted.trans (hp.since.le (Nat.le_succ _))
    cases p with
    | going st' =>
      exact Activity.Carries.after hsince (ih st' (h.back _ _ _ _ _ _ hst hrest hp) hp.atRest)
    | failed st' error => exact ⟨hp.holds, hp.atRest, hsince⟩

theorem enter (h : Phases s P I path node J) (hfire : fire.Carries P I path node.id)
    {exits : List NodeExit} {past : List Deed} {st : RunState} {rest : Unit → Activity Progress}
    (hconducts : Conducts s node fire exits (st.markExecuted node.id) (rest ()))
    (hst : J exits (.noted (.entered node.id) (st.markExecuted node.id) :: past)
      (st.markExecuted node.id))
    (hrest : st.AtRest path) :
    Activity.Carries P I path path.length past
      (.noting (.entered node.id) (st.markExecuted node.id) rest) := by
  have hmarked : (st.markExecuted node.id).AtRest path := ⟨hrest.resolving, hrest.active⟩
  exact ⟨h.point _ _ _ hst,
    Activity.Carries.after (.single hmarked) (h.carries hfire hconducts hst hmarked)⟩

theorem execute (h : Phases s P I path node J) (hfire : fire.Carries P I path node.id)
    (hnode : s.graph.node? node.id = some node)
    (hpass : ∀ past st, I past st →
      I past (st.warn (.unknownDefinition node.id node.definition)))
    (henter : ∀ exits past st, node.MayTake exits → I past st →
      J exits (.noted (.entered node.id) (st.markExecuted node.id) :: past)
        (st.markExecuted node.id)) :
    (s.execute fire node).Carries P I path path.length := by
  intro past st hst hrest
  rcases Setup.execute_cases hnode fire st with ⟨-, heq⟩ | ⟨exits, rest, hmay, heq, hconducts⟩
  · rw [heq]
    exact .refl (hpass past st hst) ⟨hrest.resolving, hrest.active⟩
  · rw [heq]
    exact h.enter hfire hconducts (henter exits past st hmay hst) hrest

end Phases

/-- An invariant of histories and states that every node carries, and what it says of the states
    that are shown. -/
structure Chronicle (s : Setup) (P I : List Deed → RunState → Prop) : Prop where
  point : ∀ past st, I past st → P past st
  guard : ∀ past st active, I past st → I past { st with active := active }
  skip : ∀ past st node handle, I past st → I past (st.warn (.cycleSkipped node handle))
  cut : ∀ past st node depth, I past st → I past (st.warn (.depthLimitReached node depth))
  node : ∀ path node fire, s.graph.node? node.id = some node → fire.Carries P I path node.id →
    (s.execute fire node).Carries P I path path.length
  idle : ∀ node trigger, s.graph.node? node.id = some node → node.category? = some .event →
    I [] (((RunState.fresh trigger).markExecuted node.id).warn (.noExecOutput node.id))
  fires : ∀ node handle trigger, s.graph.node? node.id = some node →
    node.category? = some .event →
    I [.noted (.firing node.id handle) ((RunState.fresh trigger).markExecuted node.id)]
      ((RunState.fresh trigger).markExecuted node.id)

namespace Chronicle

variable {s : Setup} {P I : List Deed → RunState → Prop}

theorem followEdge_none (h : Chronicle s P I) (path : List PinKey) (length depth : Nat)
    (edge : Edge) : (s.followEdge none depth edge).Carries P I path length := by
  intro past st hst hrest
  unfold Setup.followEdge
  dsimp only
  split
  · exact .refl (h.skip _ _ _ _ hst) ⟨hrest.resolving, hrest.active⟩
  · exact .refl (h.cut _ _ _ _ hst) ⟨hrest.resolving, hrest.active⟩

theorem followEdge_some (h : Chronicle s P I) {path : List PinKey} {deeper : NodeId → Firing}
    (hdeeper : ∀ path id, (deeper id).Carries P I path id) (depth : Nat) (edge : Edge) :
    (s.followEdge (some deeper) depth edge).Carries P I path (path.length + 1) := by
  intro past st hst hrest
  unfold Setup.followEdge
  dsimp only
  split
  · exact .refl (h.skip _ _ _ _ hst) ⟨hrest.resolving, hrest.active⟩
  · split
    · exact .refl hst hrest
    · rename_i target htarget
      have hnode := s.graph.node?_self htarget
      have hexecute := h.node ((edge.target, edge.targetHandle) :: path) target _ hnode
        (hdeeper _ target.id) past _ (h.guard past st _ hst) hrest.beginVisit
      refine hexecute.bind fun past' p hp => ?_
      cases p with
      | going st' => exact ⟨h.guard _ _ _ hp.holds, hp.atRest.endVisit, hp.since⟩
      | failed st' error => exact ⟨h.guard _ _ _ hp.holds, hp.atRest.endVisit, hp.since⟩

theorem fireWith (h : Chronicle s P I) {path : List PinKey} {deeper : Option (NodeId → Firing)}
    {depth : Nat}
    (hedge : ∀ edge, (s.followEdge deeper depth edge).Carries P I path (path.length + 1))
    (id : NodeId) : (s.fireWith deeper depth id).Carries P I path id := by
  intro handle past st hst hrest
  exact ⟨h.point _ _ hst, Path.Carries.each (fun edge _ => hedge edge) _ st hst hrest⟩

theorem fireFrom (h : Chronicle s P I) (room depth : Nat) (path : List PinKey) (id : NodeId) :
    (s.fireFrom room depth id).Carries P I path id := by
  induction room generalizing depth path id with
  | zero => exact h.fireWith (fun edge => h.followEdge_none path _ depth edge) id
  | succ room ih =>
    exact h.fireWith (fun edge => h.followEdge_some (ih (depth + 1)) depth edge) id

theorem start (h : Chronicle s P I) (entry : NodeId) (trigger : Trigger) :
    (s.start entry trigger).Recounts P (fun past result => ∀ st, result = .ok st → I past st)
      [] := by
  rcases s.start_cases entry trigger with ⟨error, herror⟩ | ⟨node, hnode, hevent⟩
  · rw [herror]
    exact fun _ h => nomatch h
  · have hpresent := s.graph.node?_self hnode
    unfold Setup.start
    rw [hnode]
    dsimp only
    rw [if_pos hevent]
    split
    · rename_i pin _
      have hfire := h.fireFrom (s.limits.maxDepth - 0) 0 [] node.id pin.id [] _
        (h.fires node pin.id trigger hpresent hevent) ⟨rfl, rfl⟩
      refine hfire.bind fun past p hp => ?_
      cases p with
      | going st =>
        rintro _ ⟨⟩
        exact hp.holds
      | failed st error => exact fun _ h => nomatch h
    · rintro _ ⟨⟩
      exact h.idle node trigger hpresent hevent

end Chronicle

end PinFlow
