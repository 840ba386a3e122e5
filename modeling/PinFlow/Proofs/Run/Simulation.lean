import PinFlow.Proofs.Reading.Origin
import PinFlow.Run.Dispatcher
import PinFlow.Run.Traversal

set_option autoImplicit false

/-!
# Runs that cover other runs

A run covers another if, whatever the replies are, it makes the same calls and waits as long, and
differs by notes of its own only. Then whoever answers the calls sees no difference. `Tracks` says
what is asked of a relation between the states of two setups; then executing a node that is not pure
covers executing it in the other setup, given that the ways of leaving the node do.
-/

namespace PinFlow

namespace Activity

variable {α β γ δ : Type}

inductive Covers (R : α → β → Prop) : Activity α → Activity β → Prop where
  | done {x : α} {y : β} : R x y → Covers R (.done x) (.done y)
  | noting (note : Note) {st st' : RunState} {rest : Unit → Activity α}
      {rest' : Unit → Activity β} :
      Covers R (rest ()) (rest' ()) → Covers R (.noting note st rest) (.noting note st' rest')
  | aside {note : Note} {st : RunState} {rest : Unit → Activity α} {a : Activity β} :
      Covers R (rest ()) a → Covers R (.noting note st rest) a
  | calling (call : Call) {st st' : RunState} {resume : Reply → Activity α}
      {resume' : Reply → Activity β} :
      (∀ reply, Covers R (resume reply) (resume' reply)) →
      Covers R (.calling call st resume) (.calling call st' resume')
  | waiting (delay : Delay) {st st' : RunState} {resume : Unit → Activity α}
      {resume' : Unit → Activity β} :
      Covers R (resume ()) (resume' ()) →
      Covers R (.waiting delay st resume) (.waiting delay st' resume')

namespace Covers

variable {R : α → β → Prop} {S : γ → δ → Prop} {a : Activity α} {a' : Activity β}

theorem bind {f : α → Activity γ} {f' : β → Activity δ} (h : Covers R a a')
    (hf : ∀ x y, R x y → Covers S (f x) (f' y)) : Covers S (a.bind f) (a'.bind f') := by
  induction h with
  | done hxy => exact hf _ _ hxy
  | noting note _ ih => exact .noting note ih
  | aside _ ih => exact .aside ih
  | calling call _ ih => exact .calling call ih
  | waiting delay _ ih => exact .waiting delay ih

theorem played (h : Covers R a a') (d : Dispatcher) (time : Nat) (earlier : List TimedCall) :
    R (a.playFrom d time earlier).result (a'.playFrom d time earlier).result ∧
      (a'.playFrom d time earlier).calls = (a.playFrom d time earlier).calls ∧
      (a'.playFrom d time earlier).elapsed = (a.playFrom d time earlier).elapsed := by
  induction h generalizing time earlier with
  | done hxy => exact ⟨hxy, rfl, rfl⟩
  | noting note _ ih => exact ih time earlier
  | aside _ ih => exact ih time earlier
  | calling call _ ih => exact ih _ time _
  | waiting delay _ ih => exact ih _ earlier

end Covers

end Activity

inductive Progress.Alike (R : RunState → RunState → Prop) : Progress → Progress → Prop where
  | going {st st' : RunState} : R st st' → Alike R (.going st) (.going st')
  | failed (error : RunError) {st st' : RunState} : R st st' →
      Alike R (.failed st error) (.failed st' error)

inductive SameOutcome (R : RunState → RunState → Prop) :
    Except RunError RunState → Except RunError RunState → Prop where
  | ok {st st' : RunState} : R st st' → SameOutcome R (.ok st) (.ok st')
  | error (error : RunError) : SameOutcome R (.error error) (.error error)

theorem Progress.Alike.outcome {R : RunState → RunState → Prop} {p p' : Progress}
    (h : Progress.Alike R p p') : SameOutcome R p.outcome p'.outcome := by
  cases h with
  | going hst => exact .ok hst
  | failed error _ => exact .error error

theorem SameOutcome.mono {R S : RunState → RunState → Prop}
    {result result' : Except RunError RunState} (h : SameOutcome R result result')
    (hRS : ∀ st st', R st st' → S st st') : SameOutcome S result result' := by
  cases h with
  | ok hst => exact .ok (hRS _ _ hst)
  | error error => exact .error error

def Path.Covers (R : RunState → RunState → Prop) (path path' : Path) : Prop :=
  ∀ st st', R st st' → (path st).Covers (Progress.Alike R) (path' st')

namespace Path

variable {R : RunState → RunState → Prop} {ι : Type} {path path' : ι → Path}

theorem covers_skip : Path.Covers R skip skip := fun _ _ hst => .done (.going hst)

theorem covers_andThen {first first' : Activity Progress} {second second' : Path}
    (hfirst : first.Covers (Progress.Alike R) first') (hsecond : Path.Covers R second second') :
    (andThen first second).Covers (Progress.Alike R) (andThen first' second') := by
  refine hfirst.bind fun p p' hp => ?_
  cases hp with
  | going hst => exact hsecond _ _ hst
  | failed error hst => exact .done (.failed error hst)

theorem covers_each_filter {items : List ι} (keep : ι → Bool)
    (hkeep : ∀ i ∈ items, keep i = true → Path.Covers R (path i) (path' i))
    (hskip : ∀ i ∈ items, keep i = false → Path.Covers R (path i) skip) :
    Path.Covers R (each path items) (each path' (items.filter keep)) := by
  induction items with
  | nil => exact covers_skip
  | cons i rest ih =>
    have hrest := ih (fun j hj => hkeep j (List.mem_cons_of_mem _ hj))
      fun j hj => hskip j (List.mem_cons_of_mem _ hj)
    intro st st' hst
    cases hi : keep i with
    | true =>
      rw [List.filter_cons_of_pos hi]
      exact covers_andThen (hkeep i List.mem_cons_self hi st st' hst) hrest
    | false =>
      rw [List.filter_cons_of_neg (by simp [hi])]
      exact covers_andThen (hskip i List.mem_cons_self hi st st' hst) hrest

theorem covers_each {items : List ι} (h : ∀ i ∈ items, Path.Covers R (path i) (path' i)) :
    Path.Covers R (each path items) (each path' items) := by
  have hall : Path.Covers R (each path items) (each path' (items.filter fun _ => true)) :=
    covers_each_filter _ (fun i hi _ => h i hi) fun _ _ hfalse => nomatch hfalse
  rwa [List.filter_true] at hall

end Path

/-- From related states both setups read the same values, and what happens to both states keeps them
    related. Nothing is said of visits to pure nodes. -/
structure Tracks (s s' : Setup) (R : RunState → RunState → Prop) : Prop where
  node? : ∀ id, s'.graph.node? id = s.graph.node? id
  limits : s'.limits = s.limits
  read : ∀ {node : Node} (handle : Handle) {st st' : RunState},
    s.graph.node? node.id = some node → R st st' →
    ∃ value next next', s.readPin node handle st = (value, next) ∧
      s'.readPin node handle st' = (value, next') ∧ R next next'
  store : ∀ (node : NodeId) (outputs : Fields Value) {st st' : RunState}, R st st' →
    R (st.setOutputs node outputs) (st'.setOutputs node outputs)
  warn : ∀ (w : Warning) {st st' : RunState}, R st st' → R (st.warn w) (st'.warn w)
  mark : ∀ {node : Node} {st st' : RunState}, s.graph.node? node.id = some node →
    node.category? ≠ some .pure → R st st' →
    R (st.markExecuted node.id) (st'.markExecuted node.id)
  active : ∀ {st st' : RunState}, R st st' → st'.active = st.active
  enter : ∀ (key : PinKey) {st st' : RunState}, R st st' → R (st.beginVisit key) (st'.beginVisit key)
  leave : ∀ (key : PinKey) {st st' : RunState}, R st st' → R (st.endVisit key) (st'.endVisit key)

namespace Tracks

variable {s s' : Setup} {R : RunState → RunState → Prop} {fire fire' : Firing} {node : Node}

theorem fireDefault (hfire : ∀ handle, Path.Covers R (fire handle) (fire' handle)) :
    Path.Covers R (PinFlow.fireDefault fire node) (PinFlow.fireDefault fire' node) := by
  unfold PinFlow.fireDefault
  cases node.defaultOutput? with
  | some pin => exact hfire pin.id
  | none => exact Path.covers_skip

theorem addActionInput (ht : Tracks s s' R) (hnode : s.graph.node? node.id = some node)
    (inputs : Fields Value) {st st' : RunState} (hst : R st st') (pin : Pin) :
    ∃ inputs' next next', s.addActionInput node (inputs, st) pin = (inputs', next) ∧
      s'.addActionInput node (inputs, st') pin = (inputs', next') ∧ R next next' := by
  obtain ⟨value, next, next', hread, hread', hnext⟩ := ht.read pin.id hnode hst
  simp only [Setup.addActionInput, hread, hread']
  cases value with
  | some v => exact ⟨_, _, _, rfl, rfl, hnext⟩
  | none =>
    refine ⟨_, _, _, rfl, rfl, ?_⟩
    split
    · exact hnext
    · exact ht.warn _ hnext

theorem actionInputs (ht : Tracks s s' R) (hnode : s.graph.node? node.id = some node)
    {st st' : RunState} (hst : R st st') :
    ∃ inputs next next', s.actionInputs node st = (inputs, next) ∧
      s'.actionInputs node st' = (inputs, next') ∧ R next next' := by
  unfold Setup.actionInputs
  generalize ([] : Fields Value) = inputs
  induction node.dataInputs generalizing inputs st st' with
  | nil => exact ⟨_, _, _, rfl, rfl, hst⟩
  | cons pin rest ih =>
    obtain ⟨inputs', next, next', hadd, hadd', hnext⟩ := ht.addActionInput hnode inputs hst pin
    rw [List.foldl_cons, List.foldl_cons, hadd, hadd']
    exact ih hnext inputs'

theorem performAction (ht : Tracks s s' R) (hnode : s.graph.node? node.id = some node)
    (hfire : ∀ handle, Path.Covers R (fire handle) (fire' handle)) :
    Path.Covers R (s.performAction fire node) (s'.performAction fire' node) := by
  intro st st' hst
  obtain ⟨inputs, next, next', hinputs, hinputs', hnext⟩ := ht.actionInputs hnode hst
  simp only [Setup.performAction, hinputs, hinputs']
  refine .calling _ fun reply => ?_
  cases reply with
  | ok outputs => exact fireDefault hfire _ _ (ht.store node.id outputs hnext)
  | error cause => exact .done (.failed _ hnext)

theorem branch (ht : Tracks s s' R) (hnode : s.graph.node? node.id = some node)
    (hfire : ∀ handle, Path.Covers R (fire handle) (fire' handle)) :
    Path.Covers R (s.branch fire node) (s'.branch fire' node) := by
  intro st st' hst
  obtain ⟨value, next, next', hread, hread', hnext⟩ := ht.read "condition" hnode hst
  simp only [Setup.branch, hread, hread']
  cases value with
  | none => exact .done (.going (ht.warn _ hnext))
  | some v =>
    cases v with
    | null => exact .done (.going (ht.warn _ hnext))
    | _ => exact hfire _ _ _ hnext

theorem switch (ht : Tracks s s' R) (hnode : s.graph.node? node.id = some node)
    (hfire : ∀ handle, Path.Covers R (fire handle) (fire' handle)) :
    Path.Covers R (s.switch fire node) (s'.switch fire' node) := by
  intro st st' hst
  obtain ⟨value, next, next', hread, hread', hnext⟩ := ht.read "value" hnode hst
  simp only [Setup.switch, hread, hread']
  exact hfire _ _ _ hnext

theorem forEach (ht : Tracks s s' R) (hnode : s.graph.node? node.id = some node)
    (hfire : ∀ handle, Path.Covers R (fire handle) (fire' handle)) :
    Path.Covers R (s.forEach fire node) (s'.forEach fire' node) := by
  have hiterate : ∀ item, Path.Covers R (Setup.iterate fire node item)
      (Setup.iterate fire' node item) :=
    fun item st st' hst => hfire "loopBody" _ _ (ht.store node.id _ hst)
  intro st st' hst
  obtain ⟨value, next, next', hread, hread', hnext⟩ := ht.read "array" hnode hst
  simp only [Setup.forEach, hread, hread']
  have hcompleted := hfire "completed" _ _ (ht.warn (.notAnArray node.id) hnext)
  cases value with
  | none => exact hcompleted
  | some v =>
    cases v with
    | array items =>
      exact Path.covers_andThen (Path.covers_each (fun item _ => hiterate item) _ _ hnext)
        (hfire "completed")
    | _ => exact hcompleted

theorem delay (ht : Tracks s s' R) (hnode : s.graph.node? node.id = some node)
    (hfire : ∀ handle, Path.Covers R (fire handle) (fire' handle)) :
    Path.Covers R (s.delay fire node) (s'.delay fire' node) := by
  intro st st' hst
  obtain ⟨value, next, next', hread, hread', hnext⟩ := ht.read "duration" hnode hst
  simp only [Setup.delay, hread, hread', ht.limits]
  exact .waiting _ (fireDefault hfire _ _ hnext)

theorem steer (ht : Tracks s s' R) (hnode : s.graph.node? node.id = some node)
    (hfire : ∀ handle, Path.Covers R (fire handle) (fire' handle)) (kind : FlowKind) :
    Path.Covers R (s.steer fire node kind) (s'.steer fire' node kind) := by
  cases kind with
  | branch => exact ht.branch hnode hfire
  | switch => exact ht.switch hnode hfire
  | sequence => exact Path.covers_each fun handle _ => hfire handle
  | forEach => exact ht.forEach hnode hfire
  | delay => exact ht.delay hnode hfire
  | unknown name => exact fun _ _ hst => .done (.going (ht.warn _ hst))

theorem execute (ht : Tracks s s' R) (hnode : s.graph.node? node.id = some node)
    (himpure : node.category? ≠ some .pure)
    (hfire : ∀ handle, Path.Covers R (fire handle) (fire' handle)) :
    Path.Covers R (s.execute fire node) (s'.execute fire' node) := by
  intro st st' hst
  unfold Setup.execute
  split
  · exact .done (.going (ht.warn _ hst))
  · rename_i kind hkind
    have hmark := ht.mark hnode himpure hst
    refine .noting _ ?_
    cases kind with
    | event kind => exact fireDefault hfire _ _ hmark
    | action => exact ht.performAction hnode hfire _ _ hmark
    | pure kind => exact absurd (congrArg (Option.map NodeKind.category) hkind) himpure
    | flow kind => exact ht.steer hnode hfire kind _ _ hmark

/-- Both setups have no level left, or both leave a node one level deeper in ways that correspond. -/
abbrev Deeper (R : RunState → RunState → Prop) :=
  Option.Rel fun fire fire' : NodeId → Firing =>
    ∀ node handle, Path.Covers R (fire node handle) (fire' node handle)

theorem followEdge (ht : Tracks s s' R) {deeper deeper' : Option (NodeId → Firing)}
    (hdeeper : Deeper R deeper deeper') (depth : Nat) {edge : Edge}
    (himpure : ∀ target, s.graph.node? edge.target = some target →
      target.category? ≠ some .pure) :
    Path.Covers R (s.followEdge deeper depth edge) (s'.followEdge deeper' depth edge) := by
  intro st st' hst
  unfold Setup.followEdge RunState.isVisiting
  rw [ht.active hst, ht.node?]
  dsimp only
  split
  · exact .done (.going (ht.warn _ hst))
  · cases hdeeper with
    | none => exact .done (.going (ht.warn _ hst))
    | some hfire =>
      cases htarget : s.graph.node? edge.target with
      | none => exact .done (.going hst)
      | some target =>
        have hexecute := ht.execute (s.graph.node?_self htarget) (himpure target htarget)
          (hfire target.id) _ _ (ht.enter (edge.target, edge.targetHandle) hst)
        refine hexecute.bind fun p p' hp => .done ?_
        cases hp with
        | going hlast => exact .going (ht.leave _ hlast)
        | failed error hlast => exact .failed error (ht.leave _ hlast)

theorem start (ht : Tracks s s' R)
    (hfire : ∀ id handle, Path.Covers R (s.fireAt 0 id handle) (s'.fireAt 0 id handle))
    (entry : NodeId) {trigger : Trigger} (hfresh : R (RunState.fresh trigger) (.fresh trigger)) :
    (s.start entry trigger).Covers (SameOutcome R) (s'.start entry trigger) := by
  unfold Setup.start
  rw [ht.node?]
  cases hnode : s.graph.node? entry with
  | none => exact .done (.error _)
  | some node =>
    dsimp only
    split
    · rename_i hevent
      have himpure : node.category? ≠ some .pure := by simp [hevent]
      have hmark := ht.mark (s.graph.node?_self hnode) himpure hfresh
      cases node.defaultOutput? with
      | some pin =>
        exact (hfire node.id pin.id _ _ hmark).bind fun _ _ hp => .done hp.outcome
      | none => exact .done (.ok (ht.warn _ hmark))
    · exact .done (.error _)

end Tracks

end PinFlow
