import PinFlow.Proofs.Run.Logic

set_option autoImplicit false

/-!
# Failure

Only a refused call ends a run early, and it ends it at once: no further call is made, and the error
tells which node made the call. `FailsFast` says this of a tree of activities, whatever the replies
are; the rules of the program logic carry it from the nodes to the run, and playing the tree shows
what it means for the calls.
-/

namespace PinFlow

def Graph.Makes (g : Graph) (call : Call) : Prop :=
  ∃ node, g.node? call.node = some node ∧ node.kind? = some .action ∧
    call.definition = node.definition ∧ call.config = node.config

namespace Dispatcher

def replies (d : Dispatcher) : (earlier : List Call) → List Call → List Reply
  | _, [] => []
  | earlier, call :: rest => d earlier call :: replies d (call :: earlier) rest

theorem replies_append (d : Dispatcher) (earlier calls : List Call) (last : Call) :
    d.replies earlier (calls ++ [last]) =
      d.replies earlier calls ++ [d (calls.reverse ++ earlier) last] := by
  induction calls generalizing earlier with
  | nil => rfl
  | cons call rest ih =>
    rw [List.cons_append, replies, replies, ih, List.cons_append, List.reverse_cons,
      List.append_assoc, List.singleton_append]

def Accepts (d : Dispatcher) (earlier calls : List Call) : Prop :=
  ∀ cause, .error cause ∉ d.replies earlier calls

theorem accepts_nil (d : Dispatcher) (earlier : List Call) : d.Accepts earlier [] :=
  fun _ => List.not_mem_nil

theorem Accepts.cons {d : Dispatcher} {earlier calls : List Call} {call : Call}
    {outputs : Fields Value} (hreply : d earlier call = .ok outputs)
    (h : d.Accepts (call :: earlier) calls) : d.Accepts earlier (call :: calls) := by
  intro cause hmem
  rw [replies, hreply] at hmem
  rcases List.mem_cons.1 hmem with hhead | htail
  · cases hhead
  · exact h cause htail

end Dispatcher

namespace Activity

variable {α β : Type}

def callsFrom (d : Dispatcher) (time : Nat) (earlier : List TimedCall) :
    Activity α → List TimedCall
  | .done _ => []
  | .noting _ _ rest => callsFrom d time earlier (rest ())
  | .calling call _ resume =>
    ⟨time, call⟩ ::
      callsFrom d time (⟨time, call⟩ :: earlier) (resume (d (earlier.map TimedCall.call) call))
  | .waiting delay _ resume => callsFrom d (time + delay.millis) earlier (resume ())

theorem playFrom_calls (d : Dispatcher) (time : Nat) (earlier : List TimedCall) (a : Activity α) :
    (a.playFrom d time earlier).calls = earlier.reverse ++ a.callsFrom d time earlier := by
  induction a generalizing time earlier with
  | done result => exact (List.append_nil _).symm
  | noting note st rest ih => exact ih () time earlier
  | calling call st resume ih =>
    rw [playFrom, ih, callsFrom, List.reverse_cons, List.append_assoc, List.singleton_append]
  | waiting delay st resume ih => exact ih () _ earlier

theorem play_calls (d : Dispatcher) (a : Activity α) : (a.play d).calls = a.callsFrom d 0 [] :=
  playFrom_calls d 0 [] a

theorem callsFrom_prefix {d d' : Dispatcher} {time : Nat} {earlier : List TimedCall}
    {a : Activity α} {before after : List TimedCall} {last : TimedCall}
    (h : a.callsFrom d time earlier = before ++ last :: after)
    (hsame : d'.replies (earlier.map TimedCall.call) (before.map TimedCall.call) =
      d.replies (earlier.map TimedCall.call) (before.map TimedCall.call)) :
    before ++ [last] <+: a.callsFrom d' time earlier := by
  induction a generalizing time earlier before with
  | done result => exact absurd h.symm (by simp [callsFrom])
  | noting note st rest ih => exact ih () h hsame
  | waiting delay st resume ih => exact ih () h hsame
  | calling call st resume ih =>
    rw [callsFrom] at h ⊢
    cases before with
    | nil =>
      obtain ⟨rfl, -⟩ := List.cons.inj h
      exact List.prefix_append [_] _
    | cons first rest =>
      obtain ⟨rfl, hrest⟩ := List.cons.inj h
      obtain ⟨hreply, hreplies⟩ := List.cons.inj hsame
      rw [List.cons_append, List.prefix_cons_inj, hreply]
      exact ih _ hrest hreplies

/-- Every call is that of an action node; if it is refused, the run ends there with its error, and
    the run does not end with an error otherwise. -/
def FailsFast (g : Graph) (outcome : α → Except RunError RunState) : Activity α → Prop
  | .done result => ∃ st, outcome result = .ok st
  | .noting _ _ rest => FailsFast g outcome (rest ())
  | .calling call _ resume =>
    g.Makes call ∧
      (∀ cause, ∃ result, resume (.error cause) = .done result ∧
        outcome result = .error (.actionFailed call.node call.definition cause)) ∧
      ∀ outputs, FailsFast g outcome (resume (.ok outputs))
  | .waiting _ _ resume => FailsFast g outcome (resume ())

variable {g : Graph} {outcome : α → Except RunError RunState}
  {outcome' : β → Except RunError RunState}

theorem FailsFast.bind {a : Activity α} {f : α → Activity β} (h : a.FailsFast g outcome)
    (hok : ∀ x st, outcome x = .ok st → (f x).FailsFast g outcome')
    (herror : ∀ x error, outcome x = .error error →
      ∃ y, f x = .done y ∧ outcome' y = .error error) :
    (a.bind f).FailsFast g outcome' := by
  induction a with
  | done result =>
    obtain ⟨st, hst⟩ := h
    exact hok result st hst
  | noting note st rest ih => exact ih () h
  | waiting delay st resume ih => exact ih () h
  | calling call st resume ih =>
    obtain ⟨hmakes, hrefused, haccepted⟩ := h
    refine ⟨hmakes, fun cause => ?_, fun outputs => ih _ (haccepted outputs)⟩
    obtain ⟨result, hresume, hresult⟩ := hrefused cause
    dsimp only
    rw [hresume]
    exact herror result _ hresult

theorem FailsFast.playFrom {a : Activity α} (h : a.FailsFast g outcome) (d : Dispatcher)
    (time : Nat) (earlier : List TimedCall) :
    ((∃ st, outcome (a.playFrom d time earlier).result = .ok st) ∧
        d.Accepts (earlier.map TimedCall.call)
          ((a.callsFrom d time earlier).map TimedCall.call)) ∨
      ∃ before last cause, a.callsFrom d time earlier = before ++ [last] ∧
        d.Accepts (earlier.map TimedCall.call) (before.map TimedCall.call) ∧
        d ((before.map TimedCall.call).reverse ++ earlier.map TimedCall.call) last.call =
          .error cause ∧
        g.Makes last.call ∧
        outcome (a.playFrom d time earlier).result =
          .error (.actionFailed last.call.node last.call.definition cause) := by
  induction a generalizing time earlier with
  | done result => exact .inl ⟨h, d.accepts_nil _⟩
  | noting note st rest ih => exact ih () h time earlier
  | waiting delay st resume ih => exact ih () h _ earlier
  | calling call st resume ih =>
    obtain ⟨hmakes, hrefused, haccepted⟩ := h
    rw [Activity.playFrom, callsFrom]
    cases hreply : d (earlier.map TimedCall.call) call with
    | error cause =>
      obtain ⟨result, hresume, hresult⟩ := hrefused cause
      rw [hresume]
      exact .inr ⟨[], ⟨time, call⟩, cause, rfl, d.accepts_nil _, hreply, hmakes, hresult⟩
    | ok outputs =>
      rcases ih (.ok outputs) (haccepted outputs) time (⟨time, call⟩ :: earlier) with
        ⟨hok, haccepts⟩ | ⟨before, last, cause, hcalls, haccepts, hlast, hlastMakes, hresult⟩
      · exact .inl ⟨hok, haccepts.cons hreply⟩
      · refine .inr ⟨⟨time, call⟩ :: before, last, cause, ?_, haccepts.cons hreply, ?_, hlastMakes,
          hresult⟩
        · rw [hcalls, List.cons_append]
        · rw [List.map_cons, List.reverse_cons, List.append_assoc]
          exact hlast

variable {run : Activity (Except RunError RunState)}

theorem FailsFast.last_refused (h : run.FailsFast g (fun result => result)) {d : Dispatcher}
    {error : RunError} (herror : (run.play d).result = .error error) :
    ∃ before last cause, (run.play d).calls = before ++ [last] ∧
      d.Accepts [] (before.map TimedCall.call) ∧
      d (before.map TimedCall.call).reverse last.call = .error cause ∧
      error = .actionFailed last.call.node last.call.definition cause ∧
      g.Makes last.call := by
  rcases h.playFrom d 0 [] with
    ⟨⟨st, hok⟩, -⟩ | ⟨before, last, cause, hcalls, haccepts, hlast, hmakes, hresult⟩
  · cases herror.symm.trans hok
  · refine ⟨before, last, cause, ?_, haccepts, ?_, ?_, hmakes⟩
    · rw [play_calls]
      exact hcalls
    · rw [List.map_nil, List.append_nil] at hlast
      exact hlast
    · exact Except.error.inj (herror.symm.trans hresult)

theorem FailsFast.error_iff (h : run.FailsFast g (fun result => result)) (d : Dispatcher) :
    (∃ error, (run.play d).result = .error error) ↔
      ∃ cause, .error cause ∈ d.replies [] ((run.play d).calls.map TimedCall.call) := by
  constructor
  · rintro ⟨error, herror⟩
    obtain ⟨before, last, cause, hcalls, -, hlast, -⟩ := h.last_refused herror
    refine ⟨cause, ?_⟩
    rw [hcalls, List.map_append, List.map_singleton, Dispatcher.replies_append, List.append_nil,
      hlast]
    exact List.mem_append_right _ (List.mem_singleton_self _)
  · rintro ⟨cause, hcause⟩
    rcases h.playFrom d 0 [] with ⟨-, haccepts⟩ | ⟨before, last, cause, -, -, -, -, hresult⟩
    · rw [play_calls] at hcause
      exact absurd hcause (haccepts cause)
    · exact ⟨_, hresult⟩

end Activity

namespace Setup

variable {s : Setup}

theorem rules_failsFast (s : Setup) :
    Rules s (fun _ => True) (fun _ a => a.FailsFast s.graph Progress.outcome) where
  stop st _ := ⟨st, rfl⟩
  move _ _ _ _ := ⟨trivial, fun _ h => h⟩
  note _ _ _ h := h
  call st node inputs resume hnode hkind _ herror hok := by
    refine ⟨⟨node, hnode, hkind, rfl, rfl⟩, fun cause => ?_, hok⟩
    exact ⟨_, herror cause, rfl⟩
  wait _ _ _ h := h
  andThen _ first second hfirst hsecond := by
    refine hfirst.bind (fun p st hp => ?_) (fun p error hp => ?_)
    · cases p with
      | going st' => exact hsecond st' trivial
      | failed st' error => cases hp
    · cases p with
      | going st' => cases hp
      | failed st' error => exact ⟨_, rfl, hp⟩

theorem fireFrom_failsFast (room depth : Nat) (id : NodeId) (handle : Handle) :
    Path.Has (fun _ => True) (fun _ a => a.FailsFast s.graph Progress.outcome)
      (s.fireFrom room depth id handle) := by
  induction room generalizing depth id handle with
  | zero =>
    refine (rules_failsFast s).fireWith fun edge _ st _ => ?_
    unfold followEdge
    dsimp only
    split
    · exact ⟨_, rfl⟩
    · exact ⟨_, rfl⟩
  | succ room ih =>
    refine (rules_failsFast s).fireWith fun edge _ => ?_
    refine (rules_failsFast s).followEdge (rules_failsFast s) (ih (depth + 1)) fun st _ _ => ?_
    refine ⟨trivial, fun a ha => ha.bind (fun p st' hp => ?_) (fun p error hp => ?_)⟩
    · cases p with
      | going st'' => exact ⟨_, rfl⟩
      | failed st'' error => cases hp
    · cases p with
      | going st'' => cases hp
      | failed st'' error => exact ⟨_, rfl, hp⟩

theorem start_failsFast {entry : NodeId} {node : Node} (trigger : Trigger)
    (hnode : s.graph.node? entry = some node) (hevent : node.category? = some .event) :
    (s.start entry trigger).FailsFast s.graph (fun result => result) := by
  obtain ⟨a, ha, hrun⟩ := (rules_failsFast s).run (fireFrom_failsFast _ 0) trivial hnode hevent
  rw [hrun]
  exact ha.bind (fun p st hp => ⟨st, hp⟩) fun p error hp => ⟨_, rfl, hp⟩

/-- A run that starts at an event node fails exactly if a call was refused. That call was the last
    one, the error names the node that made it, and as long as the earlier replies are the same the
    same calls are made, whatever comes after them. -/
theorem run_fails_iff_refused {s : Setup} {entry : NodeId} {node : Node} (trigger : Trigger)
    (hnode : s.graph.node? entry = some node) (hevent : node.category? = some .event)
    (d : Dispatcher) :
    ((∃ error, ((s.start entry trigger).play d).result = .error error) ↔
        ∃ cause, .error cause ∈
          d.replies [] (((s.start entry trigger).play d).calls.map TimedCall.call)) ∧
      ∀ error, ((s.start entry trigger).play d).result = .error error →
        ∃ before last cause, ((s.start entry trigger).play d).calls = before ++ [last] ∧
          d.Accepts [] (before.map TimedCall.call) ∧
          d (before.map TimedCall.call).reverse last.call = .error cause ∧
          error = .actionFailed last.call.node last.call.definition cause ∧
          s.graph.Makes last.call ∧
          ∀ d' : Dispatcher, d'.replies [] (before.map TimedCall.call) =
              d.replies [] (before.map TimedCall.call) →
            ((s.start entry trigger).play d).calls <+: ((s.start entry trigger).play d').calls := by
  have hfast := start_failsFast trigger hnode hevent
  refine ⟨hfast.error_iff d, fun error herror => ?_⟩
  obtain ⟨before, last, cause, hcalls, haccepts, hlast, hnamed, hmakes⟩ :=
    hfast.last_refused herror
  refine ⟨before, last, cause, hcalls, haccepts, hlast, hnamed, hmakes, fun d' hsame => ?_⟩
  rw [hcalls, Activity.play_calls]
  rw [Activity.play_calls] at hcalls
  exact Activity.callsFrom_prefix hcalls hsame

def mute : Dispatcher := fun _ call =>
  if call.definition = "action-say" then .error (.unsupportedAction "action-say")
  else .ok [("name", .string "Ann")]

def mutedSetup : Setup := ⟨Graph.greeting, .standard, fun _ => 0⟩

theorem run_fails_iff_refused_mute :
    ((mutedSetup.start "start" []).play mute).result =
        .error (.actionFailed "say" "action-say" (.unsupportedAction "action-say")) ∧
      ∃ before last, ((mutedSetup.start "start" []).play mute).calls = before ++ [last] ∧
        mute.Accepts [] (before.map TimedCall.call) := by
  have hresult : ((mutedSetup.start "start" []).play mute).result =
      .error (.actionFailed "say" "action-say" (.unsupportedAction "action-say")) := by rfl
  obtain ⟨before, last, cause, hcalls, haccepts, -⟩ :=
    (run_fails_iff_refused (s := mutedSetup) [] (by rfl) (by rfl) mute).2 _ hresult
  exact ⟨hresult, before, last, hcalls, haccepts⟩

end Setup

end PinFlow
