import Mathlib.Algebra.GroupWithZero.Nat
import PinFlow.Proofs.Run.Failure
import PinFlow.Proofs.Run.Likeness
import PinFlow.Run.Outcome

set_option autoImplicit false

/-!
# Runs side by side

Several runs are woven together step by step, in any order: at each step one of them goes on to
where it is next suspended, asks for an action, hears the reply, or wakes up. If replies depend on
nothing but what is asked, each run ends as it does alone and makes the same calls, whatever the
others do meanwhile. The clock by which a bot plays its runs picks one of these orders.
-/

namespace PinFlow

namespace Dispatcher

/-- The reply depends on what is told to the one who performs the call, and on nothing else. -/
def Memoryless (d : Dispatcher) : Prop :=
  ∀ earlier earlier' call call', call.definition = call'.definition → call.inputs = call'.inputs →
    call.config = call'.config → d earlier call = d earlier' call'

theorem Memoryless.reply {d : Dispatcher} (h : d.Memoryless) (earlier : List Call) (call : Call) :
    d earlier call = d [] call :=
  h earlier [] call call rfl rfl rfl

end Dispatcher

namespace Activity

variable {α : Type} (answer : Call → Reply)

def outcomeBy : Activity α → α
  | .done result => result
  | .noting _ _ rest => outcomeBy (rest ())
  | .calling call _ resume => outcomeBy (resume (answer call))
  | .waiting _ _ resume => outcomeBy (resume ())

def callsBy : Activity α → List Call
  | .done _ => []
  | .noting _ _ rest => callsBy (rest ())
  | .calling call _ resume => call :: callsBy (resume (answer call))
  | .waiting _ _ resume => callsBy (resume ())

/-- The number of steps to the end; a call is made in one step and answered in another. -/
def stepsBy : Activity α → Nat
  | .done _ => 0
  | .noting _ _ rest => stepsBy (rest ()) + 1
  | .calling call _ resume => stepsBy (resume (answer call)) + 2
  | .waiting _ _ resume => stepsBy (resume ()) + 1

theorem playFrom_memoryless {d : Dispatcher} (hd : d.Memoryless) (time : Nat)
    (earlier : List TimedCall) (a : Activity α) :
    (a.playFrom d time earlier).result = a.outcomeBy (d []) ∧
      (a.callsFrom d time earlier).map TimedCall.call = a.callsBy (d []) := by
  induction a generalizing time earlier with
  | done result => exact ⟨rfl, rfl⟩
  | noting note st rest ih => exact ih () time earlier
  | waiting delay st resume ih => exact ih () _ earlier
  | calling call st resume ih =>
    rw [playFrom, callsFrom, outcomeBy, callsBy, hd.reply, List.map_cons]
    obtain ⟨hresult, hcalls⟩ := ih (d [] call) time (⟨time, call⟩ :: earlier)
    exact ⟨hresult, by rw [hcalls]⟩

theorem play_memoryless {d : Dispatcher} (hd : d.Memoryless) (a : Activity α) :
    (a.play d).result = a.outcomeBy (d []) ∧
      (a.play d).calls.map TimedCall.call = a.callsBy (d []) := by
  rw [play_calls]
  exact playFrom_memoryless hd 0 [] a

theorem outcomeBy_map {β : Type} (f : α → β) (a : Activity α) :
    (a.map f).outcomeBy answer = f (a.outcomeBy answer) := by
  induction a with
  | done result => rfl
  | noting note st rest ih => exact ih ()
  | calling call st resume ih => exact ih _
  | waiting delay st resume ih => exact ih ()

theorem callsBy_map {β : Type} (f : α → β) (a : Activity α) :
    (a.map f).callsBy answer = a.callsBy answer := by
  induction a with
  | done result => rfl
  | noting note st rest ih => exact ih ()
  | calling call st resume ih => exact congrArg (call :: ·) (ih _)
  | waiting delay st resume ih => exact ih ()

end Activity

/-- One of several runs: it may go on by itself, or it waits for the reply to a call. -/
inductive Strand (α : Type) where
  | running (rest : Activity α)
  | awaiting (call : Call) (resume : Reply → Activity α)

namespace Strand

variable {α : Type}

inductive Steps (answer : Call → Reply) : Strand α → Option Call → Strand α → Prop where
  | note (note : Note) (st : RunState) (rest : Unit → Activity α) :
      Steps answer (.running (.noting note st rest)) none (.running (rest ()))
  | wake (delay : Delay) (st : RunState) (resume : Unit → Activity α) :
      Steps answer (.running (.waiting delay st resume)) none (.running (resume ()))
  | ask (call : Call) (st : RunState) (resume : Reply → Activity α) :
      Steps answer (.running (.calling call st resume)) (some call) (.awaiting call resume)
  | hear (call : Call) (resume : Reply → Activity α) :
      Steps answer (.awaiting call resume) none (.running (resume (answer call)))

def result? : Strand α → Option α
  | .running (.done result) => some result
  | _ => none

variable (answer : Call → Reply)

def outcomeBy : Strand α → α
  | .running rest => rest.outcomeBy answer
  | .awaiting call resume => (resume (answer call)).outcomeBy answer

def callsBy : Strand α → List Call
  | .running rest => rest.callsBy answer
  | .awaiting call resume => (resume (answer call)).callsBy answer

def stepsBy : Strand α → Nat
  | .running rest => rest.stepsBy answer
  | .awaiting call resume => (resume (answer call)).stepsBy answer + 1

variable {answer} {strand next : Strand α} {made : Option Call}

theorem Steps.outcomeBy (h : strand.Steps answer made next) :
    next.outcomeBy answer = strand.outcomeBy answer := by
  cases h <;> rfl

theorem Steps.callsBy (h : strand.Steps answer made next) :
    made.toList ++ next.callsBy answer = strand.callsBy answer := by
  cases h <;> rfl

theorem Steps.stepsBy_lt (h : strand.Steps answer made next) :
    next.stepsBy answer < strand.stepsBy answer := by
  cases h <;> exact Nat.lt_succ_self _

theorem exists_steps (answer : Call → Reply) (h : strand.result? = none) :
    ∃ made next, strand.Steps answer made next := by
  cases strand with
  | awaiting call resume => exact ⟨_, _, .hear call resume⟩
  | running rest =>
    cases rest with
    | done result => cases h
    | noting note st rest => exact ⟨_, _, .note note st rest⟩
    | calling call st resume => exact ⟨_, _, .ask call st resume⟩
    | waiting delay st resume => exact ⟨_, _, .wake delay st resume⟩

theorem eq_of_result? {result : α} (h : strand.result? = some result) :
    strand = .running (.done result) := by
  cases strand with
  | awaiting call resume => cases h
  | running rest =>
    cases rest with
    | done result => exact congrArg (fun x => running (.done x)) (Option.some.inj h)
    | noting note st rest => cases h
    | calling call st resume => cases h
    | waiting delay st resume => cases h

end Strand

/-- Several runs in their places, and the calls so far, latest first, with the places of those who
    made them. -/
structure Weave (α : Type) where
  strands : List (Strand α)
  calls : List (Nat × Call)

namespace Weave

variable {α : Type}

def ofRuns (runs : List (Activity α)) : Weave α := ⟨runs.map .running, []⟩

/-- One of the runs takes a step; replies are given in view of all calls so far. -/
inductive Steps (d : Dispatcher) (w : Weave α) : Weave α → Prop where
  | move (i : Nat) {strand next : Strand α} {made : Option Call} : w.strands[i]? = some strand →
      strand.Steps (d (w.calls.map Prod.snd)) made next →
      Steps d w ⟨w.strands.set i next, (made.map (i, ·)).toList ++ w.calls⟩

abbrev Leads (d : Dispatcher) : Weave α → Weave α → Prop := Relation.ReflTransGen (Steps d)

def Over (w : Weave α) : Prop := ∀ strand ∈ w.strands, strand.result? ≠ none

def results (w : Weave α) : List α := w.strands.filterMap Strand.result?

def callsOf (w : Weave α) (i : Nat) : List Call :=
  (w.calls.reverse.filter (·.1 = i)).map Prod.snd

/-- What each run has done and has yet to do makes up what it does alone. -/
def Agrees (answer : Call → Reply) (runs : List (Activity α)) (w : Weave α) : Prop :=
  ∀ i, w.strands[i]?.map (fun strand =>
      (strand.outcomeBy answer, w.callsOf i ++ strand.callsBy answer)) =
    runs[i]?.map fun a => (a.outcomeBy answer, a.callsBy answer)

variable {d : Dispatcher} {w w' : Weave α} {runs : List (Activity α)}

theorem agrees_ofRuns (answer : Call → Reply) (runs : List (Activity α)) :
    (ofRuns runs).Agrees answer runs := by
  intro i
  rw [ofRuns, List.getElem?_map, Option.map_map]
  rfl

theorem callsOf_made (strands : List (Strand α)) (calls : List (Nat × Call)) (i j : Nat)
    (made : Option Call) :
    callsOf ⟨strands, (made.map (i, ·)).toList ++ calls⟩ j =
      callsOf ⟨strands, calls⟩ j ++ if i = j then made.toList else [] := by
  cases made with
  | none => simp [callsOf]
  | some call => by_cases h : i = j <;> simp [callsOf, h]

theorem Steps.agrees (hd : d.Memoryless) (h : w.Steps d w') (hw : w.Agrees (d []) runs) :
    w'.Agrees (d []) runs := by
  obtain @⟨i, strand, next, made, hstrand, hstep⟩ := h
  have hanswer : d (w.calls.map Prod.snd) = d [] := funext fun call => hd.reply _ call
  rw [hanswer] at hstep
  intro j
  rw [← hw j, callsOf_made, List.getElem?_set]
  by_cases hij : i = j
  · -- The run that takes the step moves the call it makes from what is to be done to what is done.
    subst hij
    have hlt : i < w.strands.length := (List.getElem?_eq_some_iff.1 hstrand).1
    simp only [if_true, hlt, hstrand, Option.map_some, hstep.outcomeBy, List.append_assoc,
      hstep.callsBy]
    rfl
  · simp only [hij, if_false, List.append_nil]
    rfl

theorem Leads.agrees (hd : d.Memoryless) (h : w.Leads d w') (hw : w.Agrees (d []) runs) :
    w'.Agrees (d []) runs := by
  induction h with
  | refl => exact hw
  | tail _ hstep ih => exact hstep.agrees hd ih

theorem Agrees.over {answer : Call → Reply} (hw : w.Agrees answer runs) (hover : w.Over) :
    w.results = runs.map (Activity.outcomeBy answer) ∧
      ∀ i a, runs[i]? = some a → w.callsOf i = a.callsBy answer := by
  have hplace : ∀ i a, runs[i]? = some a →
      w.strands[i]? = some (.running (.done (a.outcomeBy answer))) ∧
        w.callsOf i = a.callsBy answer := by
    intro i a ha
    have hi := hw i
    rw [ha] at hi
    obtain ⟨strand, hstrand, hsame⟩ := Option.map_eq_some_iff.1 hi
    obtain ⟨result, hresult⟩ :=
      Option.ne_none_iff_exists'.1 (hover strand (List.mem_of_getElem? hstrand))
    obtain rfl := Strand.eq_of_result? hresult
    obtain ⟨houtcome, hcalls⟩ := Prod.ext_iff.1 hsame
    have hresult : result = a.outcomeBy answer := houtcome
    rw [hstrand, hresult]
    exact ⟨rfl, (List.append_nil _).symm.trans hcalls⟩
  have hstrands : w.strands = runs.map fun a => .running (.done (a.outcomeBy answer)) := by
    refine List.ext_getElem? fun i => ?_
    rw [List.getElem?_map]
    cases ha : runs[i]? with
    | some a => exact (hplace i a ha).1
    | none =>
      have hi := hw i
      rw [ha] at hi
      exact Option.map_eq_none_iff.1 hi
  refine ⟨?_, fun i a ha => (hplace i a ha).2⟩
  rw [results, hstrands, List.filterMap_map]
  exact congrFun List.filterMap_eq_map runs

theorem sum_map_set_lt {f : Strand α → Nat} {strands : List (Strand α)} {i : Nat}
    {strand next : Strand α} (hstrand : strands[i]? = some strand) (hlt : f next < f strand) :
    ((strands.set i next).map f).sum < (strands.map f).sum := by
  induction strands generalizing i with
  | nil => cases hstrand
  | cons first rest ih =>
    cases i with
    | zero =>
      obtain rfl := Option.some.inj hstrand
      simp only [List.set_cons_zero, List.map_cons, List.sum_cons]
      omega
    | succ i =>
      have hrest := ih hstrand
      simp only [List.set_cons_succ, List.map_cons, List.sum_cons]
      omega

theorem steps_wellFounded (hd : d.Memoryless) :
    WellFounded fun w' w : Weave α => w.Steps d w' := by
  refine Subrelation.wf ?_
    (measure fun w : Weave α => (w.strands.map (Strand.stepsBy (d []))).sum).wf
  rintro w' w ⟨i, hstrand, hstep⟩
  have hanswer : d (w.calls.map Prod.snd) = d [] := funext fun call => hd.reply _ call
  rw [hanswer] at hstep
  exact sum_map_set_lt hstrand hstep.stepsBy_lt

theorem over_or_steps (d : Dispatcher) (w : Weave α) : w.Over ∨ ∃ w', w.Steps d w' := by
  by_cases hover : w.Over
  · exact .inl hover
  · obtain ⟨strand, hmem, hresult⟩ : ∃ strand ∈ w.strands, strand.result? = none := by
      simpa [Over] using hover
    obtain ⟨i, hi⟩ := List.getElem?_of_mem hmem
    obtain ⟨made, next, hstep⟩ := Strand.exists_steps (d (w.calls.map Prod.snd)) hresult
    exact .inr ⟨_, .move i hi hstep⟩

end Weave

namespace Pool

variable {α : Type} {d : Dispatcher}

def weave (p : Pool α) (calls : List (Nat × Call)) : Weave α :=
  ⟨p.tasks.map fun task => .running task.activity, calls⟩

theorem weave_set (p : Pool α) (calls : List (Nat × Call)) (i : Nat) (task : Task α) :
    weave ⟨p.tasks.set i task⟩ calls =
      ⟨(p.weave calls).strands.set i (.running task.activity), calls⟩ := by
  rw [weave, weave, List.map_set]

theorem next?_eq_some {tasks : List (Task α)} {i : Nat} (h : next? tasks = some i) :
    ∃ task, tasks[i]? = some task ∧ task.activity.isDone = false := by
  obtain ⟨time, -, hfound⟩ := Option.bind_eq_some_iff.1 h
  obtain ⟨hlt, hp, -⟩ := List.findIdx?_eq_some_iff_getElem.1 hfound
  refine ⟨tasks[i], List.getElem?_eq_getElem hlt, ?_⟩
  simp only [Bool.and_eq_true, Bool.not_eq_true'] at hp
  exact hp.1

theorem isDone_of_next?_eq_none {tasks : List (Task α)} (h : next? tasks = none) :
    ∀ task ∈ tasks, task.activity.isDone = true := by
  intro task htask
  by_contra hdone
  have hwaiting : task ∈ tasks.filter (!·.activity.isDone) :=
    List.mem_filter.2 ⟨htask, by simpa using hdone⟩
  -- The least due time is that of a task that has not ended, which is then found.
  cases htime : nextTime? tasks with
  | none =>
    have hnil := List.map_eq_nil_iff.1 (List.min?_eq_none_iff.1 htime)
    rw [hnil] at hwaiting
    cases hwaiting
  | some time =>
    obtain ⟨first, hfirst, hdue⟩ := List.mem_map.1 (List.min?_mem htime)
    obtain ⟨hmem, hnot⟩ := List.mem_filter.1 hfirst
    have hnone : tasks.findIdx? (fun task => !task.activity.isDone && task.due == time) = none := by
      rw [next?, htime] at h
      exact h
    have hfalse := List.findIdx?_eq_none_iff.1 hnone first hmem
    rw [hnot, hdue, beq_self_eq_true] at hfalse
    cases hfalse

theorem weave_steps {p : Pool α} {i : Nat} {task : Task α} (htask : p.tasks[i]? = some task)
    (calls : List (Nat × Call)) (due : Nat) (next : Activity α)
    (hstep : (Strand.running task.activity).Steps (d (calls.map Prod.snd)) none (.running next)) :
    (p.weave calls).Steps d (weave ⟨p.tasks.set i ⟨due, next⟩⟩ calls) := by
  have hstrand : (p.weave calls).strands[i]? = some (.running task.activity) := by
    rw [weave, List.getElem?_map, htask, Option.map_some]
  rw [weave_set]
  exact .move i hstrand hstep

theorem weave_leads_of_calling (hd : d.Memoryless) {p : Pool α} {i : Nat} {task : Task α}
    (htask : p.tasks[i]? = some task) {call : Call} {st : RunState} {resume : Reply → Activity α}
    (hcalling : task.activity = .calling call st resume) (calls : List (Nat × Call)) (due : Nat)
    (earlier : List Call) :
    (p.weave calls).Leads d
      (weave ⟨p.tasks.set i ⟨due, resume (d earlier call)⟩⟩ ((i, call) :: calls)) := by
  have hlt : i < p.tasks.length := (List.getElem?_eq_some_iff.1 htask).1
  have hstrand : (p.weave calls).strands[i]? = some (.running (.calling call st resume)) := by
    rw [weave, List.getElem?_map, htask, Option.map_some, hcalling]
  have hask : (p.weave calls).Steps d
      ⟨(p.weave calls).strands.set i (.awaiting call resume), (i, call) :: calls⟩ :=
    .move i hstrand (.ask call st resume)
  have hawaiting : ((p.weave calls).strands.set i (.awaiting call resume))[i]? =
      some (.awaiting call resume) := by
    rw [List.getElem?_set_self]
    rw [weave, List.length_map]
    exact hlt
  have hhear := Weave.Steps.move (d := d)
    (w := ⟨(p.weave calls).strands.set i (.awaiting call resume), (i, call) :: calls⟩) i hawaiting
    (.hear call resume)
  rw [hd.reply, ← hd.reply earlier, List.set_set] at hhear
  rw [weave_set]
  exact .head hask (.single hhear)

/-- The clock plays the runs in one of the possible orders, to the end. -/
theorem playFrom_leads (hd : d.Memoryless) (earlier : List TimedCall) (p : Pool α)
    {calls : List (Nat × Call)} (hcalls : calls.map Prod.snd = earlier.map TimedCall.call) :
    ∃ calls', (p.weave calls).Leads d ((playFrom d earlier p).1.weave calls') ∧
      calls'.map Prod.snd = (playFrom d earlier p).2.map TimedCall.call ∧
      ∀ task ∈ (playFrom d earlier p).1.tasks, task.activity.isDone = true := by
  fun_induction playFrom d earlier p generalizing calls with
  | case1 earlier p hnone => exact ⟨calls, .refl, hcalls, isDone_of_next?_eq_none hnone⟩
  | case2 earlier p i hnext h task =>
    rename_i result hdone
    obtain ⟨found, hfound, hnot⟩ := next?_eq_some hnext
    rw [List.getElem?_eq_getElem h] at hfound
    obtain rfl := Option.some.inj hfound
    rw [hdone] at hnot
    cases hnot
  | case3 earlier p i hnext h task =>
    rename_i note st rest hnoting ih
    have hmove := weave_steps (d := d) (List.getElem?_eq_getElem h) calls task.due (rest ())
      (hnoting ▸ .note note st rest)
    obtain ⟨calls', hleads, hrest⟩ := ih hcalls
    exact ⟨calls', .head hmove hleads, hrest⟩
  | case4 earlier p i hnext h task =>
    rename_i call st resume hcalling reply ih
    have hmove := weave_leads_of_calling hd (List.getElem?_eq_getElem h) hcalling calls task.due
      (earlier.map TimedCall.call)
    have hreply : reply = d (earlier.map TimedCall.call) call :=
      (hd.reply _ call).trans (hd.reply _ call).symm
    rw [hreply] at ih
    obtain ⟨calls', hleads, hrest⟩ := @ih ((i, call) :: calls) (by simp [hcalls])
    exact ⟨calls', hmove.trans hleads, hrest⟩
  | case5 earlier p i hnext h task =>
    rename_i delay st resume hwaiting ih
    have hmove := weave_steps (d := d) (List.getElem?_eq_getElem h) calls
      (task.due + delay.millis) (resume ()) (hwaiting ▸ .wake delay st resume)
    obtain ⟨calls', hleads, hrest⟩ := ih hcalls
    exact ⟨calls', .head hmove hleads, hrest⟩
  | case6 earlier p i hnext h =>
    obtain ⟨found, hfound, -⟩ := next?_eq_some hnext
    exact absurd (List.getElem?_eq_some_iff.1 hfound).1 h

theorem play_leads (hd : d.Memoryless) (runs : List (Activity α)) :
    ∃ w, (Weave.ofRuns runs).Leads d w ∧ w.Over ∧ (play d runs).result = w.results ∧
      (play d runs).calls.map TimedCall.call = w.calls.reverse.map Prod.snd := by
  have hstart : weave ⟨runs.map (⟨0, ·⟩)⟩ [] = Weave.ofRuns runs := by
    rw [weave, List.map_map]
    rfl
  obtain ⟨calls, hleads, hcalls, hdone⟩ :=
    @playFrom_leads α d hd [] ⟨runs.map (⟨0, ·⟩)⟩ [] rfl
  rw [hstart] at hleads
  refine ⟨_, hleads, ?_, ?_, ?_⟩
  · intro strand hstrand
    obtain ⟨task, htask, rfl⟩ := List.mem_map.1 hstrand
    have hended := hdone task htask
    cases hactivity : task.activity with
    | done result => exact Option.some_ne_none result
    | _ =>
      rw [hactivity] at hended
      cases hended
  · change Pool.results _ = _
    rw [Pool.results, Weave.results, weave, List.filterMap_map]
    congr 1
    funext task
    cases hactivity : task.activity <;> simp only [Function.comp_apply, Strand.result?, hactivity]
  · change (playFrom d [] _).2.reverse.map TimedCall.call = calls.reverse.map Prod.snd
    rw [List.map_reverse, List.map_reverse, hcalls]

end Pool

namespace Bot

variable {b : Bot} {d : Dispatcher}

theorem start_dice (hdraws : b.graph.NeverDraws) (limits : Limits) (dice alone : Nat → Nat)
    (entry : NodeId) (trigger : Trigger) :
    Setup.start ⟨b.graph, limits, dice⟩ entry trigger =
      Setup.start ⟨b.graph, limits, alone⟩ entry trigger := by
  have hlike : Setup.LooksLike ⟨b.graph, limits, alone⟩ ⟨b.graph, limits, dice⟩ :=
    ⟨fun _ => rfl, fun _ _ => rfl, fun _ _ => rfl, rfl, .inr hdraws⟩
  exact hlike.start entry trigger

/-- However the runs of the entry nodes of an event are woven together, each ends as it does alone,
    with the same calls, and the outcomes are in graph order. Every order comes to an end, and the
    bot handles the event in one of them. A bot that is turned off does nothing. -/
theorem entry_runs_isolated (b : Bot) (limits : Limits) (dice : NodeId → Nat → Nat)
    (alone : Nat → Nat) (event : EventKind) (trigger : Trigger) (d : Dispatcher) :
    (b.isEnabled = true → b.graph.NeverDraws → d.Memoryless →
      (∀ w, (Weave.ofRuns (b.runs limits dice event trigger)).Leads d w → w.Over →
        w.results = (b.graph.nodes.filter fun node => node.kind? = some (.event event)).map
          (fun node => ⟨node.id,
            ((Setup.start ⟨b.graph, limits, alone⟩ node.id trigger).play d).result⟩) ∧
        ∀ i node, (b.graph.nodes.filter fun node => node.kind? = some (.event event))[i]? =
            some node →
          w.callsOf i = ((Setup.start ⟨b.graph, limits, alone⟩ node.id trigger).play d).calls.map
            TimedCall.call) ∧
      (WellFounded fun w' w : Weave RunOutcome => w.Steps d w') ∧
      (∀ w : Weave RunOutcome, w.Over ∨ ∃ w', w.Steps d w') ∧
      ∃ w, (Weave.ofRuns (b.runs limits dice event trigger)).Leads d w ∧ w.Over ∧
        (b.handle limits dice d event trigger).result = w.results ∧
        (b.handle limits dice d event trigger).calls.map TimedCall.call =
          w.calls.reverse.map Prod.snd) ∧
    (b.isEnabled = false →
      (b.handle limits dice d event trigger).result = [] ∧
        (b.handle limits dice d event trigger).calls = [] ∧
        ∀ w, (Weave.ofRuns (b.runs limits dice event trigger)).Leads d w →
          w.results = [] ∧ w.calls = []) := by
  constructor
  · intro henabled hdraws hd
    have hruns : b.runs limits dice event trigger =
        (b.graph.nodes.filter fun node => node.kind? = some (.event event)).map fun node =>
          (Setup.start ⟨b.graph, limits, alone⟩ node.id trigger).map (⟨node.id, ·⟩) := by
      simp only [runs, henabled, if_true, start_dice hdraws limits (dice _) alone]
      rfl
    refine ⟨fun w hleads hover => ?_, Weave.steps_wellFounded hd, Weave.over_or_steps d,
      Pool.play_leads hd _⟩
    have hagrees := hleads.agrees hd (Weave.agrees_ofRuns (d []) _)
    obtain ⟨hresults, hcalls⟩ := hagrees.over hover
    rw [hruns] at hresults hcalls
    refine ⟨?_, fun i node hnode => ?_⟩
    · rw [hresults, List.map_map]
      refine List.map_congr_left fun node _ => ?_
      rw [Function.comp_apply, Activity.outcomeBy_map, (Activity.play_memoryless hd _).1]
    · rw [hcalls i _ (by rw [List.getElem?_map, hnode, Option.map_some]), Activity.callsBy_map,
        (Activity.play_memoryless hd _).2]
  · intro hdisabled
    have hruns : b.runs limits dice event trigger = [] := by
      rw [runs, if_neg (by rw [hdisabled]; exact Bool.false_ne_true)]
    have hplay : Pool.play d ([] : List (Activity RunOutcome)) = ⟨[], [], 0⟩ := by
      unfold Pool.play
      rw [Pool.playFrom]
      rfl
    unfold handle
    rw [hruns, hplay]
    refine ⟨rfl, rfl, fun w hleads => ?_⟩
    -- Among no runs there is none that could take a step.
    rcases Relation.ReflTransGen.cases_head hleads with rfl | ⟨w', ⟨i, hstrand, -⟩, -⟩
    · exact ⟨rfl, rfl⟩
    · cases hstrand

/-- Two flows for one event: the one waits and speaks, the other asks first. -/
def pair : Bot where
  id := ⟨.ofNat 0⟩
  metadata := .ofName "pair" ⟨0, 0⟩
  graph := .ofParts
    [{ Node.bare "late" "event-ready" with execOutputs := [.exec "out"] },
      { Node.bare "pause" "flow-delay" with
        execInputs := [.exec "in"]
        execOutputs := [.exec "out"]
        dataInputs := [.required "duration" .number]
        config := [("duration", .int 1)] },
      { Node.bare "soon" "on-ready" with execOutputs := [.exec "out"] },
      { Node.bare "ask" "action-ask" with
        execInputs := [.exec "in"]
        execOutputs := [.exec "out"] },
      { Node.bare "say" "action-say" with execInputs := [.exec "in"] }]
    [⟨none, "late", "out", "pause", "in", .data⟩, ⟨none, "pause", "out", "say", "in", .data⟩,
      ⟨none, "soon", "out", "ask", "in", .data⟩, ⟨none, "ask", "out", "say", "in", .data⟩]

theorem mute_memoryless : Setup.mute.Memoryless := by
  intro earlier earlier' call call' hdefinition _ _
  unfold Setup.mute
  rw [hdefinition]

theorem entry_runs_isolated_pair :
    (pair.isEnabled = true ∧ pair.graph.NeverDraws ∧ Setup.mute.Memoryless ∧
      ∃ w, (Weave.ofRuns (pair.runs .standard (fun _ _ => 0) .ready [])).Leads Setup.mute w ∧
        w.Over ∧ w.results.map RunOutcome.entry = ["late", "soon"] ∧
        w.results.map RunOutcome.succeeded = [false, false] ∧
        (w.callsOf 0).map Call.node = ["say"] ∧ (w.callsOf 1).map Call.node = ["ask", "say"]) ∧
    (pair.setEnabled false ⟨0, 0⟩).isEnabled = false ∧
      ((pair.setEnabled false ⟨0, 0⟩).handle .standard (fun _ _ => 0) Setup.mute .ready []).calls =
        [] := by
  have hdraws : pair.graph.NeverDraws := by
    unfold Graph.NeverDraws
    decide
  obtain ⟨halone, -, -, w, hleads, hover, -⟩ :=
    (entry_runs_isolated pair .standard (fun _ _ => 0) (fun _ => 0) .ready [] Setup.mute).1 rfl
      hdraws mute_memoryless
  obtain ⟨hresults, hcalls⟩ := halone w hleads hover
  refine ⟨⟨rfl, hdraws, mute_memoryless, w, hleads, hover, ?_, ?_, ?_, ?_⟩, rfl, ?_⟩
  · rw [hresults]
    rfl
  · rw [hresults]
    rfl
  · rw [hcalls 0 _ rfl]
    rfl
  · rw [hcalls 1 _ rfl]
    rfl
  · exact ((entry_runs_isolated (pair.setEnabled false ⟨0, 0⟩) .standard (fun _ _ => 0)
      (fun _ => 0) .ready [] Setup.mute).2 rfl).2.1

end Bot

end PinFlow
