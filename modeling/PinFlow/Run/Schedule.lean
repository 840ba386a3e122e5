import PinFlow.Run.Dispatcher

/-!
Several runs at the same time.

A pool holds a task for each run: what the run does next and when. At each step the task that is due
first goes on, and of several the first in the pool. The steps of a pool are well founded because
each replaces one tree by a branch of it.
-/

set_option autoImplicit false

namespace PinFlow

namespace Activity

variable {α : Type}

inductive Follows : Activity α → Activity α → Prop where
  | noting (note : Note) (st : RunState) (rest : Unit → Activity α) :
      Follows (rest ()) (.noting note st rest)
  | calling (call : Call) (st : RunState) (resume : Reply → Activity α) (reply : Reply) :
      Follows (resume reply) (.calling call st resume)
  | waiting (delay : Delay) (st : RunState) (resume : Unit → Activity α) :
      Follows (resume ()) (.waiting delay st resume)

theorem acc_follows (a : Activity α) : Acc Follows a := by
  induction a with
  | done result => exact ⟨_, fun _ h => nomatch h⟩
  | noting note st rest ih => exact ⟨_, fun _ h => by cases h; exact ih ()⟩
  | calling call st resume ih => exact ⟨_, fun _ h => by cases h with | calling reply => exact ih _⟩
  | waiting delay st resume ih => exact ⟨_, fun _ h => by cases h; exact ih ()⟩

def isDone : Activity α → Bool
  | .done _ => true
  | _ => false

end Activity

structure Task (α : Type) where
  due : Nat
  activity : Activity α

structure Pool (α : Type) where
  tasks : List (Task α)

namespace Pool

variable {α : Type}

/-- The one list of tasks is the other with one task moved on. -/
inductive MovedOn : List (Task α) → List (Task α) → Prop where
  | head (task next : Task α) (rest : List (Task α)) :
      next.activity.Follows task.activity → MovedOn (next :: rest) (task :: rest)
  | tail (task : Task α) (rest rest' : List (Task α)) :
      MovedOn rest' rest → MovedOn (task :: rest') (task :: rest)

theorem acc_movedOn_cons (a : Activity α) (ha : Acc Activity.Follows a) :
    ∀ rest : List (Task α), Acc MovedOn rest → ∀ task : Task α, task.activity = a →
      Acc MovedOn (task :: rest) := by
  induction ha with
  | intro a _ iha =>
    intro rest hrest
    induction hrest with
    | intro rest hrest ihrest =>
      intro task htask
      refine ⟨_, fun tasks h => ?_⟩
      cases h with
      | head _ next _ hnext => exact iha _ (htask ▸ hnext) rest ⟨_, hrest⟩ next rfl
      | tail _ _ rest' hrest' => exact ihrest rest' hrest' task htask

theorem acc_movedOn (tasks : List (Task α)) : Acc MovedOn tasks := by
  induction tasks with
  | nil => exact ⟨_, fun _ h => nomatch h⟩
  | cons task rest ih =>
    exact acc_movedOn_cons task.activity (Activity.acc_follows _) rest ih task rfl

instance : WellFoundedRelation (Pool α) where
  rel p q := MovedOn p.tasks q.tasks
  wf := InvImage.wf Pool.tasks ⟨acc_movedOn⟩

theorem movedOn_set (tasks : List (Task α)) (i : Nat) (h : i < tasks.length) (next : Task α)
    (hnext : next.activity.Follows tasks[i].activity) : MovedOn (tasks.set i next) tasks := by
  induction tasks generalizing i with
  | nil => exact absurd h (Nat.not_lt_zero i)
  | cons task rest ih =>
    cases i with
    | zero => exact .head _ _ _ hnext
    | succ i => exact .tail _ _ _ (ih i (Nat.lt_of_succ_lt_succ h) hnext)

def nextTime? (tasks : List (Task α)) : Option Nat :=
  ((tasks.filter (!·.activity.isDone)).map Task.due).min?

def next? (tasks : List (Task α)) : Option Nat :=
  (nextTime? tasks).bind fun time =>
    tasks.findIdx? fun task => !task.activity.isDone && task.due == time

/-- Plays all tasks to their ends. The result has them in their places, with the calls of all,
    latest first. -/
def playFrom (d : Dispatcher) (earlier : List TimedCall) (p : Pool α) :
    Pool α × List TimedCall :=
  match next? p.tasks with
  | none => (p, earlier)
  | some i =>
    if h : i < p.tasks.length then
      let task := p.tasks[i]
      match ha : task.activity with
      | .done _ => (p, earlier)
      | .noting _ _ rest => playFrom d earlier ⟨p.tasks.set i ⟨task.due, rest ()⟩⟩
      | .calling call _ resume =>
        let reply := d (earlier.map TimedCall.call) call
        playFrom d (⟨task.due, call⟩ :: earlier) ⟨p.tasks.set i ⟨task.due, resume reply⟩⟩
      | .waiting delay _ resume =>
        playFrom d earlier ⟨p.tasks.set i ⟨task.due + delay.millis, resume ()⟩⟩
    else (p, earlier)
termination_by p
decreasing_by
  all_goals
    refine movedOn_set _ i h _ ?_
    simp only [task] at ha
    rw [ha]
    constructor

def results (p : Pool α) : List α :=
  p.tasks.filterMap fun task =>
    match task.activity with
    | .done result => some result
    | _ => none

def endTime (p : Pool α) : Nat := (p.tasks.map Task.due).foldl max 0

def play (d : Dispatcher) (activities : List (Activity α)) : Played (List α) :=
  let (p, calls) := playFrom d [] ⟨activities.map (⟨0, ·⟩)⟩
  ⟨p.results, calls.reverse, p.endTime⟩

end Pool

end PinFlow
