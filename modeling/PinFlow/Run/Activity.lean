import PinFlow.Run.State
import PinFlow.Run.Delay

/-!
Runs as trees of what they ask of the world.

A run either has ended, or notes where it is, or calls an action and goes on as the reply demands,
or waits. Each of these carries the state of the run at that point. The tree is the whole behaviour
of the run: who answers the calls, and what else happens while it waits, is decided elsewhere.
-/

set_option autoImplicit false

namespace PinFlow

/-- The call of an action: the node that makes it, and what the one who performs it is told. -/
structure Call where
  node : NodeId
  definition : String
  inputs : Fields Value
  config : Fields Value
  deriving Repr

abbrev Reply := Except DispatchError (Fields Value)

/-- A place in a run: control has entered a node, or leaves one through an exec output. -/
inductive Note where
  | entered (node : NodeId)
  | firing (node : NodeId) (handle : Handle)
  deriving DecidableEq, Repr

inductive Activity (α : Type) where
  | done (result : α)
  | noting (note : Note) (state : RunState) (rest : Unit → Activity α)
  | calling (call : Call) (state : RunState) (resume : Reply → Activity α)
  | waiting (delay : Delay) (state : RunState) (resume : Unit → Activity α)

namespace Activity

variable {α β : Type}

def bind : Activity α → (α → Activity β) → Activity β
  | .done a, f => f a
  | .noting note st rest, f => .noting note st fun u => (rest u).bind f
  | .calling call st resume, f => .calling call st fun reply => (resume reply).bind f
  | .waiting delay st resume, f => .waiting delay st fun u => (resume u).bind f

def map (f : α → β) (a : Activity α) : Activity β := a.bind fun x => .done (f x)

@[simp]
theorem bind_done (a : α) (f : α → Activity β) : (done a).bind f = f a := rfl

@[simp]
theorem bind_noting (note : Note) (st : RunState) (rest : Unit → Activity α)
    (f : α → Activity β) :
    (noting note st rest).bind f = .noting note st fun u => (rest u).bind f := rfl

@[simp]
theorem bind_calling (call : Call) (st : RunState) (resume : Reply → Activity α)
    (f : α → Activity β) :
    (calling call st resume).bind f = .calling call st fun reply => (resume reply).bind f := rfl

@[simp]
theorem bind_waiting (delay : Delay) (st : RunState) (resume : Unit → Activity α)
    (f : α → Activity β) :
    (waiting delay st resume).bind f = .waiting delay st fun u => (resume u).bind f := rfl

end Activity

/-- Where a path of a run has come to: it goes on, or an action failed and nothing more is done. -/
inductive Progress where
  | going (state : RunState)
  | failed (state : RunState) (error : RunError)

namespace Progress

def state : Progress → RunState
  | .going st => st
  | .failed st _ => st

def mapState (f : RunState → RunState) : Progress → Progress
  | .going st => .going (f st)
  | .failed st error => .failed (f st) error

def outcome : Progress → Except RunError RunState
  | .going st => .ok st
  | .failed _ error => .error error

end Progress

/-- A part of a run, from the state at its start. -/
abbrev Path := RunState → Activity Progress

namespace Path

/-- Goes on with the second path unless the first has failed. -/
def andThen (first : Activity Progress) (second : Path) : Activity Progress :=
  first.bind fun
    | .going st => second st
    | .failed st error => .done (.failed st error)

def skip : Path := fun st => .done (.going st)

def each {ι : Type} (path : ι → Path) : List ι → Path
  | [] => skip
  | i :: rest => fun st => andThen (path i st) (each path rest)

end Path

end PinFlow
