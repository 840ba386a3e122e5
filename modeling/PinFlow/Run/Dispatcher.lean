import PinFlow.Run.Activity

/-!
Who answers the calls of a run, and the clock by which runs wait.

A dispatcher may take all earlier calls into account. Time is virtual: it stands still except while
every run waits.
-/

set_option autoImplicit false

namespace PinFlow

/-- The reply to a call, given the calls before it, latest first. -/
abbrev Dispatcher := List Call → Call → Reply

namespace Dispatcher

def silent : Dispatcher := fun _ _ => .ok []

/-- Prepared replies for each definition: the `n`-th call gets the `n`-th, the last one is used
    again, and a definition without replies succeeds without outputs. -/
def scripted (script : String → List Reply) : Dispatcher := fun earlier call =>
  let replies := script call.definition
  let used := (earlier.filter (·.definition = call.definition)).length
  match replies[used]? with
  | some reply => reply
  | none => replies.getLast?.getD (.ok [])

end Dispatcher

/-- A call and the milliseconds on the clock when it was made. -/
structure TimedCall where
  time : Nat
  call : Call

/-- What comes of playing a run: its result, the calls in order and the time at its end. -/
structure Played (α : Type) where
  result : α
  calls : List TimedCall
  elapsed : Nat

namespace Activity

variable {α : Type}

/-- Plays a run from some time on, after the given calls, latest first. -/
def playFrom (d : Dispatcher) (time : Nat) (earlier : List TimedCall) : Activity α → Played α
  | .done result => ⟨result, earlier.reverse, time⟩
  | .noting _ _ rest => playFrom d time earlier (rest ())
  | .calling call _ resume =>
    playFrom d time (⟨time, call⟩ :: earlier) (resume (d (earlier.map TimedCall.call) call))
  | .waiting delay _ resume => playFrom d (time + delay.millis) earlier (resume ())

def play (d : Dispatcher) (a : Activity α) : Played α := playFrom d 0 [] a

end Activity

end PinFlow
