import PinFlow.Bot
import PinFlow.Run.Schedule
import PinFlow.Run.Traversal

/-!
What an event sets off in a bot: one run for each of its entry nodes, all at the same time. A bot
that is turned off does nothing.
-/

set_option autoImplicit false

namespace PinFlow

structure RunOutcome where
  entry : NodeId
  result : Except RunError RunState

namespace RunOutcome

def succeeded (o : RunOutcome) : Bool :=
  match o.result with
  | .ok _ => true
  | .error _ => false

end RunOutcome

namespace Bot

/-- The runs that an event starts, in graph order. `dice` gives the random draws of each run. -/
def runs (b : Bot) (limits : Limits) (dice : NodeId → Nat → Nat) (event : EventKind)
    (trigger : Trigger) : List (Activity RunOutcome) :=
  if b.isEnabled then
    (b.entryNodes event).map fun node =>
      (Setup.start ⟨b.graph, limits, dice node.id⟩ node.id trigger).map (⟨node.id, ·⟩)
  else []

def handle (b : Bot) (limits : Limits) (dice : NodeId → Nat → Nat) (d : Dispatcher)
    (event : EventKind) (trigger : Trigger) : Played (List RunOutcome) :=
  Pool.play d (b.runs limits dice event trigger)

end Bot

end PinFlow
