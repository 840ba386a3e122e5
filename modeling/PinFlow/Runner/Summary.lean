import PinFlow.Run.Outcome

/-!
The summary of the runs that an event set off, for people to read.
-/

set_option autoImplicit false

namespace PinFlow.Runner

def stamp (run : RunId) (millis : Nat) : String := run.text ++ ", " ++ toString millis ++ " ms"

def summaryOf (o : RunOutcome) (stamp : String) : String :=
  match o.result with
  | .ok st =>
    o.entry ++ ": ok (" ++ stamp ++ ")\n" ++
      "  executed: " ++ " -> ".intercalate st.executed ++ "\n" ++
      String.join (st.warnings.map fun w => "  warning: " ++ w.message ++ "\n")
  | .error e => o.entry ++ ": failed\n  error: \n ● " ++ e.message ++ "\n"

def summary (outcomes : List (RunOutcome × String)) : String :=
  if outcomes.isEmpty then "no event node matched\n"
  else String.join (outcomes.map fun (o, stamp) => summaryOf o stamp)

def noneFailed (outcomes : List RunOutcome) : Bool := outcomes.all RunOutcome.succeeded

end PinFlow.Runner
