/-!
Why a run cannot be prepared.
-/

set_option autoImplicit false

namespace PinFlow.Runner

inductive Error where
  | config (details : String)
  | unreadable (path : String) (details : String)
  | invalidBot (path : String) (details : String)
  | invalidPayload (path : String) (details : String)
  | unknownEvent (name : String)
  deriving DecidableEq, Repr

def Error.message : Error → String
  | .config details => "invalid configuration: " ++ details
  | .unreadable path details => "failed to read '" ++ path ++ "': " ++ details
  | .invalidBot path details => "invalid bot definition '" ++ path ++ "': " ++ details
  | .invalidPayload path details => "invalid event payload '" ++ path ++ "': " ++ details
  | .unknownEvent name => "unknown event '" ++ name ++ "'"

end PinFlow.Runner
