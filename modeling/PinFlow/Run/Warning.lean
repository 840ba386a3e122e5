import PinFlow.Graph

/-!
What can go wrong in a run: warnings, after which it goes on with a local default, and errors,
which end it.
-/

set_option autoImplicit false

namespace PinFlow

inductive Warning where
  | noExecOutput (node : NodeId)
  | cycleSkipped (node : NodeId) (handle : Handle)
  | dataCycleSkipped (node : NodeId) (handle : Handle)
  | depthLimitReached (node : NodeId) (depth : Nat)
  | unknownDefinition (node : NodeId) (definition : String)
  | unknownFlowKind (node : NodeId) (kind : String)
  | unknownPureFunction (node : NodeId) (kind : String)
  | missingRequiredInput (node : NodeId) (pin : String)
  | unresolvedCondition (node : NodeId)
  | notAnArray (node : NodeId)
  | pureNodeOnExecPath (node : NodeId)
  deriving DecidableEq, Repr

namespace Warning

def message : Warning → String
  | .noExecOutput node => "event node " ++ node ++ " has no exec output; nothing to run"
  | .cycleSkipped node handle => "cycle detected at " ++ node ++ ":" ++ handle ++ "; edge skipped"
  | .dataCycleSkipped node handle =>
    "data cycle detected at " ++ node ++ ":" ++ handle ++ "; read as undefined"
  | .depthLimitReached node depth =>
    "depth limit " ++ toString depth ++ " reached at node " ++ node
  | .unknownDefinition node definition =>
    "node " ++ node ++ " has unknown definition '" ++ definition ++ "'"
  | .unknownFlowKind node kind => "flow node " ++ node ++ " has unsupported kind '" ++ kind ++ "'"
  | .unknownPureFunction node kind =>
    "pure node " ++ node ++ " has unsupported kind '" ++ kind ++ "'"
  | .missingRequiredInput node pin =>
    "required input '" ++ pin ++ "' on node " ++ node ++ " is undefined"
  | .unresolvedCondition node => "branch " ++ node ++ " condition is undefined; no path taken"
  | .notAnArray node => "for-each " ++ node ++ " input is not an array; loop skipped"
  | .pureNodeOnExecPath node => "pure node " ++ node ++ " reached through an exec edge"

/-- The written form: fields in key order, with the kind of warning under `type`. -/
def toValue : Warning → Value
  | .noExecOutput node => .object [("node_id", .string node), ("type", .string "no_exec_output")]
  | .cycleSkipped node handle =>
    .object [("handle", .string handle), ("node_id", .string node),
      ("type", .string "cycle_skipped")]
  | .dataCycleSkipped node handle =>
    .object [("handle", .string handle), ("node_id", .string node),
      ("type", .string "data_cycle_skipped")]
  | .depthLimitReached node depth =>
    .object [("depth", .int depth), ("node_id", .string node),
      ("type", .string "depth_limit_reached")]
  | .unknownDefinition node definition =>
    .object [("definition", .string definition), ("node_id", .string node),
      ("type", .string "unknown_definition")]
  | .unknownFlowKind node kind =>
    .object [("kind", .string kind), ("node_id", .string node),
      ("type", .string "unknown_flow_kind")]
  | .unknownPureFunction node kind =>
    .object [("kind", .string kind), ("node_id", .string node),
      ("type", .string "unknown_pure_function")]
  | .missingRequiredInput node pin =>
    .object [("node_id", .string node), ("pin", .string pin),
      ("type", .string "missing_required_input")]
  | .unresolvedCondition node =>
    .object [("node_id", .string node), ("type", .string "unresolved_condition")]
  | .notAnArray node => .object [("node_id", .string node), ("type", .string "not_an_array")]
  | .pureNodeOnExecPath node =>
    .object [("node_id", .string node), ("type", .string "pure_node_on_exec_path")]

end Warning

inductive DispatchError where
  | invalidInput (message : String)
  | capabilityFailed (capability : String) (message : String)
  | unsupportedAction (definition : String)
  deriving DecidableEq, Repr

def DispatchError.message : DispatchError → String
  | .invalidInput message => "invalid input: " ++ message
  | .capabilityFailed capability message => "capability " ++ capability ++ " failed: " ++ message
  | .unsupportedAction definition => "unsupported action: " ++ definition

inductive RunError where
  | eventNodeNotFound (node : NodeId)
  | notAnEventNode (node : NodeId) (definition : String)
  | actionFailed (node : NodeId) (definition : String) (cause : DispatchError)
  deriving DecidableEq, Repr

namespace RunError

def message : RunError → String
  | .eventNodeNotFound node => "event node " ++ node ++ " not found in graph"
  | .notAnEventNode node definition =>
    "node " ++ node ++ " (" ++ definition ++ ") is not an event node"
  | .actionFailed node definition _ => "action " ++ definition ++ " on node " ++ node ++ " failed"

def causes : RunError → List String
  | .actionFailed _ _ cause => [cause.message]
  | _ => []

end RunError

end PinFlow
