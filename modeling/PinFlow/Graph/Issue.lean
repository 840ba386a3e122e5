import PinFlow.Graph.Pin

/-!
Problems of a graph: those for which a node or an edge is refused, and those that are only
reported, because a run copes with them.
-/

set_option autoImplicit false

namespace PinFlow

abbrev Handle := String

/-- Why a node or an edge cannot become part of a graph, or a definition has no kind. -/
inductive GraphError where
  | nodeNotFound (node : String)
  | duplicateNode (node : String)
  | unknownDefinition (definition : String)
  | sourcePinNotFound (node : String) (handle : Handle)
  | targetPinNotFound (node : String) (handle : Handle)
  | mixedEdge (source : String) (sourceHandle : Handle) (target : String) (targetHandle : Handle)
  | inputAlreadyConnected (node : String) (handle : Handle)
  deriving DecidableEq, Repr

def GraphError.message : GraphError → String
  | .nodeNotFound node => "node not found: " ++ node
  | .duplicateNode node => "duplicate node id: " ++ node
  | .unknownDefinition definition => "unknown node definition '" ++ definition ++ "'"
  | .sourcePinNotFound node handle => "source pin '" ++ handle ++ "' not found on node " ++ node
  | .targetPinNotFound node handle => "target pin '" ++ handle ++ "' not found on node " ++ node
  | .mixedEdge source sourceHandle target targetHandle =>
    "edge mixes exec and data pins: " ++ source ++ ":" ++ sourceHandle ++ " -> " ++ target ++ ":" ++
      targetHandle
  | .inputAlreadyConnected node handle =>
    "data input '" ++ handle ++ "' on node " ++ node ++ " already has an edge"

inductive Issue where
  | unknownDefinition (node : String) (definition : String)
  | eventWithoutExecOutput (node : String)
  | requiredInputUnset (node : String) (pin : String)
  | pinTypeMismatch (source : String) (sourceType : PinType) (target : String)
      (targetHandle : Handle) (targetType : PinType)
  | dataCycle
  deriving DecidableEq, Repr

def Issue.message : Issue → String
  | .unknownDefinition node definition =>
    "node " ++ node ++ " has unknown definition '" ++ definition ++ "'"
  | .eventWithoutExecOutput node => "event node " ++ node ++ " has no exec output"
  | .requiredInputUnset node pin =>
    "required input '" ++ pin ++ "' on node " ++ node ++ " is not set"
  | .pinTypeMismatch source sourceType target targetHandle targetType =>
    sourceType.title ++ " output of node " ++ source ++ " feeds " ++ targetType.title ++
      " input '" ++ targetHandle ++ "' on node " ++ target
  | .dataCycle => "data edges form a cycle"

end PinFlow
