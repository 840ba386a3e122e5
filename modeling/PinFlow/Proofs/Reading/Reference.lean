import PinFlow.Proofs.Reading.Contract

set_option autoImplicit false

/-!
# The reference value of an input

The value of an input by plain recursion along data edges, without memos, guards or bounds. It is
defined for the inputs behind which no cycle lies, and `reference_eq` is the recursion.
-/

namespace PinFlow

abbrev Outputs := NodeId → Handle → Option Value

def putInput (inputs : Fields Value) (entry : String × Option Value) : Fields Value :=
  match entry.2 with
  | some v => inputs.insert entry.1 v
  | none => inputs

/-- What a constant node gives: an option what the trigger holds for the option that it names, under
    the first of two keys, and every other constant what it is configured with for the output, or
    else for all. -/
def constantReference (trigger : Trigger) (source : Node) : ConstantKind → Handle → Option Value
  | .option, _ =>
    match source.config.get? "name", source.config.get? "optionName" with
    | some (.string name), _ => Fields.get? trigger (Trigger.optionKey name)
    | none, some (.string name) => Fields.get? trigger (Trigger.optionKey name)
    | _, _ => none
  | _, handle =>
    match source.config.get? handle with
    | some v => some v
    | none => source.config.get? "value"

theorem constantReference_eq (trigger : Trigger) (source : Node) (kind : ConstantKind)
    (handle : Handle) :
    constantReference trigger source kind handle = constantValue trigger source kind handle := by
  have hliteral : (match source.config.get? handle with
      | some v => some v
      | none => source.config.get? "value") =
      (source.config.get? handle).or (source.config.get? "value") := by
    cases source.config.get? handle <;> rfl
  cases kind with
  | option =>
    simp only [constantReference, constantValue, Node.configured?]
    generalize source.config.get? "name" = first
    generalize source.config.get? "optionName" = second
    cases first with
    | some v => cases v <;> rfl
    | none =>
      cases second with
      | some v => cases v <;> rfl
      | none => rfl
  | string => exact hliteral
  | number => exact hliteral
  | boolean => exact hliteral

namespace Graph

variable (g : Graph)

def FeedsAcyclic (input key : PinKey) : Prop := g.Feeds input key ∧ g.Acyclic key

theorem feedsAcyclic_wf : WellFounded g.FeedsAcyclic := by
  refine ⟨fun key => ?_⟩
  by_cases h : g.Acyclic key
  · exact Subrelation.accessible (fun hf => hf.1) h.acc
  · exact ⟨_, fun _ hf => absurd hf.2 h⟩

open Classical in
/-- The value of an input, given the trigger and the stored outputs. -/
noncomputable def reference (trigger : Trigger) (outputs : Outputs) (key : PinKey) :
    Option Value :=
  if _ : g.Acyclic key then
    match _ : g.origin key with
    | .literal => (g.node? key.1).bind (·.configured? key.2)
    | .absent => none
    | .unknown _ => none
    | .constant source kind handle => constantReference trigger source kind handle
    | .event handle => Fields.get? trigger handle
    | .output source handle => outputs source handle
    | .computed source kind =>
      kind.evaluate
        ((source.dataInputs.attach.map fun pin =>
          (pin.1.id, reference trigger outputs (source.id, pin.1.id))).foldl putInput []) 0
  else none
termination_by g.feedsAcyclic_wf.wrap key
decreasing_by
  exact ⟨⟨source, kind, ‹_›, pin.1, pin.2, rfl⟩, ‹_›⟩

noncomputable def referenceInputs (trigger : Trigger) (outputs : Outputs) (source : Node) :
    Fields Value :=
  (source.dataInputs.map fun pin =>
    (pin.id, g.reference trigger outputs (source.id, pin.id))).foldl putInput []

noncomputable def referenceResult (trigger : Trigger) (outputs : Outputs) (source : Node)
    (kind : PureKind) : Option Value :=
  kind.evaluate (g.referenceInputs trigger outputs source) 0

theorem reference_eq (trigger : Trigger) (outputs : Outputs) {key : PinKey}
    (h : g.Acyclic key) :
    g.reference trigger outputs key =
      match g.origin key with
      | .literal => (g.node? key.1).bind (·.configured? key.2)
      | .absent => none
      | .unknown _ => none
      | .constant source kind handle => constantValue trigger source kind handle
      | .event handle => Fields.get? trigger handle
      | .output source handle => outputs source handle
      | .computed source kind => g.referenceResult trigger outputs source kind := by
  rw [reference, dif_pos h]
  split
  all_goals rename_i horigin
  all_goals simp only [horigin]
  · exact constantReference_eq _ _ _ _
  · rw [referenceResult, referenceInputs]
    congr 2
    exact List.attach_map_val
      (f := fun pin : Pin => (pin.id, g.reference trigger outputs (_, pin.id)))

end Graph

end PinFlow
