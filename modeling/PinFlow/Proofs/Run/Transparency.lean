import PinFlow.Proofs.Run.Step

set_option autoImplicit false

/-!
# Memoization is transparent

In every state that a run can come to, reading an input behind which lies neither a cycle nor a
random draw gives its reference value at the present outputs, unless the depth bound cut off this
very reading; and then nothing is memoized for the input.
-/

namespace PinFlow.Setup

variable {s : Setup}

theorem readPin_eq_reference {st : RunState} (hst : s.Reached st) {node : Node} {handle : Handle}
    (hnode : s.graph.node? node.id = some node) (hacyclic : s.graph.Acyclic (node.id, handle))
    (hdrawless : s.graph.Drawless (node.id, handle)) :
    (s.readPin node handle st).1 = s.graph.reference st.trigger st.output? (node.id, handle) ∨
      (st.cuts < (s.readPin node handle st).2.cuts ∧
        (s.readPin node handle st).2.memoizedPin? (node.id, handle) = none) := by
  have hcontract := readPinAt_contract (s := s) node handle st
  have hreading := readPinAt_faithful hst.sane hnode handle
  change (s.readPinAt 0 node handle st).1.value = _ ∨
    (_ < (s.readPinAt 0 node handle st).2.cuts ∧
      (s.readPinAt 0 node handle st).2.memoizedPin? (node.id, handle) = none)
  by_cases hl : (s.readPinAt 0 node handle st).1.lifetime = .uncached
  · exact .inr ⟨hcontract.cut hl, hcontract.unmemoized hl⟩
  · exact .inl ((hreading.lasts ⟨hacyclic, hdrawless⟩).eq hl).symm

theorem readPin_eq_reference_greeting :
    greetingSetup.Reached greetingState ∧
      greetingSetup.graph.node? Graph.sayNode.id = some Graph.sayNode ∧
      greetingSetup.graph.Acyclic ("say", "text") ∧ greetingSetup.graph.Drawless ("say", "text") ∧
      ((greetingSetup.readPin Graph.sayNode "text" greetingState).1 =
          greetingSetup.graph.reference greetingState.trigger greetingState.output?
            ("say", "text") ∨
        (greetingState.cuts < (greetingSetup.readPin Graph.sayNode "text" greetingState).2.cuts ∧
          (greetingSetup.readPin Graph.sayNode "text" greetingState).2.memoizedPin?
            ("say", "text") = none)) ∧
      (greetingSetup.readPin Graph.sayNode "text" greetingState).1 = some (.string "Ann!") :=
  ⟨greetingState_reached, rfl, Graph.greeting_acyclic, Graph.greeting_drawless,
    readPin_eq_reference greetingState_reached rfl Graph.greeting_acyclic Graph.greeting_drawless,
    rfl⟩

end PinFlow.Setup
