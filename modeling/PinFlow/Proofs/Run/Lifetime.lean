import PinFlow.Proofs.Reading.Lifetime
import PinFlow.Proofs.Run.Production

set_option autoImplicit false

/-!
# Memos last as long as the graph says

In every state that a run can come to, the memos are `Dated`. An input behind which no cycle lies is
memoized for the run exactly if it draws on no outputs, whatever was read or stored before. With
cycles this fails in one way only: where an input was skipped, what draws on outputs through that
input alone may be memoized for the run, and then keeps its value when the outputs change.
-/

namespace PinFlow

namespace Graph

variable (g : Graph)

def PassesOn (st : RunState) (input key : PinKey) : Prop :=
  g.Feeds input key ∧ ¬ g.Skipped st input

/-- An output goes into the value of the input without passing one that has been skipped. -/
def Exposed (st : RunState) (key : PinKey) : Prop :=
  ∃ k source out, Relation.ReflTransGen (g.PassesOn st) k key ∧ g.origin k = .output source out

variable {g}

theorem DrawsOnOutputs.exposed {st : RunState} {key : PinKey} (h : g.DrawsOnOutputs key)
    (hopen : ∀ k, Relation.TransGen g.Feeds k key → ¬ g.Skipped st k) : g.Exposed st key := by
  obtain ⟨k, source, out, hpath, horigin⟩ := h
  refine ⟨k, source, out, ?_, horigin⟩
  induction hpath with
  | refl => exact .refl
  | @tail input key _ hfeeds ih =>
    have hinput := ih fun j hj => hopen j (hj.tail hfeeds)
    exact hinput.tail ⟨hfeeds, hopen input (.single hfeeds)⟩

theorem Acyclic.exposed {st : RunState} {key : PinKey} (h : g.Acyclic key)
    (hdraws : g.DrawsOnOutputs key) : g.Exposed st key :=
  hdraws.exposed fun k hk hskipped => h k hk.to_reflTransGen hskipped.circular

end Graph

namespace Dated

variable {g : Graph} {st : RunState}

theorem fresh (g : Graph) (trigger : Trigger) : Dated g (RunState.fresh trigger) where
  livePins _ _ h := nomatch h
  liveResults _ _ _ _ h := nomatch h
  runResults _ _ _ _ h := nomatch h

theorem setOutputs (h : Dated g st) (ht : st.Tagged) (node : NodeId) (outputs : Fields Value) :
    Dated g (st.setOutputs node outputs) := by
  have hpin := RunState.memoizedPin?_setOutputs ht node outputs
  have hresult := RunState.memoizedPure?_setOutputs ht node outputs
  constructor
  -- Nothing that was memoized for a generation is left.
  · intro key r hr hgeneration
    exact nomatch hgeneration.symm.trans ((hpin key r).1 hr).2
  · intro source kind r _ hr hgeneration
    exact nomatch hgeneration.symm.trans ((hresult source.id r).1 hr).2
  · intro source kind r hcomputes hr hrun pin hpin'
    have hbefore := ((hresult source.id r).1 hr).1
    refine (h.runResults source kind r hcomputes hbefore hrun pin hpin').imp ?_ ?_
    · exact fun ⟨v, hv⟩ => ⟨v, (hpin _ _).2 ⟨hv, rfl⟩⟩
    · exact fun hskipped => hskipped.mono (List.Subset.refl _)

theorem not_run_of_exposed (h : Dated g st) (hst : Sane g st) {key : PinKey}
    (hexposed : g.Exposed st key) (v : Option Value) : st.memoizedPin? key ≠ some ⟨v, .run⟩ := by
  obtain ⟨k, source, out, hpath, horigin⟩ := hexposed
  -- A memo for the run leads back along the path, from each input to the one before it.
  induction hpath generalizing v with
  | refl =>
    intro hmemo
    have hpin := (Memo.lookup_eq_run_iff v).1 hmemo
    rw [hst.pinMemo_of_output horigin] at hpin
    cases hpin
  | @tail input key _ hpass ih =>
    intro hmemo
    obtain ⟨⟨node, kind, hcomputed, pin, hpin, rfl⟩, hopen⟩ := hpass
    have hresult := hst.coherent key node kind _ hcomputed hmemo
    rcases h.runResults node kind _ (g.computes_of_origin hcomputed) hresult rfl pin hpin with
      ⟨w, hw⟩ | hskipped
    · exact ih w hw
    · exact hopen hskipped

theorem pinMemo_of_exposed (h : Dated g st) (hst : Sane g st) {key : PinKey}
    (hexposed : g.Exposed st key) : st.pinMemo.get? key = none := by
  cases hmemo : st.pinMemo.get? key with
  | none => rfl
  | some v =>
    exact absurd ((Memo.lookup_eq_run_iff v).2 hmemo) (h.not_run_of_exposed hst hexposed v)

theorem pureMemo_of_exposed (h : Dated g st) (hst : Sane g st) {source : Node} {kind : PureKind}
    (hcomputes : g.Computes source kind) {pin : Pin} (hpin : pin ∈ source.dataInputs)
    (hopen : ¬ g.Skipped st (source.id, pin.id)) (hexposed : g.Exposed st (source.id, pin.id)) :
    st.pureMemo.get? source.id = none := by
  cases hmemo : st.pureMemo.get? source.id with
  | none => rfl
  | some v =>
    have hfound : st.memoizedPure? source.id = some ⟨v, .run⟩ := (Memo.lookup_eq_run_iff v).2 hmemo
    rcases h.runResults source kind _ hcomputes hfound rfl pin hpin with ⟨w, hw⟩ | hskipped
    · exact absurd hw (h.not_run_of_exposed hst hexposed w)
    · exact absurd hskipped hopen

end Dated

namespace Setup

variable {s : Setup} {st : RunState}

theorem readPinAt_dated (hst : Sane s.graph st) (hdated : Dated s.graph st) (node : Node)
    (handle : Handle) :
    DatedReading s.graph (node.id, handle) (s.readPinAt 0 node handle st) :=
  readPinFrom_dating _ _ node handle st (hst.awaited _) hdated

theorem take_dated (hst : Sane s.graph st) (hdated : Dated s.graph st) (step : Step)
    (hfits : step.Fits s.graph) : Dated s.graph (s.take st step) := by
  cases step with
  | read node handle => exact (readPinAt_dated hst hdated node handle).dated
  | evaluate node kind =>
    exact (evaluatePure_dated (readPinFrom_contract _ _) (readPinFrom_dating _ _) hfits
      (fun _ _ => hst.awaited _) hdated).1
  | store node outputs => exact hdated.setOutputs hst.tagged node outputs
  | warn w => exact hdated.warn w
  | mark node => exact hdated.of_lookups rfl rfl (List.Subset.refl _)
  | enter key => exact hdated.of_lookups rfl rfl (List.Subset.refl _)
  | leave key => exact hdated.of_lookups rfl rfl (List.Subset.refl _)

theorem takeAll_dated (hst : Sane s.graph st) (hdated : Dated s.graph st) (steps : List Step)
    (hfits : ∀ step ∈ steps, step.Fits s.graph) : Dated s.graph (s.takeAll st steps) := by
  induction steps generalizing st with
  | nil => exact hdated
  | cons step rest ih =>
    have hstep := hfits step List.mem_cons_self
    exact ih (take_sane hst step hstep) (take_dated hst hdated step hstep)
      fun step hstep => hfits step (List.mem_cons_of_mem _ hstep)

theorem Reached.dated (h : s.Reached st) : Dated s.graph st := by
  obtain ⟨trigger, steps, hfits, rfl⟩ := h
  exact takeAll_dated (.fresh s.graph trigger) (.fresh s.graph trigger) steps hfits

theorem readPin_dated_memo (hst : s.Reached st) {node : Node} {handle : Handle}
    (hnode : s.graph.node? node.id = some node) (hacyclic : s.graph.Acyclic (node.id, handle))
    (huncut : (s.readPin node handle st).2.cuts = st.cuts) :
    (¬ s.graph.DrawsOnOutputs (node.id, handle) ∧
        (s.readPin node handle st).2.pinMemo.get? (node.id, handle) =
          some (s.readPin node handle st).1) ∨
      (s.graph.DrawsOnOutputs (node.id, handle) ∧
        (s.readPin node handle st).2.pinMemo.get? (node.id, handle) = none ∧
        (s.readPin node handle st).2.livePins.get? (node.id, handle) =
          some (st.generation, (s.readPin node handle st).1)) := by
  have hmemo := memoized_of_uncut hst.sane.resolving huncut
  have hread : Sane s.graph (s.readPin node handle st).2 :=
    take_sane hst.sane (.read node handle) hnode
  have hreading := readPinAt_dated hst.sane hst.dated node handle
  have hframe : ReadFrame st (s.readPin node handle st).2 :=
    (readPinAt_contract node handle st).advance.frame
  change (s.readPin node handle st).2.memoizedPin? _ =
    some ⟨(s.readPin node handle st).1, _⟩ at hmemo
  cases hlifetime : (s.readPinAt 0 node handle st).1.lifetime with
  | uncached => exact absurd hlifetime (Memo.lookup_lifetime hmemo)
  | run =>
    rw [hlifetime] at hmemo
    refine .inl ⟨fun hdraws => ?_, (Memo.lookup_eq_run_iff _).1 hmemo⟩
    exact hreading.dated.not_run_of_exposed hread (hacyclic.exposed hdraws) _ hmemo
  | generation =>
    rw [hlifetime] at hmemo
    obtain ⟨hpin, hlive⟩ := (Memo.lookup_eq_generation_iff _).1 hmemo
    rw [hframe.generation] at hlive
    exact .inr ⟨hreading.live hlifetime, hpin, hlive⟩

/-- After a reading that was not cut off, an input behind which no cycle lies is memoized for the
    run exactly if it draws on no outputs, and for the generation otherwise. The graph alone decides:
    other limits, draws, readings and outputs make no difference. -/
theorem readPin_memo_lifetime {s : Setup} {st : RunState} (hst : s.Reached st) {node : Node}
    {handle : Handle} (hnode : s.graph.node? node.id = some node)
    (hacyclic : s.graph.Acyclic (node.id, handle))
    (huncut : (s.readPin node handle st).2.cuts = st.cuts) :
    (((s.readPin node handle st).2.pinMemo.get? (node.id, handle)).isSome = true ↔
        ¬ s.graph.DrawsOnOutputs (node.id, handle)) ∧
      (s.graph.DrawsOnOutputs (node.id, handle) →
        (s.readPin node handle st).2.pinMemo.get? (node.id, handle) = none ∧
        (s.readPin node handle st).2.livePins.get? (node.id, handle) =
          some ((s.readPin node handle st).2.generation, (s.readPin node handle st).1)) ∧
      ∀ (s' : Setup) (st' : RunState), s'.graph = s.graph → s'.Reached st' →
        (s'.readPin node handle st').2.cuts = st'.cuts →
        ((s'.readPin node handle st').2.pinMemo.get? (node.id, handle)).isSome =
          ((s.readPin node handle st).2.pinMemo.get? (node.id, handle)).isSome := by
  have hgeneration : (s.readPin node handle st).2.generation = st.generation :=
    (readPinAt_contract node handle st).advance.frame.generation
  refine ⟨?_, fun hdraws => ?_, fun s' st' hgraph hst' huncut' => ?_⟩
  · rcases readPin_dated_memo hst hnode hacyclic huncut with ⟨hdraws, hpin⟩ | ⟨hdraws, hpin, -⟩
    · rw [hpin]
      exact iff_of_true rfl hdraws
    · rw [hpin]
      exact iff_of_false Bool.false_ne_true fun h => h hdraws
  · rcases readPin_dated_memo hst hnode hacyclic huncut with ⟨hnot, -⟩ | ⟨-, hpin, hlive⟩
    · exact absurd hdraws hnot
    · rw [hgeneration]
      exact ⟨hpin, hlive⟩
  · rw [← hgraph] at hnode hacyclic
    have hthere := readPin_dated_memo hst' hnode hacyclic huncut'
    rw [hgraph] at hnode hacyclic hthere
    rcases readPin_dated_memo hst hnode hacyclic huncut with ⟨hdraws, hpin⟩ | ⟨hdraws, hpin, -⟩
    · rcases hthere with ⟨-, hpin'⟩ | ⟨hdraws', -⟩
      · rw [hpin, hpin']
        rfl
      · exact absurd hdraws' hdraws
    · rcases hthere with ⟨hdraws', -⟩ | ⟨-, hpin', -⟩
      · exact absurd hdraws hdraws'
      · rw [hpin, hpin']

theorem greeting_drawsOnOutputs : Graph.greeting.DrawsOnOutputs ("say", "text") :=
  ⟨("join", "a"), "ask", "name", .single ⟨Graph.joinNode, _, Graph.greeting_origin_text,
    .required "a" .string, List.mem_cons_self, rfl⟩, rfl⟩

theorem readPin_memo_lifetime_greeting :
    greetingSetup.Reached greetingState ∧
      greetingSetup.graph.node? Graph.sayNode.id = some Graph.sayNode ∧
      greetingSetup.graph.Acyclic ("say", "text") ∧
      (greetingSetup.readPin Graph.sayNode "text" greetingState).2.cuts = greetingState.cuts ∧
      (greetingSetup.readPin Graph.sayNode "text" greetingState).2.pinMemo.get? ("say", "text") =
        none ∧
      (greetingSetup.readPin Graph.sayNode "text" greetingState).2.livePins.get? ("say", "text") =
        some (1, some (.string "Ann!")) := by
  have huncut : (greetingSetup.readPin Graph.sayNode "text" greetingState).2.cuts =
      greetingState.cuts := by rfl
  obtain ⟨hpin, hlive⟩ := (@readPin_memo_lifetime greetingSetup greetingState
    greetingState_reached Graph.sayNode "text" rfl Graph.greeting_acyclic huncut).2.1 greeting_drawsOnOutputs
  exact ⟨greetingState_reached, rfl, Graph.greeting_acyclic, huncut, hpin, hlive.trans rfl⟩

/-- As long as an output goes into the value of an input without passing a skipped one, neither the
    input nor a node that has it is memoized for the run, and both are evaluated again whenever
    outputs are stored. Before anything was skipped this is so for all that draws on outputs. -/
theorem memo_spares_exposed {s : Setup} {st : RunState} (hst : s.Reached st) :
    (∀ key, s.graph.Exposed st key → st.pinMemo.get? key = none ∧
        ∀ id outputs, (st.setOutputs id outputs).memoizedPin? key = none) ∧
      (∀ source kind pin, s.graph.Computes source kind → pin ∈ source.dataInputs →
        ¬ s.graph.Skipped st (source.id, pin.id) → s.graph.Exposed st (source.id, pin.id) →
        st.pureMemo.get? source.id = none ∧
          ∀ id outputs, (st.setOutputs id outputs).memoizedPure? source.id = none) ∧
      ((∀ node handle, Warning.dataCycleSkipped node handle ∉ st.warnings) →
        ∀ key, s.graph.DrawsOnOutputs key → s.graph.Exposed st key) := by
  have hsane := hst.sane
  have hdated := hst.dated
  refine ⟨fun key hexposed => ⟨hdated.pinMemo_of_exposed hsane hexposed, fun id outputs => ?_⟩,
    fun source kind pin hcomputes hpin hopen hexposed => ?_, fun hnone key hdraws => ?_⟩
  · refine Option.eq_none_iff_forall_not_mem.2 fun r hr => ?_
    obtain ⟨hbefore, hrun⟩ := (RunState.memoizedPin?_setOutputs hsane.tagged id outputs key r).1 hr
    refine hdated.not_run_of_exposed hsane hexposed r.value ?_
    rw [hbefore, ← hrun]
  · have hnone := hdated.pureMemo_of_exposed hsane hcomputes hpin hopen hexposed
    refine ⟨hnone, fun id outputs => Option.eq_none_iff_forall_not_mem.2 fun r hr => ?_⟩
    obtain ⟨hbefore, hrun⟩ :=
      (RunState.memoizedPure?_setOutputs hsane.tagged id outputs source.id r).1 hr
    have hmemo : st.memoizedPure? source.id = some ⟨r.value, .run⟩ := by rw [hbefore, ← hrun]
    rw [(Memo.lookup_eq_run_iff r.value).1 hmemo] at hnone
    cases hnone
  · exact hdraws.exposed fun k _ hskipped => hnone k.1 k.2 hskipped.reported

def mixNode : Node := { Graph.joinNode with id := "mix" }

def markNode : Node := { Graph.joinNode with id := "mark", config := [("b", .string "!")] }

/-- Two texts that go into each other, one of them with a name that is asked for. -/
def murmur : Setup where
  graph := .ofParts
    [{ Node.bare "ask" "action-ask" with dataOutputs := [.required "name" .string] },
      mixNode, markNode, Graph.sayNode]
    [⟨none, "mark", "result", "mix", "a", .data⟩, ⟨none, "ask", "name", "mix", "b", .data⟩,
      ⟨none, "mix", "result", "mark", "a", .data⟩, ⟨none, "mark", "result", "say", "text", .data⟩]
  limits := ⟨4, .zero⟩
  dice _ := 0

/-- The name was given, and the cycle was entered at the text with the name. -/
def murmurLive : RunState :=
  murmur.takeAll (RunState.fresh [])
    [.store "ask" [("name", .string "Ann")], .read mixNode "a"]

/-- The cycle was entered at the other text, and then the name was given. -/
def murmurFrozen : RunState :=
  murmur.takeAll (RunState.fresh [])
    [.read Graph.sayNode "text", .store "ask" [("name", .string "Ann")]]

theorem murmurLive_reached : murmur.Reached murmurLive := by
  refine ⟨[], _, ?_, rfl⟩
  simp only [List.mem_cons, List.not_mem_nil, or_false]
  rintro step (rfl | rfl)
  · trivial
  · rfl

theorem murmurFrozen_reached : murmur.Reached murmurFrozen := by
  refine ⟨[], _, ?_, rfl⟩
  simp only [List.mem_cons, List.not_mem_nil, or_false]
  rintro step (rfl | rfl)
  · rfl
  · trivial

theorem murmur_feeds_mark : murmur.graph.Feeds ("mix", "b") ("mark", "a") :=
  ⟨mixNode, .function .stringJoin, rfl, .required "b" .string, by simp [mixNode, Graph.joinNode],
    rfl⟩

theorem murmur_feeds_say : murmur.graph.Feeds ("mark", "a") ("say", "text") :=
  ⟨markNode, .function .stringJoin, rfl, .required "a" .string, List.mem_cons_self, rfl⟩

theorem memo_spares_exposed_murmur :
    murmur.Reached murmurLive ∧
      murmurLive.warnings = [Warning.dataCycleSkipped "mix" "a"] ∧
      murmur.graph.Exposed murmurLive ("say", "text") ∧
      murmurLive.pinMemo.get? ("say", "text") = none ∧
      (murmur.readPin Graph.sayNode "text" murmurLive).1 = some (.string "Ann!") := by
  have hwarnings : murmurLive.warnings = [Warning.dataCycleSkipped "mix" "a"] := by rfl
  have hopen : ∀ key : PinKey, key ≠ ("mix", "a") → ¬ murmur.graph.Skipped murmurLive key := by
    intro key hkey hskipped
    have hreported := hskipped.reported
    rw [hwarnings, List.mem_singleton] at hreported
    injection hreported with hnode hhandle
    exact hkey (Prod.ext hnode hhandle)
  have hexposed : murmur.graph.Exposed murmurLive ("say", "text") := by
    refine ⟨("mix", "b"), "ask", "name", .tail (.single ⟨murmur_feeds_mark, ?_⟩)
      ⟨murmur_feeds_say, ?_⟩, rfl⟩
    · exact hopen _ (by decide)
    · exact hopen _ (by decide)
  exact ⟨murmurLive_reached, hwarnings, hexposed,
    ((memo_spares_exposed murmurLive_reached).1 _ hexposed).1, rfl⟩

/-- A text that draws on the name is memoized for the run, as is the node that computes it, and does
    not change when the name is given, though at the same outputs another order of readings gives the
    text with the name. -/
theorem memo_freezes_murmur :
    murmur.Reached murmurFrozen ∧ murmur.graph.DrawsOnOutputs ("say", "text") ∧
      murmurFrozen.pinMemo.get? ("say", "text") = some (some (.string "!")) ∧
      murmurFrozen.pureMemo.get? "mark" = some (some (.string "!")) ∧
      (murmur.readPin Graph.sayNode "text" murmurFrozen).1 = some (.string "!") ∧
      murmur.Reached murmurLive ∧ murmurLive.outputs.entries = murmurFrozen.outputs.entries ∧
      (murmur.readPin Graph.sayNode "text" murmurLive).1 = some (.string "Ann!") :=
  ⟨murmurFrozen_reached,
    ⟨("mix", "b"), "ask", "name", .tail (.single murmur_feeds_mark) murmur_feeds_say, rfl⟩,
    rfl, rfl, rfl, murmurLive_reached, rfl, rfl⟩

end Setup

end PinFlow
