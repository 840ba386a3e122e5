import PinFlow.Proofs.Reading.Reference

set_option autoImplicit false

/-!
# Memos that agree with the reference value

A reading for the run agrees with the reference value whatever the node outputs are, one for the
generation agrees with it at the present outputs, and one that was cut off promises nothing. Every
memo of a determined input agrees in this sense, and readings keep it so: a pin in progress depends
on the pin that is read next, so that an input without a cycle behind it is never skipped.
-/

namespace PinFlow

namespace Lifetime

/-- The value of something that may depend on the outputs is known for as long as it lasts. -/
def Lasts {β : Type} (l : Lifetime) (value : Outputs → β) (outputs : Outputs) (b : β) : Prop :=
  match l with
  | .run => ∀ o, value o = b
  | .generation => value outputs = b
  | .uncached => True

theorem Lasts.eq {β : Type} {l : Lifetime} {value : Outputs → β} {outputs : Outputs} {b : β}
    (h : l.Lasts value outputs b) (hl : l ≠ .uncached) : value outputs = b := by
  cases l with
  | uncached => exact absurd rfl hl
  | generation => exact h
  | run => exact h outputs

theorem Lasts.map {β γ : Type} {l : Lifetime} {value : Outputs → β} {outputs : Outputs} {b : β}
    (f : β → γ) (h : l.Lasts value outputs b) : l.Lasts (fun o => f (value o)) outputs (f b) := by
  cases l with
  | uncached => trivial
  | generation => exact congrArg f h
  | run => exact fun o => congrArg f (h o)

theorem Lasts.min {β γ δ : Type} {l k : Lifetime} {value : Outputs → β} {other : Outputs → γ}
    {outputs : Outputs} {b : β} {c : γ} (f : β → γ → δ) (h : l.Lasts value outputs b)
    (h' : k.Lasts other outputs c) :
    (l.min k).Lasts (fun o => f (value o) (other o)) outputs (f b c) := by
  cases l with
  | uncached => trivial
  | generation =>
    cases k with
    | uncached => trivial
    | generation => exact congrArg₂ f h h'
    | run => exact congrArg₂ f h (h' outputs)
  | run =>
    cases k with
    | uncached => trivial
    | generation => exact congrArg₂ f (h outputs) h'
    | run => exact fun o => congrArg₂ f (h o) (h' o)

end Lifetime

namespace Graph

variable {g : Graph}

/-- An input whose value is decided by the recursion: no cycle and no draw lies behind it. -/
structure Determined (g : Graph) (key : PinKey) : Prop where
  acyclic : g.Acyclic key
  drawless : g.Drawless key

theorem determined_of_unfed {key : PinKey} (h : ∀ source kind, g.origin key ≠ .computed source kind) :
    g.Determined key := by
  have hunfed : ∀ input, ¬ g.Feeds input key := by
    rintro input ⟨source, kind, horigin, -⟩
    exact h source kind horigin
  constructor
  · exact acyclic_of_inputs fun input hinput => absurd hinput (hunfed input)
  · exact drawless_of_inputs (fun source => h source _)
      fun input hinput => absurd hinput (hunfed input)

structure DeterminedNode (g : Graph) (source : Node) (kind : PureKind) : Prop where
  inputs : ∀ pin ∈ source.dataInputs, g.Determined (source.id, pin.id)
  drawless : kind ≠ .function .randomInt

theorem Determined.node {key : PinKey} {source : Node} {kind : PureKind} (h : g.Determined key)
    (horigin : g.origin key = .computed source kind) : g.DeterminedNode source kind where
  inputs pin hpin :=
    have hfeeds : g.Feeds (source.id, pin.id) key := ⟨source, kind, horigin, pin, hpin, rfl⟩
    ⟨h.acyclic.input hfeeds, h.drawless.input hfeeds⟩
  drawless hkind := h.drawless key .refl source (hkind ▸ horigin)

end Graph

theorem PureKind.evaluate_draw {kind : PureKind} (h : kind ≠ .function .randomInt)
    (inputs : Fields Value) (draw draw' : Nat) :
    kind.evaluate inputs draw = kind.evaluate inputs draw' := by
  cases kind with
  | constant kind => rfl
  | unknown name => rfl
  | function f =>
    cases f with
    | randomInt => exact absurd rfl h
    | _ => rfl

/-- The memos of determined inputs and nodes agree with the reference. -/
structure Faithful (g : Graph) (st : RunState) : Prop where
  pins : ∀ key r, st.memoizedPin? key = some r → g.Determined key →
    r.lifetime.Lasts (fun o => g.reference st.trigger o key) st.output? r.value
  results : ∀ source kind r, g.Computes source kind → st.memoizedPure? source.id = some r →
    g.DeterminedNode source kind →
    r.lifetime.Lasts (fun o => g.referenceResult st.trigger o source kind) st.output? r.value

namespace Faithful

variable {g : Graph} {st : RunState}

theorem memoizePin {key : PinKey} {r : Reading} (h : Faithful g st)
    (hnone : st.memoizedPin? key = none)
    (hr : g.Determined key →
      r.lifetime.Lasts (fun o => g.reference st.trigger o key) st.output? r.value) :
    Faithful g (st.memoizePin key r) := by
  have htrigger : (st.memoizePin key r).trigger = st.trigger := by rw [RunState.memoizePin_eq]
  have houtput : (st.memoizePin key r).output? = st.output? := by
    rw [RunState.memoizePin_eq]
    rfl
  constructor
  · intro other found hfound hdetermined
    rw [htrigger, houtput]
    by_cases hother : other = key
    · subst hother
      by_cases hl : r.lifetime = .uncached
      · rw [RunState.memoizePin_uncached hl, hnone] at hfound
        cases hfound
      · rw [RunState.memoizedPin?_memoizePin_self hnone hl] at hfound
        cases hfound
        exact hr hdetermined
    · rw [RunState.memoizedPin?_memoizePin_ne hother] at hfound
      exact h.pins other found hfound hdetermined
  · intro source kind found hcomputes hfound
    rw [RunState.memoizedPure?_memoizePin] at hfound
    rw [htrigger, houtput]
    exact h.results source kind found hcomputes hfound

theorem memoizePure {node : Node} {kind : PureKind} {r : Reading} (h : Faithful g st)
    (hnode : g.Computes node kind) (hnone : st.memoizedPure? node.id = none)
    (hr : g.DeterminedNode node kind →
      r.lifetime.Lasts (fun o => g.referenceResult st.trigger o node kind) st.output? r.value) :
    Faithful g (st.memoizePure node.id r) := by
  have htrigger : (st.memoizePure node.id r).trigger = st.trigger := by
    rw [RunState.memoizePure_eq]
  have houtput : (st.memoizePure node.id r).output? = st.output? := by
    rw [RunState.memoizePure_eq]
    rfl
  constructor
  · intro key found hfound
    rw [RunState.memoizedPin?_memoizePure] at hfound
    rw [htrigger, houtput]
    exact h.pins key found hfound
  · intro source other found hcomputes hfound hdetermined
    rw [htrigger, houtput]
    by_cases hid : source.id = node.id
    · obtain rfl : source = node := by
        have hpresent := hcomputes.present
        rw [hid, hnode.present] at hpresent
        exact (Option.some.inj hpresent).symm
      obtain rfl : other = kind := by
        have hkind := hcomputes.kind?
        rw [hnode.kind?] at hkind
        cases hkind
        rfl
      by_cases hl : r.lifetime = .uncached
      · rw [RunState.memoizePure_uncached hl, hnone] at hfound
        cases hfound
      · rw [RunState.memoizedPure?_memoizePure_self hnone hl] at hfound
        cases hfound
        exact hr hdetermined
    · rw [RunState.memoizedPure?_memoizePure_ne hid] at hfound
      exact h.results source other found hcomputes hfound hdetermined

theorem computing {node : Node} {kind : PureKind} (h : Faithful g st) :
    Faithful g (Setup.computing node kind st) := by
  unfold Setup.computing
  split
  · exact ⟨h.pins, h.results⟩
  · exact ⟨h.pins, h.results⟩
  · exact h

end Faithful

/-- Everything in progress depends on the given input. -/
def Awaited (g : Graph) (st : RunState) (key : PinKey) : Prop :=
  ∀ k ∈ st.resolving, Relation.TransGen g.Feeds key k

theorem Awaited.of_idle {g : Graph} {st : RunState} (h : st.resolving = []) (key : PinKey) :
    Awaited g st key := by
  intro k hk
  rw [h] at hk
  cases hk

theorem Awaited.input {g : Graph} {st : RunState} {key : PinKey} {source : Node} {kind : PureKind}
    {pin : Pin} (h : Awaited g st key) (horigin : g.origin key = .computed source kind)
    (hpin : pin ∈ source.dataInputs) : Awaited g (st.beginReading key) (source.id, pin.id) := by
  have hfeeds : g.Feeds (source.id, pin.id) key := ⟨source, kind, horigin, pin, hpin, rfl⟩
  intro k hk
  rcases List.mem_cons.1 hk with rfl | hk
  · exact .single hfeeds
  · exact .head hfeeds (h k hk)

structure FaithfulReading (g : Graph) (key : PinKey) (st : RunState)
    (result : Reading × RunState) : Prop where
  faithful : Faithful g result.2
  lasts : g.Determined key →
    result.1.lifetime.Lasts (fun o => g.reference st.trigger o key) st.output? result.1.value

def PinReader.Transparent (g : Graph) (read : PinReader) : Prop :=
  ∀ node handle st, g.node? node.id = some node → Awaited g st (node.id, handle) →
    Faithful g st → FaithfulReading g (node.id, handle) st (read node handle st)

section Layers

variable {g : Graph} {read : PinReader} {node : Node} {st : RunState}

theorem foldl_add_faithful (hsound : read.Sound g) (htransparent : read.Transparent g)
    (hnode : g.node? node.id = some node)
    (hawaited : ∀ pin ∈ node.dataInputs, Awaited g st (node.id, pin.id)) (pins : List Pin)
    (hpins : ∀ pin ∈ pins, pin ∈ node.dataInputs) (acc : Gathered)
    (before : Outputs → Fields Value) (hframe : ReadFrame st acc.state)
    (hfaithful : Faithful g acc.state)
    (hlasts : (∀ pin ∈ node.dataInputs, g.Determined (node.id, pin.id)) →
      acc.lifetime.Lasts before st.output? acc.inputs) :
    Faithful g (pins.foldl (Gathered.add read node) acc).state ∧
      ((∀ pin ∈ node.dataInputs, g.Determined (node.id, pin.id)) →
        (pins.foldl (Gathered.add read node) acc).lifetime.Lasts
          (fun o => (pins.map fun pin =>
            (pin.id, g.reference st.trigger o (node.id, pin.id))).foldl putInput (before o))
          st.output? (pins.foldl (Gathered.add read node) acc).inputs) := by
  -- What was gathered before the pins that are left is a parameter of the induction on them.
  induction pins generalizing acc before with
  | nil => exact ⟨hfaithful, hlasts⟩
  | cons pin rest ih =>
    have hpin := hpins pin List.mem_cons_self
    have hread := htransparent node pin.id acc.state hnode
      (fun k hk => hawaited pin hpin k (hframe.resolving ▸ hk)) hfaithful
    have hnext := hframe.trans (hsound node pin.id acc.state).advance.frame
    refine ih (fun p hp => hpins p (List.mem_cons_of_mem _ hp)) (acc.add read node pin)
      (fun o => putInput (before o) (pin.id, g.reference st.trigger o (node.id, pin.id)))
      hnext hread.faithful ?_
    intro hdetermined
    have hvalue := hread.lasts (hdetermined pin hpin)
    rw [hframe.trigger, hframe.output?] at hvalue
    exact (hlasts hdetermined).min (fun inputs v => putInput inputs (pin.id, v)) hvalue

theorem gather_faithful (hsound : read.Sound g) (htransparent : read.Transparent g)
    (hnode : g.node? node.id = some node)
    (hawaited : ∀ pin ∈ node.dataInputs, Awaited g st (node.id, pin.id)) (hst : Faithful g st) :
    Faithful g (gather read node st).state ∧
      ((∀ pin ∈ node.dataInputs, g.Determined (node.id, pin.id)) →
        (gather read node st).lifetime.Lasts (fun o => g.referenceInputs st.trigger o node)
          st.output? (gather read node st).inputs) :=
  foldl_add_faithful hsound htransparent hnode hawaited node.dataInputs (fun _ h => h)
    ⟨[], .run, st⟩ (fun _ => []) (.refl st) hst fun _ _ => rfl

end Layers

namespace Setup

variable {s : Setup} {read : PinReader}

theorem compute_faithful {node : Node} {kind : PureKind} {acc : Gathered}
    (hnode : s.graph.Computes node kind) (hnone : acc.state.memoizedPure? node.id = none)
    (hfaithful : Faithful s.graph acc.state)
    (hlasts : s.graph.DeterminedNode node kind →
      acc.lifetime.Lasts (fun o => s.graph.referenceInputs acc.state.trigger o node)
        acc.state.output? acc.inputs) :
    Faithful s.graph (s.compute node kind acc).2 ∧
      (s.graph.DeterminedNode node kind →
        (s.compute node kind acc).1.lifetime.Lasts
          (fun o => s.graph.referenceResult acc.state.trigger o node kind)
          acc.state.output? (s.compute node kind acc).1.value) := by
  have hvalue : s.graph.DeterminedNode node kind →
      (s.computed kind acc).lifetime.Lasts
        (fun o => s.graph.referenceResult acc.state.trigger o node kind)
        acc.state.output? (s.computed kind acc).value := by
    intro hdetermined
    have hdraw : (s.computed kind acc).value = kind.evaluate acc.inputs 0 :=
      PureKind.evaluate_draw hdetermined.drawless _ _ _
    rw [hdraw]
    exact (hlasts hdetermined).map fun inputs => kind.evaluate inputs 0
  have hframe := computing_frame node kind acc.state
  rw [compute_eq]
  refine ⟨?_, hvalue⟩
  refine hfaithful.computing.memoizePure hnode ?_ ?_
  · rw [computing_memoizedPure?]
    exact hnone
  · rw [hframe.trigger, hframe.output?]
    exact hvalue

theorem evaluatePure_faithful (hsound : read.Sound s.graph)
    (htransparent : read.Transparent s.graph) {node : Node} {kind : PureKind} {st : RunState}
    (hnode : s.graph.Computes node kind)
    (hawaited : ∀ pin ∈ node.dataInputs, Awaited s.graph st (node.id, pin.id))
    (hst : Faithful s.graph st) :
    Faithful s.graph (s.evaluatePure read node kind st).2 ∧
      (s.graph.DeterminedNode node kind →
        (s.evaluatePure read node kind st).1.lifetime.Lasts
          (fun o => s.graph.referenceResult st.trigger o node kind)
          st.output? (s.evaluatePure read node kind st).1.value) := by
  unfold evaluatePure
  split
  · rename_i r hfound
    exact ⟨hst, hst.results node kind r hnode hfound⟩
  · obtain ⟨hadvance, -⟩ := gather_contract hsound node st
    obtain ⟨hfaithful, hlasts⟩ := gather_faithful hsound htransparent hnode.present hawaited hst
    generalize gather read node st = acc at hadvance hfaithful hlasts
    have htrigger := hadvance.frame.trigger
    have houtput := hadvance.frame.output?
    dsimp only
    split
    · rename_i r hfound
      refine ⟨hfaithful, ?_⟩
      rw [← htrigger, ← houtput]
      exact hfaithful.results node kind r hnode hfound
    · rename_i hnone
      rw [← htrigger, ← houtput] at hlasts ⊢
      exact compute_faithful hnode hnone hfaithful fun h => hlasts h.inputs

theorem readFresh_faithful (hsound : read.Sound s.graph)
    (htransparent : read.Transparent s.graph) {node : Node} {handle : Handle} {st : RunState}
    (hnode : s.graph.node? node.id = some node) (hawaited : Awaited s.graph st (node.id, handle))
    (hst : Faithful s.graph st) :
    FaithfulReading s.graph (node.id, handle) st (s.readFresh read node handle st) := by
  have href := fun (hd : s.graph.Determined (node.id, handle)) (o : Outputs) =>
    s.graph.reference_eq st.trigger o hd.acyclic
  rw [readFresh_eq]
  cases horigin : s.graph.origin (node.id, handle) with
  | literal =>
    refine ⟨hst, fun hd o => ?_⟩
    simp only [href hd, horigin, hnode, Option.bind_some]
  | absent => exact ⟨hst, fun hd o => by simp only [href hd, horigin]⟩
  | unknown source =>
    exact ⟨⟨hst.pins, hst.results⟩, fun hd o => by simp only [href hd, horigin]⟩
  | constant source kind out => exact ⟨hst, fun hd o => by simp only [href hd, horigin]⟩
  | event out => exact ⟨hst, fun hd o => by simp only [href hd, horigin]⟩
  | output source out => exact ⟨hst, fun hd => by simp only [Lifetime.Lasts, href hd, horigin]⟩
  | computed source kind =>
    obtain ⟨hfaithful, hlasts⟩ := evaluatePure_faithful (s := s) hsound htransparent
      (s.graph.computes_of_origin horigin) (fun pin hpin => Awaited.input hawaited horigin hpin)
      ⟨hst.pins, hst.results⟩
    refine ⟨⟨hfaithful.pins, hfaithful.results⟩, fun hd => ?_⟩
    simp only [href hd, horigin]
    exact hlasts (hd.node horigin)

theorem not_resolving_of_awaited {g : Graph} {st : RunState} {key : PinKey}
    (hawaited : Awaited g st key) (hacyclic : g.Acyclic key) : key ∉ st.resolving :=
  fun hkey => hacyclic key .refl (hawaited key hkey)

theorem readPinWith_found_faithful {node : Node} {handle : Handle} {st : RunState}
    (hstop : st.memoizedPin? (node.id, handle) ≠ none ∨ (node.id, handle) ∈ st.resolving)
    (hawaited : Awaited s.graph st (node.id, handle)) (hst : Faithful s.graph st)
    (deeper : Option PinReader) (depth : Nat) :
    FaithfulReading s.graph (node.id, handle) st (s.readPinWith deeper depth node handle st) := by
  cases hfound : st.memoizedPin? (node.id, handle) with
  | some r =>
    rw [s.readPinWith_memoized deeper depth hfound]
    exact ⟨hst, hst.pins _ r hfound⟩
  | none =>
    have hreading := hstop.resolve_left (fun h => h hfound)
    rw [s.readPinWith_reading deeper depth hfound hreading]
    refine ⟨⟨hst.pins, hst.results⟩, fun hd => ?_⟩
    exact absurd hreading (not_resolving_of_awaited hawaited hd.acyclic)

theorem readPinWith_none_transparent (depth : Nat) :
    PinReader.Transparent s.graph (s.readPinWith none depth) := by
  intro node handle st _ hawaited hst
  by_cases hstop : st.memoizedPin? (node.id, handle) ≠ none ∨ (node.id, handle) ∈ st.resolving
  · exact readPinWith_found_faithful hstop hawaited hst none depth
  · rw [not_or, not_not] at hstop
    rw [s.readPinWith_cut depth hstop.1 hstop.2]
    exact ⟨⟨hst.pins, hst.results⟩, fun _ => trivial⟩

theorem readPinWith_some_transparent (hsound : read.Sound s.graph)
    (htransparent : read.Transparent s.graph) (depth : Nat) :
    PinReader.Transparent s.graph (s.readPinWith (some read) depth) := by
  intro node handle st hnode hawaited hst
  by_cases hstop : st.memoizedPin? (node.id, handle) ≠ none ∨ (node.id, handle) ∈ st.resolving
  · exact readPinWith_found_faithful hstop hawaited hst (some read) depth
  · rw [not_or, not_not] at hstop
    rw [s.readPinWith_fresh read depth hstop.1 hstop.2]
    obtain ⟨hadvance, -, hmemo, -⟩ := readFresh_contract hsound node handle st
    obtain ⟨hfaithful, hlasts⟩ := readFresh_faithful hsound htransparent hnode hawaited hst
    generalize s.readFresh read node handle st = fresh at hadvance hmemo hfaithful hlasts
    refine ⟨hfaithful.memoizePin (hmemo.trans hstop.1) ?_, hlasts⟩
    rw [hadvance.frame.trigger, hadvance.frame.output?]
    exact hlasts

theorem readPinFrom_transparent (room depth : Nat) :
    PinReader.Transparent s.graph (s.readPinFrom room depth) := by
  induction room generalizing depth with
  | zero => exact readPinWith_none_transparent depth
  | succ room ih =>
    have hsound := readPinFrom_contract (s := s) room (depth + 1)
    exact readPinWith_some_transparent hsound (ih (depth + 1)) depth

end Setup

end PinFlow
