import PinFlow.Proofs.Reading.Faithful

set_option autoImplicit false

/-!
# How long readings last

An input draws on outputs if an output of an action or a flow node goes into its value. What is
memoized for a generation draws on outputs, on every graph. What is memoized for the run does not,
except through inputs that were skipped because they were met again while they were being read: the
value of such an input is taken to be missing for good. `Dated` says both of the memos of a state,
and readings keep it.
-/

namespace PinFlow

namespace Graph

variable (g : Graph)

/-- An output of an action or a flow node goes into the value of the input. -/
def DrawsOnOutputs (key : PinKey) : Prop :=
  ∃ k source out, Relation.ReflTransGen g.Feeds k key ∧ g.origin k = .output source out

/-- The input goes into its own value, and this has been reported. -/
structure Skipped (st : RunState) (key : PinKey) : Prop where
  circular : Relation.TransGen g.Feeds key key
  reported : Warning.dataCycleSkipped key.1 key.2 ∈ st.warnings

def Lasting (st : RunState) (key : PinKey) : Prop :=
  (∃ v, st.memoizedPin? key = some ⟨v, .run⟩) ∨ g.Skipped st key

variable {g}

theorem DrawsOnOutputs.of_input {input key : PinKey} (h : g.DrawsOnOutputs input)
    (hfeeds : g.Feeds input key) : g.DrawsOnOutputs key := by
  obtain ⟨k, source, out, hpath, horigin⟩ := h
  exact ⟨k, source, out, hpath.tail hfeeds, horigin⟩

theorem Skipped.mono {st st' : RunState} {key : PinKey} (h : g.Skipped st key)
    (hwarnings : st.warnings ⊆ st'.warnings) : g.Skipped st' key :=
  ⟨h.circular, hwarnings h.reported⟩

theorem Lasting.mono {st st' : RunState} {key : PinKey} (h : g.Lasting st key)
    (hpins : ∀ r, st.memoizedPin? key = some r → st'.memoizedPin? key = some r)
    (hwarnings : st.warnings ⊆ st'.warnings) : g.Lasting st' key :=
  h.imp (fun ⟨v, hv⟩ => ⟨v, hpins _ hv⟩) fun hskipped => hskipped.mono hwarnings

theorem Lasting.frame {st st' : RunState} {key : PinKey} (h : g.Lasting st key)
    (hframe : ReadFrame st st') : g.Lasting st' key :=
  h.mono (hframe.pins key) hframe.warnings.subset

end Graph

/-- The memos of a state have the lifetimes that the graph gives them, up to skipped inputs. -/
structure Dated (g : Graph) (st : RunState) : Prop where
  livePins : ∀ key r, st.memoizedPin? key = some r → r.lifetime = .generation →
    g.DrawsOnOutputs key
  liveResults : ∀ source kind r, g.Computes source kind → st.memoizedPure? source.id = some r →
    r.lifetime = .generation → ∃ pin ∈ source.dataInputs, g.DrawsOnOutputs (source.id, pin.id)
  runResults : ∀ source kind r, g.Computes source kind → st.memoizedPure? source.id = some r →
    r.lifetime = .run → ∀ pin ∈ source.dataInputs, g.Lasting st (source.id, pin.id)

namespace Dated

variable {g : Graph} {st st' : RunState}

theorem of_lookups (h : Dated g st) (hpins : st'.memoizedPin? = st.memoizedPin?)
    (hresults : st'.memoizedPure? = st.memoizedPure?) (hwarnings : st.warnings ⊆ st'.warnings) :
    Dated g st' where
  livePins key r hr := h.livePins key r (hpins ▸ hr)
  liveResults source kind r hcomputes hr := h.liveResults source kind r hcomputes (hresults ▸ hr)
  runResults source kind r hcomputes hr hrun pin hpin :=
    (h.runResults source kind r hcomputes (hresults ▸ hr) hrun pin hpin).mono
      (fun _ hr => hpins ▸ hr) hwarnings

theorem warn (h : Dated g st) (w : Warning) : Dated g (st.warn w) :=
  h.of_lookups rfl rfl (List.subset_append_left _ _)

theorem computing (h : Dated g st) (node : Node) (kind : PureKind) :
    Dated g (Setup.computing node kind st) :=
  h.of_lookups (funext fun key => Setup.computing_memoizedPin? node kind st key)
    (funext fun id => Setup.computing_memoizedPure? node kind st id)
    (Setup.computing_frame node kind st).warnings.subset

theorem memoizePin {key : PinKey} {r : Reading} (h : Dated g st)
    (hnone : st.memoizedPin? key = none) (hkey : key ∉ st.resolving)
    (hlive : r.lifetime = .generation → g.DrawsOnOutputs key) :
    Dated g (st.memoizePin key r) where
  livePins other found hfound hgeneration := by
    by_cases hother : other = key
    · subst hother
      by_cases hl : r.lifetime = .uncached
      · rw [RunState.memoizePin_uncached hl, hnone] at hfound
        cases hfound
      · rw [RunState.memoizedPin?_memoizePin_self hnone hl] at hfound
        cases hfound
        exact hlive hgeneration
    · rw [RunState.memoizedPin?_memoizePin_ne hother] at hfound
      exact h.livePins other found hfound hgeneration
  liveResults source kind found hcomputes hfound := by
    rw [RunState.memoizedPure?_memoizePin] at hfound
    exact h.liveResults source kind found hcomputes hfound
  runResults source kind found hcomputes hfound hrun pin hpin := by
    rw [RunState.memoizedPure?_memoizePin] at hfound
    exact (h.runResults source kind found hcomputes hfound hrun pin hpin).frame
      (.memoizePin hnone hkey)

theorem memoizePure {node : Node} {kind : PureKind} {r : Reading} (h : Dated g st)
    (hnode : g.Computes node kind) (hnone : st.memoizedPure? node.id = none)
    (hlive : r.lifetime = .generation →
      ∃ pin ∈ node.dataInputs, g.DrawsOnOutputs (node.id, pin.id))
    (hrun : r.lifetime = .run → ∀ pin ∈ node.dataInputs, g.Lasting st (node.id, pin.id)) :
    Dated g (st.memoizePure node.id r) := by
  have hframe : ReadFrame st (st.memoizePure node.id r) := .memoizePure hnone
  -- A result that is found afterwards is the one that was stored, or was there before.
  have hfound : ∀ source kind found, g.Computes source kind →
      (st.memoizePure node.id r).memoizedPure? source.id = some found →
      (source = node ∧ found = r) ∨ st.memoizedPure? source.id = some found := by
    intro source kind found hcomputes hfound
    by_cases hid : source.id = node.id
    · have hpresent := hcomputes.present
      rw [hid, hnode.present] at hpresent
      rw [hid] at hfound
      by_cases hl : r.lifetime = .uncached
      · rw [RunState.memoizePure_uncached hl, hnone] at hfound
        cases hfound
      · rw [RunState.memoizedPure?_memoizePure_self hnone hl] at hfound
        exact .inl ⟨(Option.some.inj hpresent).symm, (Option.some.inj hfound).symm⟩
    · rw [RunState.memoizedPure?_memoizePure_ne hid] at hfound
      exact .inr hfound
  constructor
  · intro key found hpin
    rw [RunState.memoizedPin?_memoizePure] at hpin
    exact h.livePins key found hpin
  · intro source kind found hcomputes hmemo
    rcases hfound source kind found hcomputes hmemo with ⟨rfl, rfl⟩ | hbefore
    · exact hlive
    · exact h.liveResults source kind found hcomputes hbefore
  · intro source kind found hcomputes hmemo hl pin hpin
    rcases hfound source kind found hcomputes hmemo with ⟨rfl, rfl⟩ | hbefore
    · exact (hrun hl pin hpin).frame hframe
    · exact (h.runResults source kind found hcomputes hbefore hl pin hpin).frame hframe

end Dated

namespace Lifetime

theorem min_eq_generation {a b : Lifetime} (h : a.min b = .generation) :
    a = .generation ∨ b = .generation := by
  cases a <;> cases b <;> simp_all [Lifetime.min]

theorem min_eq_run {a b : Lifetime} (h : a.min b = .run) : a = .run ∧ b = .run := by
  cases a <;> cases b <;> simp_all [Lifetime.min]

end Lifetime

structure DatedReading (g : Graph) (key : PinKey) (result : Reading × RunState) : Prop where
  dated : Dated g result.2
  live : result.1.lifetime = .generation → g.DrawsOnOutputs key
  run : result.1.lifetime = .run → g.Lasting result.2 key

def PinReader.Dating (g : Graph) (read : PinReader) : Prop :=
  ∀ node handle st, Awaited g st (node.id, handle) → Dated g st →
    DatedReading g (node.id, handle) (read node handle st)

section Layers

variable {g : Graph} {read : PinReader} {node : Node} {st : RunState}

theorem foldl_add_dated (hsound : read.Sound g) (hdating : read.Dating g)
    (hawaited : ∀ pin ∈ node.dataInputs, Awaited g st (node.id, pin.id)) (pins : List Pin)
    (hpins : ∀ pin ∈ pins, pin ∈ node.dataInputs) (acc : Gathered)
    (hframe : ReadFrame st acc.state) (hdated : Dated g acc.state)
    (hlive : acc.lifetime = .generation →
      ∃ pin ∈ node.dataInputs, g.DrawsOnOutputs (node.id, pin.id)) :
    Dated g (pins.foldl (Gathered.add read node) acc).state ∧
      ((pins.foldl (Gathered.add read node) acc).lifetime = .generation →
        ∃ pin ∈ node.dataInputs, g.DrawsOnOutputs (node.id, pin.id)) ∧
      ((pins.foldl (Gathered.add read node) acc).lifetime = .run → acc.lifetime = .run ∧
        ∀ pin ∈ pins, g.Lasting (pins.foldl (Gathered.add read node) acc).state
          (node.id, pin.id)) := by
  induction pins generalizing acc with
  | nil => exact ⟨hdated, hlive, fun hrun => ⟨hrun, List.forall_mem_nil _⟩⟩
  | cons pin rest ih =>
    have hpin := hpins pin List.mem_cons_self
    have hread := hdating node pin.id acc.state
      (fun k hk => hawaited pin hpin k (hframe.resolving ▸ hk)) hdated
    have hstep : ReadFrame acc.state (acc.add read node pin).state :=
      (hsound node pin.id acc.state).advance.frame
    have hnext : (acc.add read node pin).lifetime = .generation →
        ∃ pin ∈ node.dataInputs, g.DrawsOnOutputs (node.id, pin.id) := by
      intro hgeneration
      rcases Lifetime.min_eq_generation hgeneration with h | h
      · exact hlive h
      · exact ⟨pin, hpin, hread.live h⟩
    have hrest := foldl_add_frame hsound node rest (acc.add read node pin)
    obtain ⟨hdated', hlive', hrun'⟩ := ih (fun p hp => hpins p (List.mem_cons_of_mem _ hp))
      (acc.add read node pin) (hframe.trans hstep) hread.dated hnext
    refine ⟨hdated', hlive', fun hrun => ?_⟩
    obtain ⟨hadded, hlasting⟩ := hrun' hrun
    obtain ⟨hacc, hvalue⟩ := Lifetime.min_eq_run hadded
    -- The input that was read first lasts through the readings of the others.
    exact ⟨hacc, List.forall_mem_cons.2 ⟨(hread.run hvalue).frame hrest, hlasting⟩⟩

theorem gather_dated (hsound : read.Sound g) (hdating : read.Dating g)
    (hawaited : ∀ pin ∈ node.dataInputs, Awaited g st (node.id, pin.id)) (hst : Dated g st) :
    Dated g (gather read node st).state ∧
      ((gather read node st).lifetime = .generation →
        ∃ pin ∈ node.dataInputs, g.DrawsOnOutputs (node.id, pin.id)) ∧
      ((gather read node st).lifetime = .run →
        ∀ pin ∈ node.dataInputs, g.Lasting (gather read node st).state (node.id, pin.id)) := by
  obtain ⟨hdated, hlive, hrun⟩ := foldl_add_dated hsound hdating hawaited node.dataInputs
    (fun _ h => h) ⟨[], .run, st⟩ (.refl st) hst fun h => nomatch h
  exact ⟨hdated, hlive, fun h => (hrun h).2⟩

end Layers

namespace Setup

variable {s : Setup} {read : PinReader}

theorem evaluatePure_dated (hsound : read.Sound s.graph) (hdating : read.Dating s.graph)
    {node : Node} {kind : PureKind} {st : RunState} (hnode : s.graph.Computes node kind)
    (hawaited : ∀ pin ∈ node.dataInputs, Awaited s.graph st (node.id, pin.id))
    (hst : Dated s.graph st) :
    Dated s.graph (s.evaluatePure read node kind st).2 ∧
      ((s.evaluatePure read node kind st).1.lifetime = .generation →
        ∃ pin ∈ node.dataInputs, s.graph.DrawsOnOutputs (node.id, pin.id)) := by
  unfold evaluatePure
  split
  · rename_i r hfound
    exact ⟨hst, hst.liveResults node kind r hnode hfound⟩
  · obtain ⟨hdated, hlive, hrun⟩ := gather_dated hsound hdating hawaited hst
    generalize gather read node st = acc at hdated hlive hrun
    dsimp only
    split
    · rename_i r hfound
      exact ⟨hdated, hdated.liveResults node kind r hnode hfound⟩
    · rename_i hnone
      have hframe := computing_frame node kind acc.state
      rw [compute_eq]
      refine ⟨(hdated.computing node kind).memoizePure hnode ?_ hlive fun h pin hpin => ?_, hlive⟩
      · rw [computing_memoizedPure?]
        exact hnone
      · exact (hrun h pin hpin).frame hframe

theorem readFresh_dated (hsound : read.Sound s.graph) (hdating : read.Dating s.graph) {node : Node}
    {handle : Handle} {st : RunState} (hawaited : Awaited s.graph st (node.id, handle))
    (hst : Dated s.graph st) :
    Dated s.graph (s.readFresh read node handle st).2 ∧
      ((s.readFresh read node handle st).1.lifetime = .generation →
        s.graph.DrawsOnOutputs (node.id, handle)) := by
  rw [readFresh_eq]
  cases horigin : s.graph.origin (node.id, handle) with
  | literal => exact ⟨hst, fun h => nomatch h⟩
  | absent => exact ⟨hst, fun h => nomatch h⟩
  | unknown source => exact ⟨hst.warn _, fun h => nomatch h⟩
  | constant source kind out => exact ⟨hst, fun h => nomatch h⟩
  | event out => exact ⟨hst, fun h => nomatch h⟩
  | output source out => exact ⟨hst, fun _ => ⟨_, source, out, .refl, horigin⟩⟩
  | computed source kind =>
    have hbegun : Dated s.graph (st.beginReading (node.id, handle)) :=
      hst.of_lookups rfl rfl (List.Subset.refl _)
    obtain ⟨hdated, hlive⟩ := evaluatePure_dated (s := s) hsound hdating
      (s.graph.computes_of_origin horigin) (fun pin hpin => hawaited.input horigin hpin) hbegun
    refine ⟨hdated.of_lookups rfl rfl (List.Subset.refl _), fun h => ?_⟩
    obtain ⟨pin, hpin, hdraws⟩ := hlive h
    exact hdraws.of_input ⟨source, kind, horigin, pin, hpin, rfl⟩

theorem readPinFrom_dating (room depth : Nat) :
    PinReader.Dating s.graph (s.readPinFrom room depth) := by
  refine readPinFrom_rule (motive := fun key st result => Awaited s.graph st key →
    Dated s.graph st → DatedReading s.graph key result) ?_ ?_ ?_ ?_ room depth
  · rintro key st ⟨value, lifetime⟩ hfound _ hst
    refine ⟨hst, hst.livePins key _ hfound, ?_⟩
    rintro rfl
    exact .inl ⟨value, hfound⟩
  · intro key st hkey hawaited hst
    have hskipped : s.graph.Skipped (st.warn (.dataCycleSkipped key.1 key.2)) key :=
      ⟨hawaited key hkey, List.mem_append_right _ (List.mem_singleton_self _)⟩
    exact ⟨hst.warn _, (fun h => nomatch h), fun _ => .inr hskipped⟩
  · exact fun key st depth _ hst => ⟨hst.warn _, (fun h => nomatch h), fun h => nomatch h⟩
  · intro read hsound hread node handle st hnone hkey hawaited hst
    obtain ⟨hadvance, -, hmemo, -⟩ := readFresh_contract hsound node handle st
    obtain ⟨hdated, hlive⟩ := readFresh_dated hsound hread hawaited hst
    generalize s.readFresh read node handle st = fresh at hadvance hmemo hdated hlive
    rw [hnone] at hmemo
    rw [← hadvance.frame.resolving] at hkey
    refine ⟨hdated.memoizePin hmemo hkey hlive, hlive, fun hrun => .inl ⟨fresh.1.value, ?_⟩⟩
    have hself := RunState.memoizedPin?_memoizePin_self (r := fresh.1) hmemo (by rw [hrun]; simp)
    dsimp only at hrun ⊢
    rw [hself, ← hrun]

end Setup

end PinFlow
