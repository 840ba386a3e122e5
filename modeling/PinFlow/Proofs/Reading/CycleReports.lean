import PinFlow.Proofs.Reading.Depth
import PinFlow.Proofs.Reading.Report

set_option autoImplicit false

/-!
# How often cycles are reported

An input that goes into its own value is met again while it is being read, and is reported each time
this happens. If its node has no second such input, it is met again only while the node comes by its
result, so that one reading reports it at most once: `readPin_reports_cycles`. A node with two such
inputs is evaluated once more behind each of them, and `hub` shows that an input may then be
reported twice.
-/

namespace PinFlow

def Warning.isDataCycle : Warning → Bool
  | .dataCycleSkipped _ _ => true
  | _ => false

namespace Graph

variable {g : Graph} {key : PinKey} {owner : Node}

/-- At most one input of the node, declared once, goes into its own value. -/
def LoneCircular (g : Graph) (id : NodeId) : Prop :=
  ∀ owner, g.node? id = some owner → owner.dataInputs.Pairwise fun p q =>
    ¬ (Relation.TransGen g.Feeds (owner.id, p.id) (owner.id, p.id) ∧
      Relation.TransGen g.Feeds (owner.id, q.id) (owner.id, q.id))

theorem Feeds.sibling {input : PinKey} {pin : Pin} (h : g.Feeds input key)
    (howner : g.node? input.1 = some owner) (hpin : pin ∈ owner.dataInputs) :
    g.Feeds (owner.id, pin.id) key := by
  obtain ⟨source, kind, horigin, _, -, rfl⟩ := h
  rw [(g.computes_of_origin horigin).present] at howner
  obtain rfl := Option.some.inj howner
  exact ⟨_, kind, horigin, pin, hpin, rfl⟩

theorem circular_of_sibling {pin : Pin} (hkey : Relation.TransGen g.Feeds key key)
    (howner : g.node? key.1 = some owner) (hpin : pin ∈ owner.dataInputs)
    (h : Relation.ReflTransGen g.Feeds key (owner.id, pin.id)) :
    Relation.TransGen g.Feeds (owner.id, pin.id) (owner.id, pin.id) := by
  obtain ⟨next, hfeeds, hback⟩ := Relation.TransGen.head'_iff.1 hkey
  exact .head' (hfeeds.sibling howner hpin) (hback.trans h)

theorem LoneCircular.pairwise (h : g.LoneCircular key.1) (hkey : Relation.TransGen g.Feeds key key)
    (howner : g.node? key.1 = some owner) :
    owner.dataInputs.Pairwise fun p q =>
      ¬ (Relation.ReflTransGen g.Feeds key (owner.id, p.id) ∧
        Relation.ReflTransGen g.Feeds key (owner.id, q.id)) := by
  refine (h owner howner).imp_of_mem fun {p q} hp hq hlone hboth => hlone ⟨?_, ?_⟩
  · exact circular_of_sibling hkey howner hp hboth.1
  · exact circular_of_sibling hkey howner hq hboth.2

end Graph

namespace RunState

variable {st : RunState} {key : PinKey}

def skips (key : PinKey) (st : RunState) : Nat :=
  st.warnings.count (.dataCycleSkipped key.1 key.2)

theorem skips_warn_self :
    (st.warn (.dataCycleSkipped key.1 key.2)).skips key = st.skips key + 1 := by
  simp [skips, warn, List.count_append]

theorem skips_warn_of_ne {w : Warning} (h : w ≠ .dataCycleSkipped key.1 key.2) :
    (st.warn w).skips key = st.skips key := by
  simp [skips, warn, List.count_append, h]

end RunState

/-- How often the reading of an input reports the given one, if nothing is cut off: at most once.
    Unless the given one in progress is read itself, this happens only while its node comes by a
    result. -/
structure SkipContract (g : Graph) (key input : PinKey) (st st' : RunState) : Prop where
  once : (input = key → key ∉ st.resolving) → CountsOnce (RunState.skips key) key.1 st st'
  bound : st'.skips key ≤ st.skips key + 1
  apart : ¬ Relation.ReflTransGen g.Feeds key input → st'.skips key = st.skips key

namespace CountsOnce

variable {c : RunState → Nat} {node : NodeId} {st st' : RunState}

theorem le (h : CountsOnce c node st st') : c st' ≤ c st + 1 := by
  rcases h with heq | ⟨-, -, heq⟩
  · omega
  · omega

theorem of_le (hnone : st.memoizedPure? node = none) (hsome : st'.memoizedPure? node ≠ none)
    (hge : c st ≤ c st') (hle : c st' ≤ c st + 1) : CountsOnce c node st st' := by
  rcases Nat.lt_or_ge (c st) (c st') with hlt | hge'
  · exact .inr ⟨hnone, hsome, by omega⟩
  · exact .inl (by omega)

end CountsOnce

def PinReader.Skips (g : Graph) (key : PinKey) (read : PinReader) : Prop :=
  ∀ node handle st, (read node handle st).2.cuts = st.cuts →
    SkipContract g key (node.id, handle) st (read node handle st).2

section Layers

variable {g : Graph} {read : PinReader} {key : PinKey}

theorem foldl_add_unreported {isOf : Warning → Bool} (hsound : read.Sound g) (node : Node)
    {pin : Pin} {rest : List Pin} {acc : Gathered}
    (h : ((pin :: rest).foldl (Gathered.add read node) acc).state.warnings.countP isOf =
      acc.state.warnings.countP isOf) :
    (read node pin.id acc.state).2.warnings.countP isOf = acc.state.warnings.countP isOf ∧
      (rest.foldl (Gathered.add read node) (acc.add read node pin)).state.warnings.countP isOf =
        (acc.add read node pin).state.warnings.countP isOf := by
  have hle := (hsound node pin.id acc.state).advance.frame.warnings.sublist.countP_le (p := isOf)
  have hle' := (foldl_add_frame hsound node rest
    (acc.add read node pin)).warnings.sublist.countP_le (p := isOf)
  have hadd : (acc.add read node pin).state = (read node pin.id acc.state).2 := rfl
  rw [List.foldl_cons] at h
  rw [hadd] at hle' ⊢
  omega

theorem foldl_add_relates {R : RunState → RunState → Prop} (hsound : read.Sound g)
    (hrefl : ∀ st, R st st)
    (htrans : ∀ st st' st'', ReadFrame st st' → ReadFrame st' st'' → R st st' → R st' st'' →
      R st st'')
    (node : Node) (pins : List Pin)
    (hread : ∀ pin ∈ pins, ∀ st, (read node pin.id st).2.cuts = st.cuts →
      R st (read node pin.id st).2)
    (acc : Gathered)
    (huncut : (pins.foldl (Gathered.add read node) acc).state.cuts = acc.state.cuts) :
    R acc.state (pins.foldl (Gathered.add read node) acc).state := by
  induction pins generalizing acc with
  | nil => exact hrefl _
  | cons pin rest ih =>
    obtain ⟨hfirst, hrest⟩ := foldl_add_unreported hsound node huncut
    refine htrans _ _ _ (hsound node pin.id acc.state).advance.frame
      (foldl_add_frame hsound node rest (acc.add read node pin))
      (hread pin List.mem_cons_self acc.state hfirst) ?_
    exact ih (fun other hother => hread other (List.mem_cons_of_mem _ hother)) _ hrest

theorem foldl_add_skips_apart (hsound : read.Sound g) (hskips : read.Skips g key) (node : Node)
    (pins : List Pin)
    (hapart : ∀ pin ∈ pins, ¬ Relation.ReflTransGen g.Feeds key (node.id, pin.id)) (acc : Gathered)
    (huncut : (pins.foldl (Gathered.add read node) acc).state.cuts = acc.state.cuts) :
    (pins.foldl (Gathered.add read node) acc).state.skips key = acc.state.skips key :=
  foldl_add_relates (R := fun st st' => st'.skips key = st.skips key) hsound (fun _ => rfl)
    (fun _ _ _ _ _ h h' => h'.trans h) node pins
    (fun pin hpin st h => (hskips node pin.id st h).apart (hapart pin hpin)) acc huncut

theorem foldl_add_skips_le (hsound : read.Sound g) (hskips : read.Skips g key) (node : Node)
    (pins : List Pin)
    (hpairwise : pins.Pairwise fun p q =>
      ¬ (Relation.ReflTransGen g.Feeds key (node.id, p.id) ∧
        Relation.ReflTransGen g.Feeds key (node.id, q.id)))
    (acc : Gathered)
    (huncut : (pins.foldl (Gathered.add read node) acc).state.cuts = acc.state.cuts) :
    (pins.foldl (Gathered.add read node) acc).state.skips key ≤ acc.state.skips key + 1 := by
  induction pins generalizing acc with
  | nil => exact Nat.le_succ _
  | cons pin rest ih =>
    obtain ⟨hothers, hpairwise⟩ := List.pairwise_cons.1 hpairwise
    obtain ⟨hfirst, hrest⟩ := foldl_add_unreported hsound node huncut
    have hread : SkipContract g key (node.id, pin.id) acc.state (acc.add read node pin).state :=
      hskips node pin.id acc.state hfirst
    rw [List.foldl_cons]
    by_cases hpin : Relation.ReflTransGen g.Feeds key (node.id, pin.id)
    · have hapart := foldl_add_skips_apart hsound hskips node rest
        (fun other hother h => hothers other hother ⟨hpin, h⟩) _ hrest
      rw [hapart]
      exact hread.bound
    · rw [← hread.apart hpin]
      exact ih hpairwise _ hrest

end Layers

namespace Setup

variable {s : Setup} {read : PinReader} {key : PinKey}

theorem compute_skips (node : Node) (kind : PureKind) (acc : Gathered) :
    (s.compute node kind acc).2.skips key = acc.state.skips key := by
  rw [compute_eq]
  dsimp only
  rw [RunState.memoizePure_eq]
  change (computing node kind acc.state).skips key = acc.state.skips key
  unfold computing
  split
  · exact RunState.skips_warn_of_ne (fun h => nomatch h)
  · rfl
  · rfl

theorem evaluatePure_gathered {node : Node} {st : RunState}
    (hnone : st.memoizedPure? node.id = none) (kind : PureKind) :
    ReadFrame (gather read node st).state (s.evaluatePure read node kind st).2 ∧
      (s.evaluatePure read node kind st).2.cuts = (gather read node st).state.cuts ∧
      ∀ key, (s.evaluatePure read node kind st).2.skips key =
        (gather read node st).state.skips key := by
  unfold evaluatePure
  rw [hnone]
  dsimp only
  split
  · exact ⟨.refl _, rfl, fun _ => rfl⟩
  · rename_i hnone'
    exact ⟨compute_frame hnone', compute_cuts node kind _, fun _ => compute_skips node kind _⟩

theorem evaluatePure_skips (hsound : read.Sound s.graph) (hskips : read.Skips s.graph key)
    (hlone : s.graph.LoneCircular key.1) (hkey : Relation.TransGen s.graph.Feeds key key)
    {node : Node} {kind : PureKind} {st : RunState} (hnode : s.graph.Computes node kind)
    (huncut : (s.evaluatePure read node kind st).2.cuts = st.cuts) :
    CountsOnce (RunState.skips key) key.1 st (s.evaluatePure read node kind st).2 ∧
      ((∀ pin ∈ node.dataInputs, ¬ Relation.ReflTransGen s.graph.Feeds key (node.id, pin.id)) →
        (s.evaluatePure read node kind st).2.skips key = st.skips key) := by
  have hcontract := evaluatePure_contract (s := s) hsound node kind st
  cases hnone : st.memoizedPure? node.id with
  | some r =>
    have hsame : (s.evaluatePure read node kind st).2 = st := by
      simp only [evaluatePure, hnone]
    rw [hsame]
    exact ⟨.inl rfl, fun _ => rfl⟩
  | none =>
    obtain ⟨hframe, hcuts, hreported⟩ := @evaluatePure_gathered s read node st hnone kind
    have hsame := hreported key
    have hgathered : (gather read node st).state.cuts = st.cuts := hcuts.symm.trans huncut
    refine ⟨?_, fun hapart => hsame.trans ?_⟩
    · by_cases hid : node.id = key.1
      -- The node comes by its result here, and at most one of its inputs leads back to the pin.
      · have hpairwise := hlone.pairwise hkey (hid ▸ hnode.present)
        have hle : (gather read node st).state.skips key ≤ st.skips key + 1 :=
          foldl_add_skips_le hsound hskips node node.dataInputs hpairwise ⟨[], .run, st⟩ hgathered
        have hge : st.skips key ≤ (s.evaluatePure read node kind st).2.skips key :=
          hcontract.advance.frame.warnings.sublist.count_le _
        have hlife : (s.evaluatePure read node kind st).1.lifetime ≠ .uncached := by
          intro h
          have hlt := hcontract.cut h
          omega
        have hresult := hcontract.memo hlife
        rw [hid] at hnone hresult
        refine .of_le hnone ?_ hge (hsame.trans_le hle)
        rw [hresult]
        simp
      · have hgather : CountsOnce (RunState.skips key) key.1 st (gather read node st).state := by
          refine foldl_add_relates (R := CountsOnce (RunState.skips key) key.1) hsound
            (fun _ => .inl rfl) (fun _ _ _ h h' hr hr' => hr.trans (h.results _) (h'.results _) hr')
            node node.dataInputs (fun pin _ st h => ?_) ⟨[], .run, st⟩ hgathered
          exact (hskips node pin.id st h).once fun heq => absurd (congrArg Prod.fst heq) hid
        exact hgather.trans ((gather_contract hsound node st).1.frame.results _)
          (hframe.results _) (.inl hsame)
    · exact foldl_add_skips_apart hsound hskips node node.dataInputs hapart ⟨[], .run, st⟩ hgathered

theorem readFresh_skips (hsound : read.Sound s.graph) (hskips : read.Skips s.graph key)
    (hlone : s.graph.LoneCircular key.1) (hkey : Relation.TransGen s.graph.Feeds key key)
    {node : Node} {handle : Handle} {st : RunState}
    (huncut : (s.readFresh read node handle st).2.cuts = st.cuts) :
    CountsOnce (RunState.skips key) key.1 st (s.readFresh read node handle st).2 ∧
      (¬ Relation.ReflTransGen s.graph.Feeds key (node.id, handle) →
        (s.readFresh read node handle st).2.skips key = st.skips key) := by
  rw [readFresh_eq] at huncut ⊢
  cases horigin : s.graph.origin (node.id, handle) with
  | literal => exact ⟨.inl rfl, fun _ => rfl⟩
  | absent => exact ⟨.inl rfl, fun _ => rfl⟩
  | unknown source =>
    have hsame : (st.warn (.unknownDefinition source.id source.definition)).skips key =
        st.skips key := RunState.skips_warn_of_ne (fun h => nomatch h)
    exact ⟨.inl hsame, fun _ => hsame⟩
  | constant source kind out => exact ⟨.inl rfl, fun _ => rfl⟩
  | event out => exact ⟨.inl rfl, fun _ => rfl⟩
  | output source out => exact ⟨.inl rfl, fun _ => rfl⟩
  | computed source kind =>
    rw [horigin] at huncut
    obtain ⟨honce, hapart⟩ : CountsOnce (RunState.skips key) key.1
        (st.beginReading (node.id, handle)) _ ∧ _ :=
      evaluatePure_skips hsound hskips hlone hkey (s.graph.computes_of_origin horigin) huncut
    exact ⟨honce, fun h => hapart fun pin hpin hpath =>
      h (hpath.tail ⟨source, kind, horigin, pin, hpin, rfl⟩)⟩

theorem readPinFrom_skips (hlone : s.graph.LoneCircular key.1)
    (hkey : Relation.TransGen s.graph.Feeds key key) (room depth : Nat) :
    PinReader.Skips s.graph key (s.readPinFrom room depth) := by
  refine readPinFrom_rule (motive := fun input st result => result.2.cuts = st.cuts →
    SkipContract s.graph key input st result.2) ?_ ?_ ?_ ?_ room depth
  · exact fun _ st _ _ _ => ⟨fun _ => .inl rfl, Nat.le_succ _, fun _ => rfl⟩
  · intro input st hreading _
    by_cases hinput : input = key
    · subst hinput
      exact ⟨fun h => absurd hreading (h rfl), RunState.skips_warn_self.le, fun h => absurd .refl h⟩
    · have hne : Warning.dataCycleSkipped input.1 input.2 ≠ .dataCycleSkipped key.1 key.2 := by
        intro h
        injection h with hnode hhandle
        exact hinput (Prod.ext hnode hhandle)
      have hsame : (st.warn (.dataCycleSkipped input.1 input.2)).skips key = st.skips key :=
        RunState.skips_warn_of_ne hne
      exact ⟨fun _ => .inl hsame, hsame.trans_le (Nat.le_succ _), fun _ => hsame⟩
  · intro input st depth huncut
    rw [RunState.cuts_warn_cut] at huncut
    omega
  · intro read hsound hskips node handle st _ _ huncut
    have huncut' : (s.readFresh read node handle st).2.cuts = st.cuts := by
      rw [RunState.memoizePin_eq] at huncut
      exact huncut
    obtain ⟨honce, hapart⟩ := readFresh_skips hsound hskips hlone hkey huncut'
    generalize s.readFresh read node handle st = fresh at honce hapart
    have hsame : (fresh.2.memoizePin (node.id, handle) fresh.1).skips key = fresh.2.skips key := by
      rw [RunState.memoizePin_eq]
      rfl
    have honce' : CountsOnce (RunState.skips key) key.1 st
        (fresh.2.memoizePin (node.id, handle) fresh.1) := by
      unfold CountsOnce
      rw [hsame, RunState.memoizedPure?_memoizePin]
      exact honce
    exact ⟨fun _ => honce', honce'.le, fun h => hsame.trans (hapart h)⟩

end Setup

def Warning.isGap (w : Warning) : Bool := w.isDataCycle || w.isCut

/-- Nothing that is memoized depends on a cycle. -/
structure Grounded (g : Graph) (st : RunState) : Prop where
  pins : ∀ key r, st.memoizedPin? key = some r → g.Acyclic key
  results : ∀ source kind r, g.Computes source kind → st.memoizedPure? source.id = some r →
    ∀ pin ∈ source.dataInputs, g.Acyclic (source.id, pin.id)

namespace Grounded

variable {g : Graph} {st st' : RunState}

theorem of_lookups (h : Grounded g st) (hpins : st'.memoizedPin? = st.memoizedPin?)
    (hresults : st'.memoizedPure? = st.memoizedPure?) : Grounded g st' where
  pins key r hr := h.pins key r (hpins ▸ hr)
  results source kind r hcomputes hr := h.results source kind r hcomputes (hresults ▸ hr)

theorem memoizePin {key : PinKey} {r : Reading} (h : Grounded g st) (hkey : g.Acyclic key) :
    Grounded g (st.memoizePin key r) where
  pins other found hfound := by
    by_cases hother : other = key
    · exact hother ▸ hkey
    · rw [RunState.memoizedPin?_memoizePin_ne hother] at hfound
      exact h.pins other found hfound
  results source kind found hcomputes hfound := by
    rw [RunState.memoizedPure?_memoizePin] at hfound
    exact h.results source kind found hcomputes hfound

theorem memoizePure {node : Node} {kind : PureKind} {r : Reading} (h : Grounded g st)
    (hnode : g.Computes node kind)
    (hinputs : ∀ pin ∈ node.dataInputs, g.Acyclic (node.id, pin.id)) :
    Grounded g (st.memoizePure node.id r) where
  pins key found hfound := by
    rw [RunState.memoizedPin?_memoizePure] at hfound
    exact h.pins key found hfound
  results source kind found hcomputes hfound := by
    by_cases hid : source.id = node.id
    · have hpresent := hcomputes.present
      rw [hid, hnode.present] at hpresent
      obtain rfl := Option.some.inj hpresent
      exact hinputs
    · rw [RunState.memoizedPure?_memoizePure_ne hid] at hfound
      exact h.results source kind found hcomputes hfound

end Grounded

def PinReader.Grounding (g : Graph) (read : PinReader) : Prop :=
  ∀ node handle st, Grounded g st →
    (read node handle st).2.warnings.countP Warning.isGap = st.warnings.countP Warning.isGap →
    g.Acyclic (node.id, handle) ∧ Grounded g (read node handle st).2

section Layers

variable {g : Graph} {read : PinReader}

theorem foldl_add_grounded (hsound : read.Sound g) (hgrounding : read.Grounding g) (node : Node)
    (pins : List Pin) (acc : Gathered) (hacc : Grounded g acc.state)
    (hgapless : (pins.foldl (Gathered.add read node) acc).state.warnings.countP Warning.isGap =
      acc.state.warnings.countP Warning.isGap) :
    (∀ pin ∈ pins, g.Acyclic (node.id, pin.id)) ∧
      Grounded g (pins.foldl (Gathered.add read node) acc).state := by
  induction pins generalizing acc with
  | nil => exact ⟨List.forall_mem_nil _, hacc⟩
  | cons pin rest ih =>
    obtain ⟨hfirst, hrest⟩ := foldl_add_unreported hsound node hgapless
    obtain ⟨hpin, hnext⟩ := hgrounding node pin.id acc.state hacc hfirst
    obtain ⟨hothers, hlast⟩ := ih (acc.add read node pin) hnext hrest
    exact ⟨List.forall_mem_cons.2 ⟨hpin, hothers⟩, hlast⟩

end Layers

namespace Setup

variable {s : Setup} {read : PinReader}

theorem evaluatePure_grounded (hsound : read.Sound s.graph) (hgrounding : read.Grounding s.graph)
    {node : Node} {kind : PureKind} (hnode : s.graph.Computes node kind) {st : RunState}
    (hst : Grounded s.graph st)
    (hgapless : (s.evaluatePure read node kind st).2.warnings.countP Warning.isGap =
      st.warnings.countP Warning.isGap) :
    (∀ pin ∈ node.dataInputs, s.graph.Acyclic (node.id, pin.id)) ∧
      Grounded s.graph (s.evaluatePure read node kind st).2 := by
  cases hnone : st.memoizedPure? node.id with
  | some r =>
    have hsame : (s.evaluatePure read node kind st).2 = st := by
      simp only [evaluatePure, hnone]
    rw [hsame]
    exact ⟨hst.results node kind r hnode hnone, hst⟩
  | none =>
    -- The inputs report no gap either, since their warnings stand before the others.
    have hle := (gather_contract hsound node st).1.frame.warnings.sublist.countP_le
      (p := Warning.isGap)
    have hle' := (@evaluatePure_gathered s read node st hnone kind).1.warnings
      |>.sublist.countP_le (p := Warning.isGap)
    obtain ⟨hinputs, hgathered⟩ := foldl_add_grounded hsound hgrounding node node.dataInputs
      ⟨[], .run, st⟩ hst (Nat.le_antisymm (hle'.trans hgapless.le) hle)
    refine ⟨hinputs, ?_⟩
    unfold evaluatePure
    rw [hnone]
    dsimp only
    split
    · exact hgathered
    · rw [compute_eq]
      refine Grounded.memoizePure ?_ hnode hinputs
      exact hgathered.of_lookups (funext fun key => computing_memoizedPin? node kind _ key)
        (funext fun id => computing_memoizedPure? node kind _ id)

theorem readFresh_grounded (hsound : read.Sound s.graph) (hgrounding : read.Grounding s.graph)
    {node : Node} {handle : Handle} {st : RunState} (hst : Grounded s.graph st)
    (hgapless : (s.readFresh read node handle st).2.warnings.countP Warning.isGap =
      st.warnings.countP Warning.isGap) :
    s.graph.Acyclic (node.id, handle) ∧ Grounded s.graph (s.readFresh read node handle st).2 := by
  have hunfed : (∀ source kind, s.graph.origin (node.id, handle) ≠ .computed source kind) →
      s.graph.Acyclic (node.id, handle) :=
    fun h => (Graph.determined_of_unfed h).acyclic
  rw [readFresh_eq] at hgapless ⊢
  cases horigin : s.graph.origin (node.id, handle) with
  | literal => exact ⟨hunfed (by simp [horigin]), hst⟩
  | absent => exact ⟨hunfed (by simp [horigin]), hst⟩
  | unknown source => exact ⟨hunfed (by simp [horigin]), hst.of_lookups rfl rfl⟩
  | constant source kind out => exact ⟨hunfed (by simp [horigin]), hst⟩
  | event out => exact ⟨hunfed (by simp [horigin]), hst⟩
  | output source out => exact ⟨hunfed (by simp [horigin]), hst⟩
  | computed source kind =>
    rw [horigin] at hgapless
    have hbegun : Grounded s.graph (st.beginReading (node.id, handle)) := hst.of_lookups rfl rfl
    obtain ⟨hinputs, hgrounded⟩ := evaluatePure_grounded (s := s) hsound hgrounding
      (s.graph.computes_of_origin horigin) hbegun hgapless
    refine ⟨Graph.acyclic_of_inputs ?_, hgrounded.of_lookups rfl rfl⟩
    rintro input ⟨source', kind', horigin', pin, hpin, rfl⟩
    rw [horigin] at horigin'
    cases horigin'
    exact hinputs pin hpin

theorem readPinFrom_grounding (room depth : Nat) :
    PinReader.Grounding s.graph (s.readPinFrom room depth) := by
  refine readPinFrom_rule (motive := fun key st result => Grounded s.graph st →
    result.2.warnings.countP Warning.isGap = st.warnings.countP Warning.isGap →
    s.graph.Acyclic key ∧ Grounded s.graph result.2) ?_ ?_ ?_ ?_ room depth
  · exact fun key st r hfound hst _ => ⟨hst.pins key r hfound, hst⟩
  · intro key st _ _ hgapless
    simp [RunState.warn, Warning.isGap, Warning.isDataCycle] at hgapless
  · intro key st depth _ hgapless
    simp [RunState.warn, Warning.isGap, Warning.isCut] at hgapless
  · intro read hsound hgrounding node handle st _ _ hst hgapless
    rw [RunState.memoizePin_eq] at hgapless
    obtain ⟨hkey, hgrounded⟩ := readFresh_grounded hsound hgrounding hst hgapless
    exact ⟨hkey, hgrounded.memoizePin hkey⟩

theorem readPin_fresh_uncut (hdepth : s.graph.dataEdges.length ≤ s.limits.maxDepth)
    (trigger : Trigger) (node : Node) (handle : Handle) :
    (s.readPin node handle (.fresh trigger)).2.cuts = 0 := by
  have hroom : Roomy s.graph.fedInputs s.limits.maxDepth [] := by
    refine .start ?_
    rw [Graph.length_fedInputs]
    exact hdepth
  exact (readPinFrom_alike hroom hroom 0 0 node handle (.fresh trigger) rfl).2

theorem circular_of_reported {trigger : Trigger} {node : Node} {handle : Handle} {id : NodeId}
    {pin : Handle}
    (h : Warning.dataCycleSkipped id pin ∈ (s.readPin node handle (.fresh trigger)).2.warnings) :
    Relation.TransGen s.graph.Feeds (id, pin) (id, pin) := by
  rcases (readPin_reporting (s := s) rfl node handle).mem h with hearlier | hreports
  · cases hearlier
  · cases hreports with
    | cycle hcycle => exact hcycle

theorem readPin_fresh_skips (hdepth : s.graph.dataEdges.length ≤ s.limits.maxDepth)
    (trigger : Trigger) (node : Node) (handle : Handle) {key : PinKey}
    (hlone : s.graph.LoneCircular key.1) :
    (s.readPin node handle (.fresh trigger)).2.skips key ≤ 1 := by
  by_cases hkey : Relation.TransGen s.graph.Feeds key key
  · have huncut := readPin_fresh_uncut hdepth trigger node handle
    have hskips := readPinFrom_skips hlone hkey (s.limits.maxDepth + 1) 0 node handle
      (.fresh trigger) huncut
    exact (hskips.once fun _ => List.not_mem_nil).le
  · have hzero : (s.readPin node handle (.fresh trigger)).2.skips key = 0 :=
      List.count_eq_zero.2 fun hmem => hkey (circular_of_reported hmem)
    omega

theorem exists_reported_of_not_acyclic (hdepth : s.graph.dataEdges.length ≤ s.limits.maxDepth)
    (trigger : Trigger) {node : Node} {handle : Handle} (h : ¬ s.graph.Acyclic (node.id, handle)) :
    ∃ id pin, Warning.dataCycleSkipped id pin ∈
      (s.readPin node handle (.fresh trigger)).2.warnings := by
  have huncut := readPin_fresh_uncut hdepth trigger node handle
  by_contra hnone
  refine h (readPinFrom_grounding (s.limits.maxDepth + 1) 0 node handle (.fresh trigger)
    ⟨(fun _ _ h => nomatch h), fun _ _ _ _ h => nomatch h⟩ ?_).1
  refine List.countP_eq_zero.2 fun w hw hgap => ?_
  cases w with
  | dataCycleSkipped id pin => exact hnone ⟨id, pin, hw⟩
  | depthLimitReached id depth => exact List.countP_eq_zero.1 huncut _ hw rfl
  | _ => cases hgap

/-- A first reading is not cut off if the depth bound admits every data edge. What it reports as
    cycles are inputs that go into their own values, there is at least one if there is a cycle to be
    met, and an input whose node has no second circular input is reported at most once. -/
theorem readPin_reports_cycles {s : Setup}
    (hdepth : s.graph.dataEdges.length ≤ s.limits.maxDepth) (trigger : Trigger) (node : Node)
    (handle : Handle) :
    (s.readPin node handle (.fresh trigger)).2.cuts = 0 ∧
      (∀ id pin,
        Warning.dataCycleSkipped id pin ∈ (s.readPin node handle (.fresh trigger)).2.warnings →
        Relation.TransGen s.graph.Feeds (id, pin) (id, pin)) ∧
      (¬ s.graph.Acyclic (node.id, handle) → ∃ id pin,
        Warning.dataCycleSkipped id pin ∈ (s.readPin node handle (.fresh trigger)).2.warnings) ∧
      (∀ key : PinKey, s.graph.LoneCircular key.1 →
        (s.readPin node handle (.fresh trigger)).2.skips key ≤ 1) ∧
      ((∀ id pin,
          Warning.dataCycleSkipped id pin ∈ (s.readPin node handle (.fresh trigger)).2.warnings →
          s.graph.LoneCircular id) →
        ((s.readPin node handle (.fresh trigger)).2.warnings.filter
          Warning.isDataCycle).Nodup) := by
  refine ⟨readPin_fresh_uncut hdepth trigger node handle, fun _ _ => circular_of_reported,
    exists_reported_of_not_acyclic hdepth trigger,
    fun key => readPin_fresh_skips hdepth trigger node handle, fun hlone => ?_⟩
  refine List.nodup_iff_count_le_one.2 fun w => ?_
  by_cases hmem : w ∈ (s.readPin node handle (.fresh trigger)).2.warnings.filter Warning.isDataCycle
  · obtain ⟨hreported, hcycle⟩ := List.mem_filter.1 hmem
    have hle := List.filter_sublist (p := Warning.isDataCycle)
      (l := (s.readPin node handle (.fresh trigger)).2.warnings).count_le w
    cases w with
    | dataCycleSkipped id pin =>
      have honce : (s.readPin node handle (.fresh trigger)).2.skips (id, pin) ≤ 1 :=
        readPin_fresh_skips hdepth trigger node handle (hlone id pin hreported)
      exact hle.trans honce
    | _ => cases hcycle
  · exact (List.count_eq_zero.2 hmem).trans_le (Nat.zero_le 1)

def invertNode (id : NodeId) : Node :=
  { Node.bare id "pure-logic-not" with
    dataInputs := [.required "value" .boolean]
    dataOutputs := [.required "result" .boolean] }

def ring : Setup where
  graph := .ofParts [invertNode "left", invertNode "right", Graph.sayNode]
    [⟨none, "left", "result", "right", "value", .data⟩,
      ⟨none, "right", "result", "left", "value", .data⟩,
      ⟨none, "left", "result", "say", "text", .data⟩]
  limits := ⟨3, .zero⟩
  dice _ := 0

def hub : Setup where
  graph := .ofParts
    [{ Node.bare "hub" "pure-logic-and" with
        dataInputs := [.required "a" .boolean, .required "b" .boolean]
        dataOutputs := [.required "result" .boolean] },
      invertNode "left", invertNode "right", Graph.sayNode]
    [⟨none, "hub", "result", "left", "value", .data⟩,
      ⟨none, "hub", "result", "right", "value", .data⟩,
      ⟨none, "left", "result", "hub", "a", .data⟩,
      ⟨none, "right", "result", "hub", "b", .data⟩,
      ⟨none, "hub", "result", "say", "text", .data⟩]
  limits := ⟨5, .zero⟩
  dice _ := 0

theorem ring_loneCircular (id : NodeId) : ring.graph.LoneCircular id := by
  intro owner howner
  have hone : ∀ n ∈ ring.graph.nodes, n.dataInputs.length ≤ 1 := by decide
  have howner := hone owner (ring.graph.node?_mem howner)
  cases hinputs : owner.dataInputs with
  | nil => exact .nil
  | cons pin rest =>
    rw [hinputs, List.length_cons] at howner
    rw [List.eq_nil_of_length_eq_zero (by omega : rest.length = 0)]
    exact List.pairwise_singleton _ _

theorem readPin_reports_cycles_ring :
    ring.graph.dataEdges.length ≤ ring.limits.maxDepth ∧
      (ring.readPin Graph.sayNode "text" (.fresh [])).2.warnings =
        [.dataCycleSkipped "left" "value"] ∧
      Relation.TransGen ring.graph.Feeds ("left", "value") ("left", "value") ∧
      (ring.readPin Graph.sayNode "text" (.fresh [])).2.skips ("left", "value") ≤ 1 := by
  have hdepth : ring.graph.dataEdges.length ≤ ring.limits.maxDepth := by decide
  obtain ⟨-, hcircular, -, honce, -⟩ := readPin_reports_cycles hdepth [] Graph.sayNode "text"
  have hwarnings : (ring.readPin Graph.sayNode "text" (.fresh [])).2.warnings =
      [.dataCycleSkipped "left" "value"] := by rfl
  exact ⟨hdepth, hwarnings, hcircular _ _ (by rw [hwarnings]; exact List.mem_singleton_self _),
    honce ("left", "value") (ring_loneCircular _)⟩

/-- The depth bound admits every edge, and still one input is reported twice. -/
theorem readPin_reports_twice_hub :
    hub.graph.dataEdges.length ≤ hub.limits.maxDepth ∧
      (hub.readPin Graph.sayNode "text" (.fresh [])).2.warnings =
        [.dataCycleSkipped "hub" "a", .dataCycleSkipped "hub" "a",
          .dataCycleSkipped "hub" "b"] ∧
      ¬ ((hub.readPin Graph.sayNode "text" (.fresh [])).2.warnings.filter
        Warning.isDataCycle).Nodup := by
  have hwarnings : (hub.readPin Graph.sayNode "text" (.fresh [])).2.warnings =
      [.dataCycleSkipped "hub" "a", .dataCycleSkipped "hub" "a", .dataCycleSkipped "hub" "b"] := by
    rfl
  refine ⟨by decide, hwarnings, ?_⟩
  rw [hwarnings]
  decide

end Setup

end PinFlow
