import PinFlow.Proofs.Reading.Report
import PinFlow.Proofs.Run.History
import PinFlow.Proofs.Run.Stability

set_option autoImplicit false

/-!
# Calls, executed actions and missing inputs

A run keeps three records of its actions: the calls that it makes, the nodes that it marks as
executed, and the warnings about required inputs that are missing. All three follow from the
arrivals of control at action nodes: each arrival is marked, reads the inputs one after another, and
leads to one call. `Tallied` says so of a history and a state, and every run keeps it.
-/

namespace PinFlow

def Warning.isMissing : Warning → Bool
  | .missingRequiredInput _ _ => true
  | _ => false

theorem Graph.Reports.not_missing {g : Graph} {w : Warning} (h : g.Reports w) :
    w.isMissing = false := by
  cases h <;> rfl

theorem Reporting.missing_eq {g : Graph} {st st' : RunState} (h : Reporting g st st') :
    st'.warnings.filter Warning.isMissing = st.warnings.filter Warning.isMissing := by
  obtain ⟨reported, hwarnings, hreports⟩ := h
  have hnone : reported.filter Warning.isMissing = [] :=
    List.filter_eq_nil_iff.2 fun w hw => by simp [(hreports w hw).not_missing]
  rw [hwarnings, List.filter_append, hnone, List.append_nil]

def Pin.misses (pin : Pin) (value : Option Value) : Bool := value.isNone && !pin.optional

theorem get?_putInput (inputs : Fields Value) (id : String) (value : Option Value)
    (other : String) :
    (putInput inputs (id, value)).get? other =
      if other = id then value.or (inputs.get? id) else inputs.get? other := by
  cases value with
  | some v =>
    rw [Option.some_or]
    exact Fields.get?_insert inputs id v other
  | none =>
    rw [Option.none_or]
    split
    · rename_i heq
      rw [heq]
      rfl
    · rfl

theorem get?_foldl_putInput (entries : List (String × Option Value)) (inputs : Fields Value)
    (key : String) :
    (entries.foldl putInput inputs).get? key =
      (entries.reverse.findSome? fun entry => if entry.1 = key then entry.2 else none).or
        (inputs.get? key) := by
  induction entries generalizing inputs with
  | nil => rfl
  | cons entry rest ih =>
    rw [List.foldl_cons, ih, List.reverse_cons, List.findSome?_append, Option.or_assoc,
      get?_putInput]
    congr 1
    by_cases hkey : key = entry.1
    · simp [hkey]
    · simp [hkey, Ne.symm hkey]

namespace Setup

variable (s : Setup)

def afterInput (node : Node) (st : RunState) (pin : Pin) : RunState :=
  if pin.misses (s.readPin node pin.id st).1 then
    (s.readPin node pin.id st).2.warn (.missingRequiredInput node.id pin.id)
  else (s.readPin node pin.id st).2

/-- What an action finds at its inputs, each read in the state that those before it left. -/
def inputReadings (node : Node) : List Pin → RunState → List (Pin × Option Value)
  | [], _ => []
  | pin :: rest, st =>
    (pin, (s.readPin node pin.id st).1) :: inputReadings node rest (s.afterInput node st pin)

variable {s}

theorem addActionInput_eq (node : Node) (acc : Fields Value × RunState) (pin : Pin) :
    s.addActionInput node acc pin =
      (putInput acc.1 (pin.id, (s.readPin node pin.id acc.2).1), s.afterInput node acc.2 pin) := by
  unfold addActionInput afterInput putInput Pin.misses
  generalize s.readPin node pin.id acc.2 = reading
  obtain ⟨value, st⟩ := reading
  cases value with
  | some v => rfl
  | none => cases pin.optional <;> rfl

theorem foldl_addActionInput (node : Node) (pins : List Pin) (acc : Fields Value × RunState) :
    pins.foldl (s.addActionInput node) acc =
      (((s.inputReadings node pins acc.2).map fun r => (r.1.id, r.2)).foldl putInput acc.1,
        pins.foldl (s.afterInput node) acc.2) := by
  induction pins generalizing acc with
  | nil => rfl
  | cons pin rest ih =>
    rw [List.foldl_cons, ih, addActionInput_eq]
    rfl

end Setup

structure Arrival where
  node : Node
  state : RunState

namespace Arrival

variable (s : Setup) (v : Arrival)

def readings : List (Pin × Option Value) := s.inputReadings v.node v.node.dataInputs v.state

def after : RunState := v.node.dataInputs.foldl (s.afterInput v.node) v.state

def call : Call where
  node := v.node.id
  definition := v.node.definition
  inputs := ((v.readings s).map fun r => (r.1.id, r.2)).foldl putInput []
  config := v.node.config

def reports : List Warning :=
  ((v.readings s).filter fun r => r.1.misses r.2).map fun r =>
    .missingRequiredInput v.node.id r.1.id

theorem readings_pins : (v.readings s).map Prod.fst = v.node.dataInputs := by
  unfold readings
  generalize v.node.dataInputs = pins
  generalize v.state = st
  induction pins generalizing st with
  | nil => rfl
  | cons pin rest ih => exact congrArg (pin :: ·) (ih _)

theorem inputs_eq_found (id : String) :
    (v.call s).inputs.get? id =
      (v.readings s).reverse.findSome? fun r => if r.1.id = id then r.2 else none := by
  rw [call, get?_foldl_putInput, ← List.map_reverse, List.findSome?_map]
  exact Option.or_none

theorem actionInputs_eq : s.actionInputs v.node v.state = ((v.call s).inputs, v.after s) :=
  Setup.foldl_addActionInput v.node v.node.dataInputs ([], v.state)

end Arrival

namespace Setup

variable {s : Setup} {node : Node}

theorem afterInput_frame (node : Node) (st : RunState) (pin : Pin) :
    ReadFrame st (s.afterInput node st pin) := by
  have hread : ReadFrame st (s.readPin node pin.id st).2 :=
    (readPinAt_contract node pin.id st).advance.frame
  unfold afterInput
  split
  · exact hread.trans (.warn _ _)
  · exact hread

theorem afterInput_cuts (node : Node) (st : RunState) (pin : Pin) :
    (s.afterInput node st pin).cuts = (s.readPin node pin.id st).2.cuts := by
  unfold afterInput
  split
  · exact RunState.cuts_warn_of_not_cut _ rfl
  · rfl

theorem afterInput_memoizedPin? (node : Node) (st : RunState) (pin : Pin) (key : PinKey) :
    (s.afterInput node st pin).memoizedPin? key =
      (s.readPin node pin.id st).2.memoizedPin? key := by
  unfold afterInput
  split <;> rfl

theorem afterInputs_frame (node : Node) (pins : List Pin) (st : RunState) :
    ReadFrame st (pins.foldl (s.afterInput node) st) := by
  induction pins generalizing st with
  | nil => exact .refl st
  | cons pin rest ih => exact (afterInput_frame node st pin).trans (ih _)

theorem afterInput_missing {st : RunState} (hst : st.resolving = []) (node : Node) (pin : Pin) :
    (s.afterInput node st pin).warnings.filter Warning.isMissing =
      st.warnings.filter Warning.isMissing ++
        if pin.misses (s.readPin node pin.id st).1 then [.missingRequiredInput node.id pin.id]
        else [] := by
  have hread := (readPin_reporting (s := s) hst node pin.id).missing_eq
  unfold afterInput
  split
  · rw [RunState.warn, List.filter_append, hread]
    rfl
  · rw [hread, List.append_nil]

theorem afterInputs_missing {st : RunState} (hst : st.resolving = []) (node : Node)
    (pins : List Pin) :
    (pins.foldl (s.afterInput node) st).warnings.filter Warning.isMissing =
      st.warnings.filter Warning.isMissing ++
        ((s.inputReadings node pins st).filter fun r => r.1.misses r.2).map fun r =>
          .missingRequiredInput node.id r.1.id := by
  induction pins generalizing st with
  | nil => exact (List.append_nil _).symm
  | cons pin rest ih =>
    have hnext := (afterInput_frame (s := s) node st pin).resolving.trans hst
    rw [List.foldl_cons, ih hnext, afterInput_missing hst, inputReadings, List.filter_cons,
      List.append_assoc]
    dsimp only
    split <;> rfl

/-- The inputs that were read are memoized, and their values are those that were found. -/
structure Settled (node : Node) (ids : List String) (inputs : Fields Value) (st : RunState) :
    Prop where
  memo : ∀ id ∈ ids, ∃ r, st.memoizedPin? (node.id, id) = some r ∧ inputs.get? id = r.value
  absent : ∀ id, id ∉ ids → inputs.get? id = none

theorem Settled.step {ids : List String} {inputs : Fields Value} {st : RunState}
    (h : Settled node ids inputs st) (hst : st.resolving = []) (pin : Pin)
    (huncut : (s.afterInput node st pin).cuts = st.cuts) :
    Settled node (pin.id :: ids) (putInput inputs (pin.id, (s.readPin node pin.id st).1))
      (s.afterInput node st pin) := by
  have hframe := afterInput_frame (s := s) node st pin
  have hmemo : (s.afterInput node st pin).memoizedPin? (node.id, pin.id) =
      some (s.readPinAt 0 node pin.id st).1 := by
    rw [afterInput_cuts] at huncut
    rw [afterInput_memoizedPin?]
    exact memoized_of_uncut hst huncut
  -- An input that is declared twice was memoized the first time and is found again.
  have hvalue : ((s.readPin node pin.id st).1.or (inputs.get? pin.id)) =
      (s.readPinAt 0 node pin.id st).1.value := by
    change (s.readPinAt 0 node pin.id st).1.value.or _ = _
    by_cases hid : pin.id ∈ ids
    · obtain ⟨r, hr, hget⟩ := h.memo pin.id hid
      rw [readPinAt_of_memoizedPin? hr, hget, Option.or_self]
    · rw [h.absent pin.id hid, Option.or_none]
  constructor
  · intro id hid
    rw [get?_putInput]
    by_cases heq : id = pin.id
    · rw [if_pos heq, heq]
      exact ⟨_, hmemo, hvalue⟩
    · obtain ⟨r, hr, hget⟩ := h.memo id ((List.mem_cons.1 hid).resolve_left heq)
      rw [if_neg heq]
      exact ⟨r, hframe.pins _ r hr, hget⟩
  · intro id hid
    rw [List.mem_cons, not_or] at hid
    rw [get?_putInput, if_neg hid.1]
    exact h.absent id hid.2

theorem Settled.run {ids : List String} {inputs : Fields Value} {st : RunState}
    (h : Settled node ids inputs st) (hst : st.resolving = []) (pins : List Pin)
    (huncut : (pins.foldl (s.afterInput node) st).cuts = st.cuts) :
    Settled node ((pins.map Pin.id).reverse ++ ids)
      (((s.inputReadings node pins st).map fun r => (r.1.id, r.2)).foldl putInput inputs)
      (pins.foldl (s.afterInput node) st) := by
  induction pins generalizing ids inputs st with
  | nil => exact h
  | cons pin rest ih =>
    have hframe := afterInput_frame (s := s) node st pin
    have hle := hframe.cuts_le
    have hle' := (afterInputs_frame (s := s) node rest (s.afterInput node st pin)).cuts_le
    rw [List.foldl_cons] at huncut
    rw [List.map_cons, List.reverse_cons, List.append_assoc]
    exact ih (h.step hst pin (by omega)) (hframe.resolving.trans hst) (by omega)

end Setup

theorem Arrival.inputs_of_uncut {s : Setup} {v : Arrival} (hst : v.state.resolving = [])
    (huncut : (v.after s).cuts = v.state.cuts) (id : String) :
    (v.call s).inputs.get? id =
      if id ∈ v.node.dataInputs.map Pin.id then (s.readPin v.node id (v.after s)).1 else none := by
  have hnone : Setup.Settled v.node [] [] v.state :=
    ⟨fun _ h => absurd h List.not_mem_nil, fun _ _ => rfl⟩
  have hsettled : Setup.Settled v.node ((v.node.dataInputs.map Pin.id).reverse ++ [])
      (v.call s).inputs (v.after s) := hnone.run hst v.node.dataInputs huncut
  rw [List.append_nil] at hsettled
  split
  · rename_i hid
    obtain ⟨r, hr, hget⟩ := hsettled.memo id (List.mem_reverse.2 hid)
    change _ = (s.readPinAt 0 v.node id (v.after s)).1.value
    rw [Setup.readPinAt_of_memoizedPin? hr]
    exact hget
  · rename_i hid
    exact hsettled.absent id fun h => hid (List.mem_reverse.1 h)

namespace Deed

def arrival? (g : Graph) : Deed → Option Arrival
  | .noted (.entered id) st =>
    ((g.node? id).filter (·.kind? = some .action)).map (Arrival.mk · st)
  | _ => none

def moment? : Deed → Option (Call × RunState)
  | .noted _ _ => none
  | .called call st _ => some (call, st)

theorem moment?_map (deed : Deed) : deed.moment?.map Prod.fst = deed.call? := by
  cases deed <;> rfl

end Deed

/-- The arrivals of control at action nodes, in order; histories have their latest deed first. -/
def Graph.arrivals (g : Graph) (past : List Deed) : List Arrival :=
  (past.filterMap (Deed.arrival? g)).reverse

/-- The executed actions, the calls with their states and the warnings about missing inputs are
    those of the arrivals, in order. -/
structure Tallied (s : Setup) (past : List Deed) (st : RunState) : Prop where
  executed : st.executed.filter (s.graph.hasKind .action) = (s.graph.arrivals past).map (·.node.id)
  calls : (past.filterMap Deed.moment?).reverse =
    (s.graph.arrivals past).map fun v => (v.call s, v.after s)
  missing : st.warnings.filter Warning.isMissing = (s.graph.arrivals past).flatMap (·.reports s)
  idle : ∀ v ∈ s.graph.arrivals past, v.state.resolving = []

namespace Tallied

variable {s : Setup} {past : List Deed} {st st' : RunState} {node : Node}

theorem of_records (h : Tallied s past st)
    (hexecuted : st'.executed.filter (s.graph.hasKind .action) =
      st.executed.filter (s.graph.hasKind .action))
    (hwarnings : st'.warnings.filter Warning.isMissing = st.warnings.filter Warning.isMissing) :
    Tallied s past st' :=
  ⟨hexecuted.trans h.executed, h.calls, hwarnings.trans h.missing, h.idle⟩

theorem warn (h : Tallied s past st) {w : Warning} (hw : w.isMissing = false) :
    Tallied s past (st.warn w) := by
  refine h.of_records rfl ?_
  rw [RunState.warn, List.filter_append, List.filter_cons_of_neg (by rw [hw]; decide),
    List.filter_nil, List.append_nil]

theorem reporting (h : Tallied s past st) (hframe : ReadFrame st st')
    (hreporting : Reporting s.graph st st') : Tallied s past st' :=
  h.of_records (by rw [hframe.executed]) hreporting.missing_eq

theorem note (h : Tallied s past st) {deed : Deed} (harrival : deed.arrival? s.graph = none)
    (hmoment : deed.moment? = none) : Tallied s (deed :: past) st := by
  have harrivals : s.graph.arrivals (deed :: past) = s.graph.arrivals past := by
    rw [Graph.arrivals, List.filterMap_cons_none harrival, Graph.arrivals]
  constructor
  · rw [harrivals]
    exact h.executed
  · rw [harrivals, List.filterMap_cons_none hmoment]
    exact h.calls
  · rw [harrivals]
    exact h.missing
  · rw [harrivals]
    exact h.idle

theorem fires (h : Tallied s past st) (id : NodeId) (handle : Handle) (exit : NodeExit) :
    Tallied s (.noted (.firing id handle) (exit.ready id st) :: past) (exit.ready id st) := by
  refine Tallied.note ?_ rfl rfl
  cases exit with
  | plain handle => exact h
  | iteration element index => exact h.of_records rfl rfl

theorem act (h : Tallied s past st) (hst : st.resolving = []) (hkind : node.kind? ≠ some .action)
    (hact : Acts s node st st') : Tallied s past st' := by
  have hframe := hact.frame
  cases hact with
  | read handle => exact h.reporting hframe (Setup.readPin_reporting hst node handle)
  | miss pin haction _ _ _ => exact absurd haction hkind
  | evaluate kind hcomputes =>
    exact h.reporting hframe (Setup.evaluateEagerly_reporting hst hcomputes)
  | remark w hw =>
    refine h.warn ?_
    cases w with
    | missingRequiredInput node pin => cases hw
    | _ => rfl

theorem markExecuted_of_not_action (h : Tallied s past st)
    (hnode : s.graph.node? node.id = some node) (hkind : node.kind? ≠ some .action) :
    Tallied s (.noted (.entered node.id) (st.markExecuted node.id) :: past)
      (st.markExecuted node.id) := by
  have hexecuted : (st.markExecuted node.id).executed.filter (s.graph.hasKind .action) =
      st.executed.filter (s.graph.hasKind .action) := by
    rw [RunState.markExecuted, List.filter_append, List.filter_cons_of_neg, List.filter_nil,
      List.append_nil]
    simpa [Graph.hasKind_eq hnode] using hkind
  have hmarked : Tallied s past (st.markExecuted node.id) := h.of_records hexecuted rfl
  exact hmarked.note (by simp [Deed.arrival?, hnode, Option.filter, hkind]) rfl

theorem arrive (h : Tallied s past st) (hst : st.resolving = []) {v : Arrival}
    (hnode : s.graph.node? v.node.id = some v.node) (hkind : v.node.kind? = some .action)
    (hstate : v.state = st.markExecuted v.node.id) (reply : Reply) :
    Tallied s (.called (v.call s) (v.after s) reply :: .noted (.entered v.node.id) v.state :: past)
      (v.after s) := by
  have hdeed : Deed.arrival? s.graph (.noted (.entered v.node.id) v.state) = some v := by
    simp [Deed.arrival?, hnode, Option.filter, hkind]
  have harrivals : s.graph.arrivals (.called (v.call s) (v.after s) reply ::
      .noted (.entered v.node.id) v.state :: past) = s.graph.arrivals past ++ [v] := by
    rw [Graph.arrivals, List.filterMap_cons_none rfl, List.filterMap_cons_some hdeed,
      List.reverse_cons, Graph.arrivals]
  have hframe : ReadFrame v.state (v.after s) := Setup.afterInputs_frame _ _ _
  have hidle : v.state.resolving = [] := by
    rw [hstate]
    exact hst
  -- The new arrival is the last one, and its mark, call and warnings are the last of each record.
  constructor
  · have hmarked : (st.executed ++ [v.node.id]).filter (s.graph.hasKind .action) =
        st.executed.filter (s.graph.hasKind .action) ++ [v.node.id] := by
      simp [List.filter_append, Graph.hasKind_eq hnode, hkind]
    rw [harrivals, hframe.executed, hstate, List.map_append, ← h.executed]
    exact hmarked
  · rw [harrivals, List.map_append, ← h.calls]
    exact List.reverse_cons
  · have hmissing := Setup.afterInputs_missing (s := s) hidle v.node v.node.dataInputs
    have hwarnings : v.state.warnings = st.warnings := by rw [hstate]; rfl
    rw [harrivals, List.flatMap_append, List.flatMap_singleton, ← h.missing, ← hwarnings]
    exact hmissing
  · rw [harrivals]
    intro w hw
    rcases List.mem_append.1 hw with hbefore | hnew
    · exact h.idle w hbefore
    · rw [List.mem_singleton.1 hnew]
      exact hidle

end Tallied

namespace Setup

variable {s : Setup} {node : Node}

theorem phases_tallied (hkind : node.kind? ≠ some .action) (path : List PinKey) :
    Phases s (fun _ _ => True) (Tallied s) path node fun _ => Tallied s where
  point _ _ _ _ := trivial
  act _ _ _ _ hst hrest hact := hst.act hrest.resolving hkind hact
  refused _ _ _ _ _ _ _ haction := absurd haction hkind
  answered _ _ _ _ _ _ _ haction := absurd haction hkind
  fires exit _ _ _ hst _ := hst.fires node.id exit.handle exit
  back _ _ _ _ _ _ _ _ hcarried := hcarried.holds
  done _ _ hst := hst

theorem execute_action (hkind : node.kind? = some .action) (fire : Firing) (st : RunState)
    {v : Arrival} (hv : v = ⟨node, st.markExecuted node.id⟩) :
    s.execute fire node st = .noting (.entered node.id) v.state fun _ =>
      .calling (v.call s) (v.after s) fun
        | .ok outputs => fireDefault fire node ((v.after s).setOutputs node.id outputs)
        | .error cause =>
          .done (.failed (v.after s) (.actionFailed node.id node.definition cause)) := by
  subst hv
  unfold execute performAction
  rw [hkind]
  dsimp only
  rw [Arrival.actionInputs_eq s ⟨node, st.markExecuted node.id⟩]
  rfl

theorem execute_action_tallied (hnode : s.graph.node? node.id = some node)
    (hkind : node.kind? = some .action) {path : List PinKey} {fire : Firing}
    (hfire : fire.Carries (fun _ _ => True) (Tallied s) path node.id) :
    (s.execute fire node).Carries (fun _ _ => True) (Tallied s) path path.length := by
  intro past st hst hrest
  obtain ⟨v, hv⟩ : ∃ v : Arrival, v = ⟨node, st.markExecuted node.id⟩ := ⟨_, rfl⟩
  have hframe : ReadFrame v.state (v.after s) := afterInputs_frame _ _ _
  have hstate : v.state.AtRest path := by
    rw [hv]
    exact ⟨hrest.resolving, hrest.active⟩
  have hafter : (v.after s).AtRest path := hstate.frame hframe
  rw [execute_action hkind fire st hv]
  refine ⟨trivial, trivial, fun reply => ?_⟩
  have hnoted : Since path.length past (.noted (.entered node.id) v.state :: past) := .single hstate
  have hsince : Since path.length past
      (.called (v.call s) (v.after s) reply :: .noted (.entered node.id) v.state :: past) :=
    hnoted.trans (.single hafter)
  have htallied : Tallied s
      (.called (v.call s) (v.after s) reply :: .noted (.entered node.id) v.state :: past)
      (v.after s) := by
    subst hv
    exact hst.arrive hrest.resolving hnode hkind rfl reply
  refine Activity.Carries.after hsince ?_
  cases reply with
  | ok outputs =>
    refine hfire.fireDefault ?_ _ _ (htallied.of_records rfl rfl) ⟨hafter.resolving, hafter.active⟩
    exact fun _ _ _ h => h.note rfl rfl
  | error cause => exact .refl htallied hafter

theorem execute_tallied (hnode : s.graph.node? node.id = some node) {path : List PinKey}
    {fire : Firing} (hfire : fire.Carries (fun _ _ => True) (Tallied s) path node.id) :
    (s.execute fire node).Carries (fun _ _ => True) (Tallied s) path path.length := by
  by_cases hkind : node.kind? = some .action
  · exact execute_action_tallied hnode hkind hfire
  · refine (phases_tallied hkind path).execute hfire hnode ?_ ?_
    · exact fun past st hst => hst.warn rfl
    · exact fun exits past st _ hst => hst.markExecuted_of_not_action hnode hkind

theorem fresh_tallied (hnode : s.graph.node? node.id = some node)
    (hevent : node.category? = some .event) (trigger : Trigger) :
    Tallied s [] ((RunState.fresh trigger).markExecuted node.id) := by
  have hkind : node.kind? ≠ some .action := Node.kind?_ne hevent (by decide)
  refine ⟨?_, rfl, rfl, fun _ h => nomatch h⟩
  refine List.filter_eq_nil_iff.2 fun id hid => ?_
  rw [List.mem_singleton.1 hid]
  simpa [Graph.hasKind_eq hnode] using hkind

theorem chronicle_tallied (s : Setup) : Chronicle s (fun _ _ => True) (Tallied s) where
  point _ _ _ := trivial
  guard _ _ _ hst := hst.of_records rfl rfl
  skip _ _ _ _ hst := hst.warn rfl
  cut _ _ _ _ hst := hst.warn rfl
  node _ _ _ hnode hfire := execute_tallied hnode hfire
  idle _ trigger hnode hevent := (fresh_tallied hnode hevent trigger).warn rfl
  fires _ _ trigger hnode hevent := (fresh_tallied hnode hevent trigger).note rfl rfl

/-- A run that succeeds has made one call for each time that it executed an action node, in order,
    in the state in which the inputs had just been read. A call tells the declared inputs at which
    something was found, and there is one warning for each required input at which nothing was
    found, and no other; an input that is declared twice is read twice and gives two warnings. If no
    reading was cut off, what was found is what the inputs have when the call is made. -/
theorem run_calls_executed_actions (s : Setup) (entry : NodeId) (trigger : Trigger)
    (d : Dispatcher) (st : RunState) (h : ((s.start entry trigger).play d).result = .ok st) :
    ∃ arrivals : List Arrival, arrivals = s.graph.arrivals ((s.start entry trigger).deeds d) ∧
      arrivals.map (·.node.id) = st.executed.filter (s.graph.hasKind .action) ∧
      ((s.start entry trigger).play d).calls.map TimedCall.call = arrivals.map (·.call s) ∧
      (((s.start entry trigger).deeds d).filterMap Deed.moment?).reverse =
        arrivals.map (fun v => (v.call s, v.after s)) ∧
      st.warnings.filter Warning.isMissing = arrivals.flatMap (·.reports s) ∧
      ∀ v ∈ arrivals, (v.readings s).map Prod.fst = v.node.dataInputs ∧
        (∀ id, (v.call s).inputs.get? id =
          (v.readings s).reverse.findSome? fun r => if r.1.id = id then r.2 else none) ∧
        ((v.after s).cuts = v.state.cuts → ∀ id, (v.call s).inputs.get? id =
          if id ∈ v.node.dataInputs.map Pin.id then (s.readPin v.node id (v.after s)).1
          else none) := by
  have htallied : Tallied s ((s.start entry trigger).deeds d) st :=
    ((chronicle_tallied s).start entry trigger).play d st h
  refine ⟨_, rfl, htallied.executed.symm, ?_, htallied.calls, htallied.missing, ?_⟩
  · have hcalls := congrArg (List.map Prod.fst) htallied.calls
    rw [List.map_reverse, List.map_filterMap, List.map_map] at hcalls
    simp only [Deed.moment?_map] at hcalls
    rw [Activity.play_calls_eq_deeds]
    exact hcalls
  · intro v hv
    exact ⟨v.readings_pins s, v.inputs_eq_found s, Arrival.inputs_of_uncut (htallied.idle v hv)⟩

/-- Two guests are greeted, each time in a tone that nobody gave and that is asked for twice. -/
def welcome : Setup where
  graph := .ofParts
    [{ Node.bare "start" "event-ready" with execOutputs := [.exec "out"] },
      { Node.bare "guests" "flow-for-each" with
        execInputs := [.exec "in"]
        execOutputs := [.exec "loopBody"]
        dataInputs := [.required "array" .array]
        dataOutputs := [.required "element" .any]
        config := [("array", .array [.string "Ann", .string "Bob"])] },
      { Graph.sayNode with
        dataInputs :=
          [.required "text" .string, .required "tone" .string, .required "tone" .string] }]
    [⟨none, "start", "out", "guests", "in", .data⟩,
      ⟨none, "guests", "loopBody", "say", "in", .data⟩,
      ⟨none, "guests", "element", "say", "text", .data⟩]
  limits := ⟨2, .zero⟩
  dice _ := 0

theorem run_calls_executed_actions_welcome :
    ∃ st, ((welcome.start "start" []).play .silent).result = .ok st ∧
      st.executed = ["start", "guests", "say", "say"] ∧
      st.warnings = List.replicate 4 (.missingRequiredInput "say" "tone") ∧
      ((welcome.start "start" []).play .silent).calls.map (·.call.inputs) =
        [[("text", .string "Ann")], [("text", .string "Bob")]] ∧
      ∃ arrivals : List Arrival,
        arrivals = welcome.graph.arrivals ((welcome.start "start" []).deeds .silent) ∧
        arrivals.map (·.node.id) = st.executed.filter (welcome.graph.hasKind .action) ∧
        ((welcome.start "start" []).play .silent).calls.map TimedCall.call =
          arrivals.map (·.call welcome) ∧
        st.warnings.filter Warning.isMissing = arrivals.flatMap (·.reports welcome) := by
  obtain ⟨arrivals, harrivals, hexecuted, hcalls, -, hmissing, -⟩ :=
    run_calls_executed_actions welcome "start" [] .silent _ rfl
  exact ⟨_, rfl, rfl, rfl, rfl, arrivals, harrivals, hexecuted, hcalls, hmissing⟩

/-- The text is put together of what the tone is, one level too deep to be found there. -/
def nearsighted : Setup where
  graph := .ofParts
    [{ Node.bare "start" "event-ready" with execOutputs := [.exec "out"] },
      { Graph.joinNode with id := "near" },
      { Graph.joinNode with id := "far" },
      { Node.bare "mark" "constant-string" with
        dataOutputs := [.required "value" .string]
        config := [("value", .string "hi")] },
      { Graph.sayNode with dataInputs := [.required "text" .string, .required "tone" .string] }]
    [⟨none, "start", "out", "say", "in", .data⟩, ⟨none, "mark", "value", "near", "a", .data⟩,
      ⟨none, "near", "result", "far", "a", .data⟩, ⟨none, "far", "result", "say", "text", .data⟩,
      ⟨none, "near", "result", "say", "tone", .data⟩]
  limits := ⟨1, .zero⟩
  dice _ := 0

/-- Where a reading is cut off, a call may tell less than its inputs have when it is made: what the
    text lacks is memoized as soon as the tone is read. -/
theorem call_tells_less_of_cut :
    ∃ st, ((nearsighted.start "start" []).play .silent).result = .ok st ∧
      ∃ v ∈ nearsighted.graph.arrivals ((nearsighted.start "start" []).deeds .silent),
        v.state.cuts < (v.after nearsighted).cuts ∧
        (v.call nearsighted).inputs = [("text", .string ""), ("tone", .string "hi")] ∧
        (nearsighted.readPin v.node "text" (v.after nearsighted)).1 = some (.string "hi") :=
  ⟨_, rfl, _, List.mem_singleton.2 rfl, by decide, rfl, rfl⟩

end Setup

end PinFlow
