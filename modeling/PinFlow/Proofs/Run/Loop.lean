import PinFlow.Proofs.Reading.Report
import PinFlow.Proofs.Run.Crossing
import PinFlow.Proofs.Run.Failure
import PinFlow.Proofs.Run.Production

set_option autoImplicit false

/-!
# What a loop does

A for-each node goes over the elements that it reads when control enters it. `LoopHistory` says what
it does: for each element, in order, it traverses the edges of its body with the element and its
index for its outputs, and then it traverses the edges of `completed`. What is done behind these
edges is done at the ends of longer paths and changes nothing in this: neither new outputs where the
elements came from, nor control that enters the same node again. A refused call ends the loop where
it is.
-/

namespace PinFlow

namespace Deed

def refused : Deed → Bool
  | .called _ _ (.error _) => true
  | _ => false

end Deed

/-- Of these deeds the given ones were done at the end of the path, in order, and all others at the
    ends of longer ones. -/
structure Owns (path : List PinKey) (own deeds : List Deed) : Prop where
  own : (deeds.filter fun deed => deed.state.active == path) = own
  behind : ∀ deed ∈ deeds, deed.state.active = path ∨ path.length < deed.state.active.length

namespace Owns

variable {path : List PinKey} {own own' deeds deeds' : List Deed}

theorem nil (path : List PinKey) : Owns path [] [] := ⟨rfl, List.forall_mem_nil _⟩

theorem append (h : Owns path own deeds) (h' : Owns path own' deeds') :
    Owns path (own ++ own') (deeds ++ deeds') where
  own := by rw [List.filter_append, h.own, h'.own]
  behind := List.forall_mem_append.2 ⟨h.behind, h'.behind⟩

theorem single {deed : Deed} (h : deed.state.active = path) : Owns path [deed] [deed] where
  own := by simp [h]
  behind := List.forall_mem_singleton.2 (.inl h)

theorem of_longer (h : ∀ deed ∈ deeds, path.length + 1 ≤ deed.state.active.length) :
    Owns path [] deeds where
  own := by
    rw [List.filter_eq_nil_iff]
    intro deed hdeed heq
    have hlonger := h deed hdeed
    rw [beq_iff_eq.1 heq] at hlonger
    omega
  behind deed hdeed := .inr (h deed hdeed)

end Owns

/-- Nothing was refused, or the refused call is the last thing that was done and tells the error. -/
def EndsAt (new : List Deed) : Progress → Prop
  | .going _ => ∀ deed ∈ new, deed.refused = false
  | .failed _ error => ∃ call st cause earlier, new = .called call st (.error cause) :: earlier ∧
      error = .actionFailed call.node call.definition cause ∧
      ∀ deed ∈ earlier, deed.refused = false

theorem EndsAt.after {new : List Deed} {p : Progress} (h : EndsAt new p) {deed : Deed}
    (hdeed : deed.refused = false) : EndsAt (new ++ [deed]) p := by
  cases p with
  | going st => exact List.forall_mem_append.2 ⟨h, List.forall_mem_singleton.2 hdeed⟩
  | failed st error =>
    obtain ⟨call, st', cause, earlier, rfl, herror, hearlier⟩ := h
    refine ⟨call, st', cause, earlier ++ [deed], rfl, herror, ?_⟩
    exact List.forall_mem_append.2 ⟨hearlier, List.forall_mem_singleton.2 hdeed⟩

theorem EndsAt.going_of_accepted {new : List Deed} {p : Progress} (h : EndsAt new p)
    (haccepted : ∀ deed ∈ new, deed.refused = false) : ∃ st, p = .going st := by
  cases p with
  | going st => exact ⟨st, rfl⟩
  | failed st error =>
    obtain ⟨call, st', cause, earlier, rfl, -, -⟩ := h
    exact nomatch haccepted _ List.mem_cons_self

namespace Activity

theorem Recounts.endsAt_after {a : Activity Progress} {past : List Deed} {deed : Deed}
    (hdeed : deed.refused = false)
    (h : a.Recounts (fun _ _ => True)
      (fun past' p => ∃ new, past' = new ++ deed :: past ∧ EndsAt new p) (deed :: past)) :
    a.Recounts (fun _ _ => True) (fun past' p => ∃ new, past' = new ++ past ∧ EndsAt new p)
      (deed :: past) := by
  refine h.mono (fun _ _ h => h) ?_
  rintro past' p ⟨new, rfl, hends⟩
  exact ⟨new ++ [deed], by simp, hends.after hdeed⟩

theorem FailsFast.recounts {g : Graph} {a : Activity Progress}
    (h : a.FailsFast g Progress.outcome) (past : List Deed) :
    a.Recounts (fun _ _ => True) (fun past' p => ∃ new, past' = new ++ past ∧ EndsAt new p)
      past := by
  induction a generalizing past with
  | done result =>
    obtain ⟨st, hst⟩ := h
    cases result with
    | going st => exact ⟨[], rfl, List.forall_mem_nil _⟩
    | failed st error => cases hst
  | noting note st rest ih => exact ⟨trivial, .endsAt_after rfl (ih () h _)⟩
  | waiting delay st resume ih => exact ⟨trivial, ih () h past⟩
  | calling call st resume ih =>
    obtain ⟨-, hrefused, haccepted⟩ := h
    refine ⟨trivial, fun reply => ?_⟩
    cases reply with
    | ok outputs => exact .endsAt_after rfl (ih _ (haccepted outputs) _)
    | error cause =>
      obtain ⟨result, hresume, hresult⟩ := hrefused cause
      rw [hresume]
      cases result with
      | going st' => cases hresult
      | failed st' error =>
        refine ⟨[_], rfl, call, st, cause, [], rfl, ?_, List.forall_mem_nil _⟩
        exact Except.error.inj hresult

end Activity

namespace Setup

variable {s : Setup} {node : Node} {path : List PinKey}

theorem phases_sane (hnode : s.graph.node? node.id = some node) (path : List PinKey) :
    Phases s (fun _ _ => True) (fun _ st => Sane s.graph st) path node
      fun _ _ st => Sane s.graph st where
  point _ _ _ _ := trivial
  act _ _ _ _ hst _ hact := hact.sane hnode hst
  refused _ _ _ _ _ hst _ _ := hst
  answered _ _ _ _ outputs hst _ _ := hst.setOutputs node.id outputs
  fires exit _ _ _ hst _ := by
    cases exit with
    | plain handle => exact hst
    | iteration element index => exact hst.setOutputs node.id _
  back _ _ _ _ _ _ _ _ hcarried := hcarried.holds
  done _ _ hst := hst

theorem chronicle_sane (s : Setup) :
    Chronicle s (fun _ _ => True) fun _ st => Sane s.graph st where
  point _ _ _ := trivial
  guard _ st active hst := hst.records active st.executed st.warnings
  skip _ st _ _ hst := hst.records st.active st.executed _
  cut _ st _ _ hst := hst.records st.active st.executed _
  node path node _ hnode hfire := by
    refine (phases_sane hnode path).execute hfire hnode ?_ ?_
    · exact fun _ st hst => hst.records st.active st.executed _
    · exact fun _ _ st _ hst => hst.records st.active _ st.warnings
  idle _ trigger _ _ := (Sane.fresh s.graph trigger).records [] _ _
  fires _ _ trigger _ _ := (Sane.fresh s.graph trigger).records [] _ []

/-- What is behind an output is what control does with its edges, and it leaves the node to itself:
    it is done at the ends of longer paths, and control comes back to the end of this one. -/
theorem fireFrom_returns (room depth : Nat) (id : NodeId) (handle : Handle) {st : RunState}
    (hst : Sane s.graph st) (hrest : st.AtRest path) {deeds : List Deed} {p : Progress}
    (h : (s.fireFrom room depth id handle st).Does deeds p) :
    ∃ behind, deeds = Departure.deeds id handle ⟨st, behind, p⟩ ∧
      s.Departs room depth id handle ⟨st, behind, p⟩ ∧
      Owns path [.noted (.firing id handle) st] deeds ∧
      Sane s.graph p.state ∧ p.state.AtRest path := by
  obtain ⟨behind, rfl, hdeparts⟩ := fireFrom_departs room depth id handle h
  have hcarried := ((chronicle_sane s).fireFrom room depth path id handle [] st hst hrest).of_does h
  obtain ⟨new, hnew, hlonger⟩ := hcarried.since
  rw [List.append_nil, Departure.deeds, List.reverse_cons] at hnew
  obtain rfl : behind.reverse = new := List.append_cancel_right hnew
  have hbehind : Owns path [] behind :=
    .of_longer fun deed hdeed => hlonger deed (List.mem_reverse.2 hdeed)
  have hfiring : Owns path [.noted (.firing id handle) st] [.noted (.firing id handle) st] :=
    .single hrest.active
  exact ⟨behind, rfl, hdeparts, hfiring.append hbehind, hcarried.holds, hcarried.atRest⟩

/-- The loop has the element and its index for its outputs, and so has every input that these feed,
    whatever was read before. -/
structure Presents (s : Setup) (id : NodeId) (item : Value × Nat) (st : RunState) : Prop where
  outputs : st.outputs.get? id = some (iterationOutputs item.1 item.2)
  element : ∀ reader handle edge, s.graph.node? reader.id = some reader →
    s.graph.edgeFeeding? reader.id handle = some edge → edge.source = id →
    edge.sourceHandle = "element" → (s.readPin reader handle st).1 = some item.1
  index : ∀ reader handle edge, s.graph.node? reader.id = some reader →
    s.graph.edgeFeeding? reader.id handle = some edge → edge.source = id →
    edge.sourceHandle = "index" → (s.readPin reader handle st).1 = some (.int item.2)

theorem readPin_of_loop {st : RunState} (hst : Sane s.graph st)
    (hnode : s.graph.node? node.id = some node) (hkind : node.kind? = some (.flow .forEach))
    {reader : Node} {handle : Handle} {edge : Edge}
    (hreader : s.graph.node? reader.id = some reader)
    (hedge : s.graph.edgeFeeding? reader.id handle = some edge) (hsource : edge.source = node.id) :
    (s.readPin reader handle st).1 = st.output? node.id edge.sourceHandle := by
  have horigin : s.graph.origin (reader.id, handle) = .output node.id edge.sourceHandle := by
    simp only [Graph.origin, hedge, hsource, hnode, Origin.ofOutput, hkind]
  have hunfed : ∀ source kind, s.graph.origin (reader.id, handle) ≠ .computed source kind := by
    intro source kind h
    cases horigin.symm.trans h
  rw [readPin_of_unfed hst hreader hunfed,
    s.graph.reference_eq _ _ (Graph.determined_of_unfed hunfed).acyclic, horigin]

theorem presents_of_setOutputs {st : RunState} (hst : Sane s.graph st)
    (hnode : s.graph.node? node.id = some node) (hkind : node.kind? = some (.flow .forEach))
    (item : Value × Nat) :
    s.Presents node.id item (st.setOutputs node.id (iterationOutputs item.1 item.2)) := by
  have hready := hst.setOutputs node.id (iterationOutputs item.1 item.2)
  have houtputs : (st.setOutputs node.id (iterationOutputs item.1 item.2)).outputs.get? node.id =
      some (iterationOutputs item.1 item.2) := by
    rw [RunState.setOutputs, Table.get?_insert, if_pos rfl]
  refine ⟨houtputs, ?_, ?_⟩
  · intro reader handle edge hreader hedge hsource hhandle
    rw [readPin_of_loop hready hnode hkind hreader hedge hsource, hhandle, RunState.output?,
      houtputs]
    rfl
  · intro reader handle edge hreader hedge hsource hhandle
    rw [readPin_of_loop hready hnode hkind hreader hedge hsource, hhandle, RunState.output?,
      houtputs]
    rfl

/-- Iterations with the elements, one after another: the first begins in the given state, and each
    other where control came back from the one before. In each the edges of the body are traversed
    with the element and its index for the outputs of the node. -/
inductive Laps (s : Setup) (room depth : Nat) (node : Node) :
    List (Value × Nat) → RunState → List Departure → Progress → Prop where
  | nil (st : RunState) : Laps s room depth node [] st [] (.going st)
  | cons {item : Value × Nat} {rest : List (Value × Nat)} {st st' : RunState} {lap : Departure}
      {laps : List Departure} {p : Progress} :
      lap.start = st.setOutputs node.id (iterationOutputs item.1 item.2) →
      s.Departs room depth node.id "loopBody" lap → lap.back = .going st' →
      Laps s room depth node rest st' laps p →
      Laps s room depth node (item :: rest) st (lap :: laps) p
  | fails {item : Value × Nat} {rest : List (Value × Nat)} {st st' : RunState} {lap : Departure}
      {error : RunError} :
      lap.start = st.setOutputs node.id (iterationOutputs item.1 item.2) →
      s.Departs room depth node.id "loopBody" lap → lap.back = .failed st' error →
      Laps s room depth node (item :: rest) st [lap] (.failed st' error)

namespace Laps

variable {room depth : Nat} {items : List (Value × Nat)} {st st' : RunState}
  {laps : List Departure} {p : Progress}

theorem length_of_going (h : s.Laps room depth node items st laps (.going st')) :
    laps.length = items.length := by
  generalize hp : Progress.going st' = p at h
  induction h with
  | nil st => rfl
  | cons _ _ _ _ ih => rw [List.length_cons, List.length_cons, ih hp]
  | fails _ _ _ => cases hp

theorem begun_of_failed {error : RunError}
    (h : s.Laps room depth node items st laps (.failed st' error)) : laps ≠ [] := by
  cases h with
  | cons _ _ _ _ => exact List.cons_ne_nil _ _
  | fails _ _ _ => exact List.cons_ne_nil _ _

theorem idle (h : s.Laps room depth node items st [] p) : p = .going st := by
  cases h with
  | nil st => rfl

theorem first_warnings (h : s.Laps room depth node items st laps p) :
    ∀ lap ∈ laps.head?, lap.start.warnings = st.warnings := by
  cases h with
  | nil st => exact fun lap hlap => nomatch hlap
  | cons hstart _ _ _ =>
    rintro _ ⟨⟩
    rw [hstart]
    rfl
  | fails hstart _ _ =>
    rintro _ ⟨⟩
    rw [hstart]
    rfl

end Laps

/-- Iterations and what holds along them: their outputs reach every reader, nothing else is done at
    the end of the path, and control comes back to it. -/
structure Lapped (s : Setup) (room depth : Nat) (node : Node) (path : List PinKey)
    (items : List (Value × Nat)) (st : RunState) (laps : List Departure) (deeds : List Deed)
    (p : Progress) : Prop where
  runs : s.Laps room depth node items st laps p
  elements : List.Forall₂ (fun item lap => s.Presents node.id item lap.start)
    (items.take laps.length) laps
  whole : deeds = laps.flatMap (Departure.deeds node.id "loopBody")
  owns : Owns path (laps.map fun lap => .noted (.firing node.id "loopBody") lap.start) deeds
  sane : Sane s.graph p.state
  atRest : p.state.AtRest path

theorem each_iterate_laps (hnode : s.graph.node? node.id = some node)
    (hkind : node.kind? = some (.flow .forEach)) (room depth : Nat) (items : List (Value × Nat))
    {st : RunState} (hst : Sane s.graph st) (hrest : st.AtRest path) {deeds : List Deed}
    {p : Progress}
    (h : (Path.each (iterate (s.fireFrom room depth node.id) node) items st).Does deeds p) :
    ∃ laps, s.Lapped room depth node path items st laps deeds p := by
  induction items generalizing st deeds with
  | nil =>
    cases h
    exact ⟨[], .nil st, .nil, rfl, .nil path, hst, hrest⟩
  | cons item rest ih =>
    have hpresents := presents_of_setOutputs hst hnode hkind item
    have hready := hst.setOutputs node.id (iterationOutputs item.1 item.2)
    have hatRest : (st.setOutputs node.id (iterationOutputs item.1 item.2)).AtRest path :=
      ⟨hrest.resolving, hrest.active⟩
    rcases h.of_andThen with ⟨st', error, rfl, hbody⟩ | ⟨before, st', after, rfl, hbody, hrest⟩
    · obtain ⟨behind, rfl, hdeparts, howns, hsane, hback⟩ :=
        fireFrom_returns room depth node.id "loopBody" hready hatRest hbody
      exact ⟨[⟨_, behind, _⟩], .fails rfl hdeparts rfl, .cons hpresents .nil,
        (List.append_nil _).symm, howns, hsane, hback⟩
    · obtain ⟨behind, rfl, hdeparts, howns, hsane, hback⟩ :=
        fireFrom_returns room depth node.id "loopBody" hready hatRest hbody
      obtain ⟨laps, hlaps⟩ := ih hsane hback hrest
      exact ⟨⟨_, behind, _⟩ :: laps, .cons rfl hdeparts rfl hlaps.runs,
        .cons hpresents hlaps.elements, by rw [hlaps.whole]; rfl, howns.append hlaps.owns,
        hlaps.sane, hlaps.atRest⟩

def loopArray? (s : Setup) (node : Node) (st : RunState) : Option (List Value) :=
  (s.readPin node "array" st).1.bind Value.array?

def loopStart (s : Setup) (node : Node) (st : RunState) : RunState :=
  if (s.loopArray? node st).isSome then (s.readPin node "array" st).2
  else (s.readPin node "array" st).2.warn (.notAnArray node.id)

theorem loopItems_eq (node : Node) (st : RunState) :
    s.loopItems node st = (s.loopArray? node st).getD [] := by
  unfold loopItems loopArray?
  cases (s.readPin node "array" st).1 with
  | none => rfl
  | some value => cases value <;> rfl

theorem forEach_eq (fire : Firing) (node : Node) (st : RunState) :
    s.forEach fire node st =
      Path.andThen
        (Path.each (iterate fire node) (s.loopItems node st).zipIdx (s.loopStart node st))
        (fire "completed") := by
  rw [loopItems_eq]
  unfold forEach loopStart loopArray?
  obtain ⟨value, st'⟩ := s.readPin node "array" st
  cases value with
  | none => rfl
  | some value => cases value <;> rfl

theorem readPin_notAnArray {st : RunState} (hst : st.resolving = []) (node : Node)
    (handle : Handle) (id : NodeId) :
    (s.readPin node handle st).2.warnings.count (.notAnArray id) =
      st.warnings.count (.notAnArray id) := by
  obtain ⟨reported, hwarnings, hreports⟩ := readPin_reporting (s := s) hst node handle
  have hnone : reported.count (.notAnArray id) = 0 :=
    List.count_eq_zero.2 fun hmem => nomatch hreports _ hmem
  rw [hwarnings, List.count_append, hnone, Nat.add_zero]

theorem loopStart_keeps (hnode : s.graph.node? node.id = some node) {entry : RunState}
    (hst : Sane s.graph entry) (hrest : entry.AtRest path) :
    Sane s.graph (s.loopStart node entry) ∧ (s.loopStart node entry).AtRest path := by
  have hsane : Sane s.graph (s.readPin node "array" entry).2 :=
    take_sane hst (.read node "array") hnode
  have hatRest : (s.readPin node "array" entry).2.AtRest path :=
    hrest.frame (readPinAt_contract node "array" entry).advance.frame
  unfold loopStart
  split
  · exact ⟨hsane, hatRest⟩
  · exact ⟨hsane.records _ _ _, hatRest.resolving, hatRest.active⟩

theorem loopStart_notAnArray {entry : RunState} (hst : entry.resolving = []) (node : Node) :
    (s.loopStart node entry).warnings.count (.notAnArray node.id) =
      entry.warnings.count (.notAnArray node.id) +
        if (s.loopArray? node entry).isSome then 0 else 1 := by
  rw [← readPin_notAnArray (s := s) hst node "array" node.id]
  unfold loopStart
  split
  · rfl
  · simp [RunState.warn]

/-- What a for-each node does from the state in which control entered it: the iterations with the
    elements that it reads there, and then the edges of `completed`, unless an iteration fails. -/
inductive LoopRun (s : Setup) (room depth : Nat) (node : Node) (entry : RunState) :
    List Departure → Option Departure → Progress → Prop where
  | completes {laps : List Departure} {last : Departure} :
      s.Laps room depth node (s.loopItems node entry).zipIdx (s.loopStart node entry) laps
        (.going last.start) →
      s.Departs room depth node.id "completed" last →
      LoopRun s room depth node entry laps (some last) last.back
  | breaks {laps : List Departure} {st : RunState} {error : RunError} :
      s.Laps room depth node (s.loopItems node entry).zipIdx (s.loopStart node entry) laps
        (.failed st error) →
      LoopRun s room depth node entry laps none (.failed st error)

namespace LoopRun

variable {room depth : Nat} {entry : RunState} {laps : List Departure} {finish : Option Departure}
  {p : Progress}

theorem length_of_finish (h : s.LoopRun room depth node entry laps finish p)
    (hfinish : finish ≠ none) : laps.length = (s.loopItems node entry).length := by
  cases h with
  | completes hlaps _ => rw [hlaps.length_of_going, List.length_zipIdx]
  | breaks _ => exact absurd rfl hfinish

theorem failed_of_unfinished (h : s.LoopRun room depth node entry laps none p) :
    laps ≠ [] ∧ ∃ st error, p = .failed st error := by
  cases h with
  | @breaks st error hlaps => exact ⟨hlaps.begun_of_failed, st, error, rfl⟩

theorem finish_of_accepted {new : List Deed} (h : s.LoopRun room depth node entry laps finish p)
    (hends : EndsAt new p) (haccepted : ∀ deed ∈ new, deed.refused = false) : finish ≠ none := by
  rintro rfl
  obtain ⟨st, rfl⟩ := hends.going_of_accepted haccepted
  obtain ⟨-, st', error, hfailed⟩ := h.failed_of_unfinished
  cases hfailed

theorem first_warnings (h : s.LoopRun room depth node entry laps finish p) :
    ∀ first ∈ (laps ++ finish.toList).head?,
      first.start.warnings = (s.loopStart node entry).warnings := by
  cases h with
  | @completes last hlaps _ =>
    cases laps with
    | cons lap rest => exact hlaps.first_warnings
    | nil =>
      -- There was nothing to go over, and the node leaves as it has read the array.
      injection hlaps.idle with hstart
      rintro _ ⟨⟩
      rw [hstart]
  | breaks hlaps =>
    rw [Option.toList_none, List.append_nil]
    exact hlaps.first_warnings

theorem of_not_array (h : s.LoopRun room depth node entry laps finish p)
    (harray : s.loopArray? node entry = none) : laps = [] ∧ ∃ last, finish = some last := by
  have hitems : s.loopItems node entry = [] := by rw [loopItems_eq, harray, Option.getD_none]
  cases h with
  | @completes last hlaps _ =>
    have hlength := hlaps.length_of_going
    rw [hitems, List.zipIdx_nil, List.length_nil, List.length_eq_zero_iff] at hlength
    exact ⟨hlength, last, rfl⟩
  | breaks hlaps =>
    rw [hitems] at hlaps
    cases hlaps

end LoopRun

/-- What a for-each node does from the state in which control entered it, with its departures to the
    body and to what is after the loop, all that was done meanwhile, in order, and the end. -/
structure LoopHistory (s : Setup) (room depth : Nat) (node : Node) (entry : RunState)
    (laps : List Departure) (finish : Option Departure) (deeds : List Deed) (p : Progress) :
    Prop where
  runs : s.LoopRun room depth node entry laps finish p
  elements : List.Forall₂ (fun item lap => s.Presents node.id item lap.start)
    ((s.loopItems node entry).zipIdx.take laps.length) laps
  completed : finish ≠ none → laps.length = (s.loopItems node entry).length
  interrupted : finish = none → laps ≠ [] ∧ ∃ st error, p = .failed st error
  /-- What is no array is reported once before the node leaves, and an array is not. -/
  reported : ∀ first ∈ (laps ++ finish.toList).head?,
    first.start.warnings.count (.notAnArray node.id) =
      entry.warnings.count (.notAnArray node.id) +
        if (s.loopArray? node entry).isSome then 0 else 1
  whole : deeds = .noted (.entered node.id) entry ::
    (laps.flatMap (Departure.deeds node.id "loopBody") ++
      finish.toList.flatMap (Departure.deeds node.id "completed"))
  /-- The node itself is entered, begins the iterations one after another, and leaves; all else is
      done behind these outputs. -/
  owns : Owns entry.active (.noted (.entered node.id) entry ::
    ((laps.map fun lap => .noted (.firing node.id "loopBody") lap.start) ++
      finish.toList.map fun last => .noted (.firing node.id "completed") last.start)) deeds
  /-- After a refused call no further iteration begins, and the node does not leave any more. -/
  ends : EndsAt deeds.reverse p
  accepted : (∀ deed ∈ deeds, deed.refused = false) →
    laps.length = (s.loopItems node entry).length ∧ finish ≠ none
  notArray : s.loopArray? node entry = none → laps = [] ∧ ∃ last, finish = some last ∧
    last.start.warnings.count (.notAnArray node.id) =
      entry.warnings.count (.notAnArray node.id) + 1

theorem forEach_course (hnode : s.graph.node? node.id = some node)
    (hkind : node.kind? = some (.flow .forEach)) (room depth : Nat) {entry : RunState}
    (hst : Sane s.graph entry) (hrest : entry.AtRest path) {deeds : List Deed} {p : Progress}
    (h : (s.forEach (s.fireFrom room depth node.id) node entry).Does deeds p) :
    ∃ laps finish, s.LoopRun room depth node entry laps finish p ∧
      List.Forall₂ (fun item lap => s.Presents node.id item lap.start)
        ((s.loopItems node entry).zipIdx.take laps.length) laps ∧
      deeds = laps.flatMap (Departure.deeds node.id "loopBody") ++
        finish.toList.flatMap (Departure.deeds node.id "completed") ∧
      Owns path ((laps.map fun lap => .noted (.firing node.id "loopBody") lap.start) ++
        finish.toList.map fun last => .noted (.firing node.id "completed") last.start) deeds := by
  obtain ⟨hsane, hatRest⟩ := loopStart_keeps hnode hst hrest
  rw [forEach_eq] at h
  rcases h.of_andThen with ⟨st', error, rfl, hbody⟩ | ⟨before, st', after, rfl, hbody, hexit⟩
  · obtain ⟨laps, hlaps⟩ := each_iterate_laps hnode hkind room depth _ hsane hatRest hbody
    refine ⟨laps, none, .breaks hlaps.runs, hlaps.elements, ?_, ?_⟩
    · rw [Option.toList_none, List.flatMap_nil, List.append_nil, hlaps.whole]
    · rw [Option.toList_none, List.map_nil, List.append_nil]
      exact hlaps.owns
  · obtain ⟨laps, hlaps⟩ := each_iterate_laps hnode hkind room depth _ hsane hatRest hbody
    have hsane' : Sane s.graph st' := hlaps.sane
    obtain ⟨behind, rfl, hdeparts, howns, -, -⟩ :=
      fireFrom_returns room depth node.id "completed" hsane' hlaps.atRest hexit
    refine ⟨laps, some ⟨st', behind, p⟩, .completes hlaps.runs hdeparts, hlaps.elements, ?_,
      hlaps.owns.append howns⟩
    rw [hlaps.whole, Option.toList_some, List.flatMap_cons, List.flatMap_nil, List.append_nil]

theorem execute_forEach (hkind : node.kind? = some (.flow .forEach)) (fire : Firing)
    (st : RunState) :
    s.execute fire node st = .noting (.entered node.id) (st.markExecuted node.id)
      fun _ => s.forEach fire node (st.markExecuted node.id) := by
  simp only [execute, hkind, steer]

/-- In whatever state a for-each node is executed, and whatever the replies are: for each element of
    the array that it reads there, in order, it traverses the edges of the body, and then, after
    control has come back from the last of these traversals, the edges of `completed`, once. Only a
    refused call keeps it from that. -/
theorem forEach_goes_over_elements {s : Setup} {st : RunState} (hst : s.Reached st) {node : Node}
    (hnode : s.graph.node? node.id = some node) (hkind : node.kind? = some (.flow .forEach))
    (room depth : Nat) (past : List Deed) :
    (s.execute (s.fireFrom room depth node.id) node st).Recounts (fun _ _ => True)
      (fun past' p => ∃ deeds laps finish, past' = deeds.reverse ++ past ∧
        s.LoopHistory room depth node (st.markExecuted node.id) laps finish deeds p) past := by
  have hentry : Sane s.graph (st.markExecuted node.id) :=
    hst.sane.records st.active _ st.warnings
  have hfast : (s.execute (s.fireFrom room depth node.id) node st).FailsFast s.graph
      Progress.outcome :=
    (rules_failsFast s).execute hnode (fireFrom_failsFast room depth node.id) st trivial
  refine (Activity.recounts_does _ past).mono (fun _ _ h => h) ?_
  rintro past' p ⟨deeds, rfl, hdoes⟩
  obtain ⟨new, hnew, hends⟩ := (hfast.recounts []).of_does hdoes
  rw [List.append_nil, List.append_nil] at hnew
  subst hnew
  rw [execute_forEach hkind] at hdoes
  cases hdoes with
  | noting hdoes =>
    obtain ⟨laps, finish, hruns, helements, rfl, howns⟩ :=
      forEach_course hnode hkind room depth hentry ⟨hentry.resolving, rfl⟩ hdoes
    have hentered : Owns st.active [.noted (.entered node.id) (st.markExecuted node.id)]
        [.noted (.entered node.id) (st.markExecuted node.id)] := .single rfl
    have hreported : ∀ first ∈ (laps ++ finish.toList).head?,
        first.start.warnings.count (.notAnArray node.id) =
          (st.markExecuted node.id).warnings.count (.notAnArray node.id) +
            if (s.loopArray? node (st.markExecuted node.id)).isSome then 0 else 1 := by
      intro first hfirst
      rw [hruns.first_warnings first hfirst, loopStart_notAnArray hentry.resolving]
    refine ⟨_, laps, finish, rfl, hruns, helements, hruns.length_of_finish, ?_, hreported, rfl,
      hentered.append howns, hends, fun haccepted => ?_, fun harray => ?_⟩
    · rintro rfl
      exact hruns.failed_of_unfinished
    · have hfinish := hruns.finish_of_accepted hends fun deed hdeed =>
        haccepted deed (List.mem_reverse.1 hdeed)
      exact ⟨hruns.length_of_finish hfinish, hfinish⟩
    · obtain ⟨rfl, last, rfl⟩ := hruns.of_not_array harray
      have hcount := hreported last rfl
      rw [harray] at hcount
      exact ⟨rfl, last, rfl, hcount⟩

/-- A loop over what was fetched, whose body says the element, fetches anew and enters the loop
    again. -/
def errands : Setup where
  graph := .ofParts
    [{ Node.bare "start" "event-ready" with execOutputs := [.exec "out"] },
      { Node.bare "fetch" "action-fetch" with
        execInputs := [.exec "in", .exec "more"]
        execOutputs := [.exec "out"]
        dataOutputs := [.required "items" .array] },
      { Node.bare "loop" "flow-for-each" with
        execInputs := [.exec "in", .exec "again"]
        execOutputs := [.exec "loopBody", .exec "completed"]
        dataInputs := [.required "array" .array]
        dataOutputs := [.required "element" .any] },
      Graph.sayNode, { Node.bare "bye" "action-bye" with execInputs := [.exec "in"] }]
    [⟨none, "start", "out", "fetch", "in", .data⟩, ⟨none, "fetch", "out", "loop", "in", .data⟩,
      ⟨none, "fetch", "items", "loop", "array", .data⟩,
      ⟨none, "loop", "loopBody", "say", "in", .data⟩,
      ⟨none, "loop", "loopBody", "fetch", "more", .data⟩,
      ⟨none, "loop", "loopBody", "loop", "again", .data⟩,
      ⟨none, "loop", "completed", "bye", "in", .data⟩,
      ⟨none, "loop", "element", "say", "text", .data⟩]
  limits := ⟨4, .zero⟩
  dice _ := 0

def errandsLoop : Node := (errands.graph.node? "loop").get rfl

def errandsEntered : RunState :=
  errands.takeAll (RunState.fresh [])
    [.mark "start", .enter ("fetch", "in"), .mark "fetch",
      .store "fetch" [("items", .array [.string "a", .string "b"])], .enter ("loop", "in")]

theorem errandsEntered_reached : errands.Reached errandsEntered := by
  refine ⟨[], _, ?_, rfl⟩
  simp only [List.mem_cons, List.not_mem_nil, or_false]
  rintro step (rfl | rfl | rfl | rfl | rfl) <;> trivial

def restock : Dispatcher := fun _ call =>
  if call.node = "fetch" then .ok [("items", .array [.string "z"])] else .ok []

/-- Both elements have their turn, though the array is another after the first call of `fetch` and
    the loop goes over that one twice in between. -/
theorem forEach_goes_over_elements_errands :
    errands.Reached errandsEntered ∧
      (errands.graph.edgesLeaving "loop" "loopBody").map Edge.input =
        [("say", "in"), ("fetch", "more"), ("loop", "again")] ∧
      ∃ deeds laps last st,
        (errands.execute (errands.fireFrom 2 2 "loop") errandsLoop errandsEntered).deeds restock =
          deeds.reverse ∧
        errands.LoopHistory 2 2 errandsLoop (errandsEntered.markExecuted "loop") laps (some last)
          deeds (.going st) ∧
        laps.length = 2 ∧
        (deeds.filterMap Deed.call?).map (fun call => (call.node, call.inputs)) =
          [("say", [("text", .string "a")]), ("fetch", []),
            ("say", [("text", .string "z")]), ("fetch", []), ("bye", []),
            ("say", [("text", .string "b")]), ("fetch", []),
            ("say", [("text", .string "z")]), ("fetch", []), ("bye", []), ("bye", [])] := by
  obtain ⟨deeds, laps, finish, hdeeds, hhistory⟩ :=
    (@forEach_goes_over_elements errands errandsEntered errandsEntered_reached errandsLoop rfl rfl
      2 2 []).play restock
  rw [List.append_nil] at hdeeds
  obtain ⟨hall, hfinish⟩ := hhistory.accepted fun deed hdeed =>
    hhistory.ends deed (List.mem_reverse.2 hdeed)
  obtain ⟨last, rfl⟩ := Option.ne_none_iff_exists'.1 hfinish
  refine ⟨errandsEntered_reached, rfl, deeds, laps, last, _, hdeeds, hhistory, hall, ?_⟩
  rw [← List.reverse_reverse deeds, ← hdeeds]
  rfl

end Setup

end PinFlow
