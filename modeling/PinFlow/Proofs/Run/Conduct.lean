import PinFlow.Proofs.Run.Step
import PinFlow.Run.Traversal

set_option autoImplicit false

/-!
# What a node does when control reaches it

Whatever its kind, a node acts on the state, may call or wait, and leaves through some of its
outputs one after another. `Conducts` describes this for an arbitrary way of leaving the node, and
`execute_cases` is the only place where kinds are told apart: properties of runs are proved by
induction on `Conducts`.
-/

namespace PinFlow

namespace Activity

variable {α β γ : Type}

theorem bind_pure (a : Activity α) : a.bind .done = a := by
  induction a with
  | done x => rfl
  | noting note st rest ih =>
    rw [bind_noting]
    congr 1
    funext u
    exact ih u
  | calling call st resume ih =>
    rw [bind_calling]
    congr 1
    funext reply
    exact ih reply
  | waiting delay st resume ih =>
    rw [bind_waiting]
    congr 1
    funext u
    exact ih u

theorem bind_assoc (a : Activity α) (f : α → Activity β) (k : β → Activity γ) :
    (a.bind f).bind k = a.bind fun x => (f x).bind k := by
  induction a with
  | done x => rfl
  | noting note st rest ih =>
    simp only [bind_noting]
    congr 1
    funext u
    exact ih u
  | calling call st resume ih =>
    simp only [bind_calling]
    congr 1
    funext reply
    exact ih reply
  | waiting delay st resume ih =>
    simp only [bind_waiting]
    congr 1
    funext u
    exact ih u

end Activity

namespace Path

theorem andThen_skip (a : Activity Progress) : andThen a skip = a := by
  conv_rhs => rw [← Activity.bind_pure a]
  unfold andThen
  congr 1
  funext p
  cases p <;> rfl

theorem andThen_assoc (a : Activity Progress) (second third : Path) :
    andThen (andThen a second) third = andThen a fun st => andThen (second st) third := by
  unfold andThen
  rw [Activity.bind_assoc]
  congr 1
  funext p
  cases p <;> rfl

end Path

/-- A way out of a node: through an output, or into one more iteration of a loop. -/
inductive NodeExit where
  | plain (handle : Handle)
  | iteration (element : Value) (index : Nat)

namespace NodeExit

def handle : NodeExit → Handle
  | .plain handle => handle
  | .iteration _ _ => "loopBody"

def ready (node : NodeId) (st : RunState) : NodeExit → RunState
  | .plain _ => st
  | .iteration element index => st.setOutputs node (iterationOutputs element index)

end NodeExit

def switchOutputs : List Handle := ["0", "1", "2", "3", "4", "default"]

theorem switchOutput_mem (value : Option Value) : switchOutput value ∈ switchOutputs := by
  unfold switchOutput
  split
  · rename_i n _
    split
    · rename_i hcase
      obtain rfl | rfl | rfl | rfl | rfl : n = 0 ∨ n = 1 ∨ n = 2 ∨ n = 3 ∨ n = 4 := by omega
      all_goals decide
    · decide
  · decide

namespace Node

def defaultExits (n : Node) : List NodeExit :=
  (n.defaultOutput?.map fun pin => .plain pin.id).toList

/-- The sequences of exits that a node may take, by its kind. -/
def MayTake (n : Node) (exits : List NodeExit) : Prop :=
  match n.kind? with
  | none => False
  | some (.event _) => exits = n.defaultExits
  | some .action => exits = n.defaultExits
  | some (.pure _) => exits = []
  | some (.flow .branch) => exits = [] ∨ exits = [.plain "true"] ∨ exits = [.plain "false"]
  | some (.flow .switch) => ∃ handle ∈ switchOutputs, exits = [.plain handle]
  | some (.flow .sequence) => exits = [.plain "then1", .plain "then2", .plain "then3"]
  | some (.flow .forEach) => ∃ items : List Value,
      exits = items.zipIdx.map (fun item => .iteration item.1 item.2) ++ [.plain "completed"]
  | some (.flow .delay) => exits = n.defaultExits
  | some (.flow (.unknown _)) => exits = []

theorem MayTake.plain {n : Node} {exits : List NodeExit} (h : n.MayTake exits)
    (hkind : n.kind? ≠ some (.flow .forEach)) : ∀ exit ∈ exits, ∃ handle, exit = .plain handle := by
  have hdefault : ∀ exit ∈ n.defaultExits, ∃ handle, exit = .plain handle := by
    intro exit hexit
    obtain ⟨pin, -, rfl⟩ := Option.map_eq_some_iff.1 (Option.mem_toList.1 hexit)
    exact ⟨pin.id, rfl⟩
  unfold MayTake at h
  split at h
  · exact h.elim
  · exact h ▸ hdefault
  · exact h ▸ hdefault
  · simp [h]
  · rcases h with rfl | rfl | rfl <;> simp
  · obtain ⟨handle, -, rfl⟩ := h
    simp
  · simp [h]
  · rename_i hloop
    exact absurd hloop hkind
  · exact h ▸ hdefault
  · simp [h]

end Node

def Warning.isRemark : Warning → Bool
  | .unknownFlowKind _ _ => true
  | .unresolvedCondition _ => true
  | .notAnArray _ => true
  | .pureNodeOnExecPath _ => true
  | _ => false

/-- What a node does to the state between its exits. -/
inductive Acts (s : Setup) (node : Node) (st : RunState) : RunState → Prop where
  | read (handle : Handle) : Acts s node st (s.readPin node handle st).2
  | miss (pin : Pin) : node.kind? = some .action → pin ∈ node.dataInputs → pin.optional = false →
      (s.readPin node pin.id st).1 = none →
      Acts s node st ((s.readPin node pin.id st).2.warn (.missingRequiredInput node.id pin.id))
  | evaluate (kind : PureKind) : s.graph.Computes node kind →
      Acts s node st (s.evaluateEagerly node kind st).2
  | remark (w : Warning) : w.isRemark = true → Acts s node st (st.warn w)

theorem Acts.frame {s : Setup} {node : Node} {st st' : RunState} (h : Acts s node st st') :
    ReadFrame st st' := by
  have hread : ∀ handle, ReadFrame st (s.readPin node handle st).2 :=
    fun handle => (Setup.readPinAt_contract node handle st).advance.frame
  cases h with
  | read handle => exact hread handle
  | miss pin _ _ _ _ => exact (hread pin.id).trans (.warn _ _)
  | evaluate kind _ => exact (Setup.evaluateEagerly_contract node kind st).advance.frame
  | remark w _ => exact .warn st w

def Setup.loopItems (s : Setup) (node : Node) (st : RunState) : List Value :=
  match (s.readPin node "array" st).1 with
  | some (.array items) => items
  | _ => []

/-- From a state on, the node acts, calls, waits, and takes the given exits in order, where `fire`
    is what happens behind an output. -/
inductive Conducts (s : Setup) (node : Node) (fire : Firing) :
    List NodeExit → RunState → Activity Progress → Prop where
  | done (st : RunState) : Conducts s node fire [] st (.done (.going st))
  | act {exits : List NodeExit} {st st' : RunState} {a : Activity Progress} : Acts s node st st' →
      Conducts s node fire exits st' a → Conducts s node fire exits st a
  /-- A call that is refused ends the path with the error of the node that made it. -/
  | call {exits : List NodeExit} {st : RunState} (inputs : Fields Value)
      {resume : Reply → Activity Progress} : node.kind? = some .action →
      (∀ cause, resume (.error cause) =
        .done (.failed st (.actionFailed node.id node.definition cause))) →
      (∀ outputs, Conducts s node fire exits (st.setOutputs node.id outputs)
        (resume (.ok outputs))) →
      Conducts s node fire exits st (.calling ⟨node.id, node.definition, inputs, node.config⟩ st
        resume)
  | wait {exits : List NodeExit} {st : RunState} (delay : Delay)
      {resume : Unit → Activity Progress} :
      Conducts s node fire exits st (resume ()) →
      Conducts s node fire exits st (.waiting delay st resume)
  | leave {exits : List NodeExit} {st : RunState} (exit : NodeExit) {rest : Path} :
      (∀ st', Conducts s node fire exits st' (rest st')) →
      Conducts s node fire (exit :: exits) st
        (Path.andThen (fire exit.handle (exit.ready node.id st)) rest)

namespace Conducts

variable {s : Setup} {node : Node} {fire : Firing} {st st' : RunState} {a : Activity Progress}
  {exits : List NodeExit}

theorem acts (h : Relation.ReflTransGen (Acts s node) st st')
    (ha : Conducts s node fire exits st' a) : Conducts s node fire exits st a := by
  induction h with
  | refl => exact ha
  | tail _ hact ih => exact ih (.act hact ha)

theorem last (exit : NodeExit) :
    Conducts s node fire [exit] st (fire exit.handle (exit.ready node.id st)) := by
  rw [← Path.andThen_skip (fire exit.handle (exit.ready node.id st))]
  exact .leave exit fun st' => .done st'

theorem fireDefault : Conducts s node fire node.defaultExits st (fireDefault fire node st) := by
  unfold PinFlow.fireDefault Node.defaultExits
  cases node.defaultOutput? with
  | none => exact .done st
  | some pin => exact .last (.plain pin.id)

theorem each {ι : Type} {path : ι → Path} {exit : ι → NodeExit} {rest : Path}
    (hpath : ∀ i st, path i st = fire (exit i).handle ((exit i).ready node.id st))
    (hrest : ∀ st, Conducts s node fire exits st (rest st)) (items : List ι) (st : RunState) :
    Conducts s node fire (items.map exit ++ exits) st
      (Path.andThen (Path.each path items st) rest) := by
  induction items generalizing st with
  | nil => exact hrest st
  | cons i others ih =>
    change Conducts s node fire (exit i :: (others.map exit ++ exits)) st
      (Path.andThen (Path.andThen (path i st) (Path.each path others)) rest)
    rw [Path.andThen_assoc, hpath]
    exact .leave (exit i) ih

theorem addActionInput (hkind : node.kind? = some .action) {pin : Pin}
    (hpin : pin ∈ node.dataInputs) (acc : Fields Value × RunState) :
    Acts s node acc.2 (s.addActionInput node acc pin).2 := by
  have hread : Acts s node acc.2 (s.readPin node pin.id acc.2).2 := .read pin.id
  unfold Setup.addActionInput
  split
  · rename_i v st' heq
    rw [heq] at hread
    exact hread
  · rename_i st' heq
    rw [heq] at hread
    dsimp only
    cases hoptional : pin.optional with
    | true => exact hread
    | false =>
      have hmiss : Acts s node acc.2 ((s.readPin node pin.id acc.2).2.warn
          (.missingRequiredInput node.id pin.id)) := .miss pin hkind hpin hoptional (by rw [heq])
      rw [heq] at hmiss
      exact hmiss

theorem actionInputs (hkind : node.kind? = some .action) :
    Relation.ReflTransGen (Acts s node) st (s.actionInputs node st).2 := by
  unfold Setup.actionInputs
  refine List.foldlRecOn
    (motive := fun acc : Fields Value × RunState => Relation.ReflTransGen (Acts s node) st acc.2)
    _ _ .refl ?_
  exact fun acc hacc pin hpin => hacc.tail (addActionInput hkind hpin acc)

theorem performAction (hkind : node.kind? = some .action) :
    Conducts s node fire node.defaultExits st (s.performAction fire node st) :=
  .acts (actionInputs hkind) (.call _ hkind (fun _ => rfl) fun _ => .fireDefault)

theorem visitPure_acts {kind : PureKind} (hnode : s.graph.node? node.id = some node)
    (hkind : node.kind? = some (.pure kind)) :
    Relation.ReflTransGen (Acts s node) st (s.visitPure node kind st) := by
  have hremark : Acts s node st (st.warn (.pureNodeOnExecPath node.id)) := .remark _ rfl
  unfold Setup.visitPure
  dsimp only
  split
  · exact .single hremark
  · rename_i hnot
    have hconstant : kind.isConstant = false := by
      cases h : kind.isConstant with
      | false => rfl
      | true => exact absurd (by simp [h]) hnot
    exact .tail (.single hremark) (.evaluate kind ⟨hnode, hkind, hconstant⟩)

theorem visitPure {kind : PureKind} (hnode : s.graph.node? node.id = some node)
    (hkind : node.kind? = some (.pure kind)) :
    Conducts s node fire [] st (.done (.going (s.visitPure node kind st))) :=
  .acts (visitPure_acts hnode hkind) (.done _)

theorem branch : ∃ exits, (exits = [] ∨ exits = [.plain "true"] ∨ exits = [.plain "false"]) ∧
    Conducts s node fire exits st (s.branch fire node st) := by
  have hread : Acts s node st (s.readPin node "condition" st).2 := .read "condition"
  unfold Setup.branch
  split
  · rename_i st' heq
    rw [heq] at hread
    exact ⟨[], .inl rfl, .act hread (.act (.remark _ rfl) (.done _))⟩
  · rename_i st' heq
    rw [heq] at hread
    exact ⟨[], .inl rfl, .act hread (.act (.remark _ rfl) (.done _))⟩
  · rename_i v st' _ heq
    rw [heq] at hread
    cases v.truthy with
    | true => exact ⟨_, .inr (.inl rfl), .act hread (.last (.plain "true"))⟩
    | false => exact ⟨_, .inr (.inr rfl), .act hread (.last (.plain "false"))⟩

theorem switch : ∃ exits, (∃ handle ∈ switchOutputs, exits = [.plain handle]) ∧
    Conducts s node fire exits st (s.switch fire node st) :=
  ⟨_, ⟨_, switchOutput_mem _, rfl⟩, .act (.read "value") (.last (.plain _))⟩

theorem sequence :
    Conducts s node fire [.plain "then1", .plain "then2", .plain "then3"] st
      (Path.each fire sequenceOutputs st) := by
  rw [← Path.andThen_skip (Path.each fire sequenceOutputs st)]
  have hexits : sequenceOutputs.map NodeExit.plain ++ [] =
      [.plain "then1", .plain "then2", .plain "then3"] := rfl
  rw [← hexits]
  exact each (fun _ _ => rfl) .done sequenceOutputs st

theorem forEach :
    Conducts s node fire
      ((s.loopItems node st).zipIdx.map (fun item => .iteration item.1 item.2) ++
        [.plain "completed"]) st (s.forEach fire node st) := by
  have hread : Acts s node st (s.readPin node "array" st).2 := .read "array"
  unfold Setup.forEach Setup.loopItems
  generalize s.readPin node "array" st = reading at hread ⊢
  obtain ⟨value, st'⟩ := reading
  dsimp only
  split
  · rename_i items
    refine .act hread ?_
    exact .each (fun _ _ => rfl) (fun _ => .last (.plain "completed")) _ _
  · rename_i hother
    split
    · rename_i items _ heq
      exact absurd (congrArg Prod.fst heq) (hother items)
    · rename_i heq
      cases heq
      exact .act hread (.act (.remark (.notAnArray node.id) rfl) (.last (.plain "completed")))

theorem delay : Conducts s node fire node.defaultExits st (s.delay fire node st) :=
  .act (.read "duration") (.wait _ .fireDefault)

theorem steer {kind : FlowKind} (hkind : node.kind? = some (.flow kind)) :
    ∃ exits, node.MayTake exits ∧ Conducts s node fire exits st (s.steer fire node kind st) := by
  simp only [Node.MayTake, hkind]
  cases kind with
  | branch => exact branch
  | switch => exact switch
  | sequence => exact ⟨_, rfl, sequence⟩
  | forEach => exact ⟨_, ⟨_, rfl⟩, forEach⟩
  | delay => exact ⟨_, rfl, delay⟩
  | unknown name => exact ⟨_, rfl, .act (.remark (.unknownFlowKind node.id name) rfl) (.done _)⟩

end Conducts

namespace Setup

variable {s : Setup} {node : Node}

theorem execute_cases (hnode : s.graph.node? node.id = some node) (fire : Firing) (st : RunState) :
    (node.kind? = none ∧ s.execute fire node st =
        .done (.going (st.warn (.unknownDefinition node.id node.definition)))) ∨
      ∃ exits rest, node.MayTake exits ∧
        s.execute fire node st = .noting (.entered node.id) (st.markExecuted node.id) rest ∧
        Conducts s node fire exits (st.markExecuted node.id) (rest ()) := by
  unfold execute
  split
  · rename_i hkind
    exact .inl ⟨hkind, rfl⟩
  · rename_i kind hkind
    refine .inr ?_
    cases kind with
    | event kind => exact ⟨_, _, by simp only [Node.MayTake, hkind], rfl, .fireDefault⟩
    | action => exact ⟨_, _, by simp only [Node.MayTake, hkind], rfl, .performAction hkind⟩
    | pure kind => exact ⟨_, _, by simp only [Node.MayTake, hkind], rfl, .visitPure hnode hkind⟩
    | flow kind =>
      obtain ⟨exits, hmay, h⟩ : ∃ exits, node.MayTake exits ∧ Conducts s node fire exits
          (st.markExecuted node.id) (s.steer fire node kind (st.markExecuted node.id)) :=
        Conducts.steer hkind
      exact ⟨exits, _, hmay, rfl, h⟩

end Setup

end PinFlow
