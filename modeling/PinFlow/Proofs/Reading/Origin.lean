import Mathlib.Data.Fintype.Card
import Mathlib.Data.Set.Finite.Basic
import Mathlib.Logic.Relation
import PinFlow.Proofs.Reading.Memo

set_option autoImplicit false

/-!
# Where the value of an input comes from

The origin of an input is told by the graph alone: the configuration of its own node, or the output
at the other end of its data edge. Only an input that a computing node feeds depends on further
inputs, and `Feeds` is this dependency. `readFresh_eq` says once what a reading does with each
origin.
-/

namespace PinFlow

/-- Where the value of an input comes from. -/
inductive Origin where
  | literal
  | absent
  | unknown (source : Node)
  | constant (source : Node) (kind : ConstantKind) (handle : Handle)
  | event (handle : Handle)
  | output (source : NodeId) (handle : Handle)
  /-- A pure node that is not a constant; which of its outputs it is does not matter. -/
  | computed (source : Node) (kind : PureKind)

namespace Origin

def ofOutput (source : Node) (handle : Handle) : Origin :=
  match source.kind? with
  | none => .unknown source
  | some (.pure (.constant kind)) => .constant source kind handle
  | some (.pure kind) => .computed source kind
  | some (.event _) => .event handle
  | some .action => .output source.id handle
  | some (.flow _) => .output source.id handle

end Origin

namespace Graph

variable (g : Graph)

def origin (key : PinKey) : Origin :=
  match g.edgeFeeding? key.1 key.2 with
  | none => .literal
  | some edge =>
    match g.node? edge.source with
    | some source => .ofOutput source edge.sourceHandle
    | none => .absent

structure Computes (source : Node) (kind : PureKind) : Prop where
  present : g.node? source.id = some source
  kind? : source.kind? = some (.pure kind)
  notConstant : kind.isConstant = false

theorem node?_id {id : NodeId} {n : Node} (h : g.node? id = some n) : n.id = id := by
  have hp := List.find?_some h
  simpa using hp

theorem node?_self {id : NodeId} {n : Node} (h : g.node? id = some n) : g.node? n.id = some n := by
  rw [g.node?_id h]
  exact h

theorem node?_mem {id : NodeId} {n : Node} (h : g.node? id = some n) : n ∈ g.nodes :=
  List.mem_of_find?_eq_some h

theorem computes_of_origin {key : PinKey} {source : Node} {kind : PureKind}
    (h : g.origin key = .computed source kind) : g.Computes source kind := by
  unfold origin at h
  split at h
  · cases h
  · split at h
    · rename_i edge _ found hfound
      unfold Origin.ofOutput at h
      split at h
      all_goals try cases h
      · rename_i hne hkind
        refine ⟨g.node?_self hfound, hkind, ?_⟩
        cases kind with
        | constant kind => exact absurd rfl (hne kind)
        | function f => rfl
        | unknown name => rfl
    · cases h

/-- The one input is read to compute what is fed to the other. -/
def Feeds (input key : PinKey) : Prop :=
  ∃ source kind, g.origin key = .computed source kind ∧
    ∃ pin ∈ source.dataInputs, input = (source.id, pin.id)

/-- No input behind the given one, itself included, depends on itself. -/
def Acyclic (key : PinKey) : Prop :=
  ∀ k, Relation.ReflTransGen g.Feeds k key → ¬ Relation.TransGen g.Feeds k k

def Drawless (key : PinKey) : Prop :=
  ∀ k, Relation.ReflTransGen g.Feeds k key →
    ∀ source, g.origin k ≠ .computed source (.function .randomInt)

variable {g}

theorem Acyclic.input {key input : PinKey} (h : g.Acyclic key) (hfeeds : g.Feeds input key) :
    g.Acyclic input :=
  fun k hk => h k (hk.tail hfeeds)

theorem Drawless.input {key input : PinKey} (h : g.Drawless key) (hfeeds : g.Feeds input key) :
    g.Drawless input :=
  fun k hk => h k (hk.tail hfeeds)

theorem acyclic_of_inputs {key : PinKey} (h : ∀ input, g.Feeds input key → g.Acyclic input) :
    g.Acyclic key := by
  intro k hk hcycle
  rcases Relation.ReflTransGen.cases_tail hk with rfl | ⟨input, hinput, hfeeds⟩
  · obtain ⟨input, hinput, hfeeds⟩ := Relation.TransGen.tail'_iff.1 hcycle
    exact h input hfeeds input .refl (.head' hfeeds hinput)
  · exact h input hfeeds k hinput hcycle

theorem drawless_of_inputs {key : PinKey}
    (hself : ∀ source, g.origin key ≠ .computed source (.function .randomInt))
    (h : ∀ input, g.Feeds input key → g.Drawless input) : g.Drawless key := by
  intro k hk
  rcases Relation.ReflTransGen.cases_tail hk with rfl | ⟨input, hinput, hfeeds⟩
  · exact hself
  · exact h input hfeeds k hinput

def declaredInputs (g : Graph) : List PinKey :=
  g.nodes.flatMap fun n => n.dataInputs.map fun pin => (n.id, pin.id)

theorem Feeds.mem_declaredInputs {input key : PinKey} (h : g.Feeds input key) :
    input ∈ g.declaredInputs := by
  obtain ⟨source, kind, horigin, pin, hpin, rfl⟩ := h
  have hmem := g.node?_mem (g.computes_of_origin horigin).present
  exact List.mem_flatMap.2 ⟨source, hmem, List.mem_map.2 ⟨pin, hpin, rfl⟩⟩

theorem Acyclic.acc {key : PinKey} (h : g.Acyclic key) : Acc g.Feeds key := by
  -- Only finitely many inputs lie behind the given one, and on them the dependency has no cycle.
  let Behind := { k : PinKey // Relation.ReflTransGen g.Feeds k key }
  have hfinite : Finite Behind := by
    have hsub : { k : PinKey | Relation.ReflTransGen g.Feeds k key } ⊆
        { k | k ∈ key :: g.declaredInputs } := by
      intro k hk
      rcases Relation.ReflTransGen.cases_head hk with rfl | ⟨next, hnext, -⟩
      · exact List.mem_cons_self
      · exact List.mem_cons_of_mem _ hnext.mem_declaredInputs
    exact ((List.finite_toSet _).subset hsub).to_subtype
  have htrans : IsTrans Behind fun a b => Relation.TransGen g.Feeds a.1 b.1 :=
    ⟨fun _ _ _ hab hbc => hab.trans hbc⟩
  have hirrefl : Std.Irrefl fun a b : Behind => Relation.TransGen g.Feeds a.1 b.1 :=
    ⟨fun a => h a.1 a.2⟩
  have hwf : WellFounded fun a b : Behind => Relation.TransGen g.Feeds a.1 b.1 :=
    Finite.wellFounded_of_trans_of_irrefl _
  have hacc : ∀ b : Behind, Acc g.Feeds b.1 := by
    intro b
    induction b using hwf.induction with
    | _ b ih =>
      refine ⟨_, fun a ha => ?_⟩
      exact ih ⟨a, Relation.ReflTransGen.head ha b.2⟩ (.single ha)
  exact hacc ⟨key, .refl⟩

-- A small flow: someone is asked for a name, and the name is said with a mark behind it.
def joinNode : Node :=
  { Node.bare "join" "pure-string-join" with
    dataInputs := [.required "a" .string, .required "b" .string]
    dataOutputs := [.required "result" .string] }

def sayNode : Node :=
  { Node.bare "say" "action-say" with
    execInputs := [.exec "in"]
    dataInputs := [.required "text" .string] }

def greeting : Graph :=
  .ofParts
    [{ Node.bare "start" "event-ready" with execOutputs := [.exec "out"] },
      { Node.bare "ask" "action-ask" with
        execInputs := [.exec "in"]
        execOutputs := [.exec "out"]
        dataOutputs := [.required "name" .string] },
      { Node.bare "mark" "constant-string" with
        dataOutputs := [.required "value" .string]
        config := [("value", .string "!")] },
      joinNode, sayNode]
    [⟨none, "start", "out", "ask", "in", .data⟩, ⟨none, "ask", "out", "say", "in", .data⟩,
      ⟨none, "ask", "name", "join", "a", .data⟩, ⟨none, "mark", "value", "join", "b", .data⟩,
      ⟨none, "join", "result", "say", "text", .data⟩]

theorem greeting_origin_text :
    greeting.origin ("say", "text") = .computed joinNode (.function .stringJoin) := by
  rfl

theorem greeting_origin_join {input : PinKey} (h : greeting.Feeds input ("say", "text"))
    (source : Node) (kind : PureKind) : greeting.origin input ≠ .computed source kind := by
  obtain ⟨source', kind', horigin, pin, hpin, rfl⟩ := h
  rw [greeting_origin_text] at horigin
  cases horigin
  simp only [joinNode, List.mem_cons, List.not_mem_nil, or_false] at hpin
  rcases hpin with rfl | rfl
  · have ha : greeting.origin ("join", "a") = .output "ask" "name" := by rfl
    exact fun h => nomatch ha.symm.trans h
  · obtain ⟨mark, hb⟩ : ∃ mark, greeting.origin ("join", "b") = .constant mark .string "value" :=
      ⟨_, by rfl⟩
    exact fun h => nomatch hb.symm.trans h

theorem greeting_acyclic : greeting.Acyclic ("say", "text") := by
  refine acyclic_of_inputs fun input hinput => acyclic_of_inputs ?_
  rintro deeper ⟨source, kind, horigin, -⟩
  exact absurd horigin (greeting_origin_join hinput source kind)

theorem greeting_drawless : greeting.Drawless ("say", "text") := by
  refine drawless_of_inputs ?_ fun input hinput => drawless_of_inputs ?_ ?_
  · intro source horigin
    exact nomatch greeting_origin_text.symm.trans horigin
  · exact fun source => greeting_origin_join hinput source _
  · rintro deeper ⟨source, kind, horigin, -⟩
    exact absurd horigin (greeting_origin_join hinput source kind)

end Graph

namespace RunState

theorem endReading_beginReading (st : RunState) (key : PinKey) :
    (st.beginReading key).endReading key = st := by
  simp [beginReading, endReading]

theorem endReading_warn (st : RunState) (w : Warning) (key : PinKey) :
    (st.warn w).endReading key = (st.endReading key).warn w := rfl

end RunState

namespace Setup

variable (s : Setup)

theorem readFresh_eq (read : PinReader) (node : Node) (handle : Handle) (st : RunState) :
    s.readFresh read node handle st =
      match s.graph.origin (node.id, handle) with
      | .literal => (⟨node.configured? handle, .run⟩, st)
      | .absent => (⟨none, .run⟩, st)
      | .unknown source =>
        (⟨none, .run⟩, st.warn (.unknownDefinition source.id source.definition))
      | .constant source kind out => (⟨constantValue st.trigger source kind out, .run⟩, st)
      | .event out => (⟨Fields.get? st.trigger out, .run⟩, st)
      | .output source out => (⟨st.output? source out, .generation⟩, st)
      | .computed source kind =>
        ((s.evaluatePure read source kind (st.beginReading (node.id, handle))).1,
          (s.evaluatePure read source kind (st.beginReading (node.id, handle))).2.endReading
            (node.id, handle)) := by
  have hend := st.endReading_beginReading (node.id, handle)
  unfold readFresh Graph.origin
  cases s.graph.edgeFeeding? node.id handle with
  | none => rfl
  | some edge =>
    dsimp only
    cases s.graph.node? edge.source with
    | none => simp only [hend]
    | some source =>
      dsimp only [readOutput, Origin.ofOutput]
      cases source.kind? with
      | none => simp only [RunState.endReading_warn, hend]
      | some kind =>
        cases kind with
        | event kind => simp only [hend]; rfl
        | action => simp only [hend]; rfl
        | flow kind => simp only [hend]; rfl
        | pure kind =>
          cases kind with
          | constant kind => simp only [hend]; rfl
          | function f => rfl
          | unknown name => rfl

-- The four ways in which the reading of a pin can go.
variable (deeper : Option PinReader) (read : PinReader) (depth : Nat) {node : Node}
  {handle : Handle} {st : RunState}

theorem readPinWith_memoized {r : Reading} (h : st.memoizedPin? (node.id, handle) = some r) :
    s.readPinWith deeper depth node handle st = (r, st) := by
  simp only [readPinWith, h]

theorem readPinWith_reading (hnone : st.memoizedPin? (node.id, handle) = none)
    (hkey : (node.id, handle) ∈ st.resolving) :
    s.readPinWith deeper depth node handle st =
      (⟨none, .run⟩, st.warn (.dataCycleSkipped node.id handle)) := by
  have hreading : st.isReading (node.id, handle) = true := List.contains_iff_mem.2 hkey
  simp only [readPinWith, hnone, hreading, if_true]

theorem readPinWith_cut (hnone : st.memoizedPin? (node.id, handle) = none)
    (hkey : (node.id, handle) ∉ st.resolving) :
    s.readPinWith none depth node handle st =
      (⟨none, .uncached⟩, st.warn (.depthLimitReached node.id depth)) := by
  have hreading : ¬ st.isReading (node.id, handle) = true :=
    fun h => hkey (List.contains_iff_mem.1 h)
  simp only [readPinWith, hnone, hreading]
  rfl

theorem readPinWith_fresh (hnone : st.memoizedPin? (node.id, handle) = none)
    (hkey : (node.id, handle) ∉ st.resolving) :
    s.readPinWith (some read) depth node handle st =
      ((s.readFresh read node handle st).1,
        (s.readFresh read node handle st).2.memoizePin (node.id, handle)
          (s.readFresh read node handle st).1) := by
  have hreading : ¬ st.isReading (node.id, handle) = true :=
    fun h => hkey (List.contains_iff_mem.1 h)
  simp only [readPinWith, hnone, hreading]
  rfl

end Setup

end PinFlow
