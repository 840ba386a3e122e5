import PinFlow.Proofs.Run.History
import PinFlow.Proofs.Run.Visit

set_option autoImplicit false

/-!
# What is behind an output

`Does` relates a part of a run to what it does in one course of it, earliest first, and to where it
comes. `Traverses` says what control does with the edges that leave an output: it goes over all of
them in order, enters the nodes to which they lead, and takes up each edge in the state in which it
came back from the one before. Only a failure keeps it from the edges that are left.
-/

namespace PinFlow

namespace Activity

/-- With the replies that the deeds tell of, the activity does these, earliest first, and ends with
    the result. -/
inductive Does {α : Type} : Activity α → List Deed → α → Prop where
  | done (result : α) : Does (.done result) [] result
  | noting {note : Note} {st : RunState} {rest : Unit → Activity α} {deeds : List Deed}
      {result : α} : Does (rest ()) deeds result →
      Does (.noting note st rest) (.noted note st :: deeds) result
  | calling {call : Call} {st : RunState} {resume : Reply → Activity α} {deeds : List Deed}
      {result : α} (reply : Reply) : Does (resume reply) deeds result →
      Does (.calling call st resume) (.called call st reply :: deeds) result
  | waiting {delay : Delay} {st : RunState} {resume : Unit → Activity α} {deeds : List Deed}
      {result : α} : Does (resume ()) deeds result → Does (.waiting delay st resume) deeds result

variable {α β : Type} {deeds : List Deed}

theorem Does.of_bind {a : Activity α} {f : α → Activity β} {y : β}
    (h : (a.bind f).Does deeds y) :
    ∃ first x second, deeds = first ++ second ∧ a.Does first x ∧ (f x).Does second y := by
  induction a generalizing deeds with
  | done x => exact ⟨[], x, deeds, rfl, .done x, h⟩
  | noting note st rest ih =>
    cases h with
    | noting h =>
      obtain ⟨first, x, second, rfl, hfirst, hsecond⟩ := ih () h
      exact ⟨_ :: first, x, second, rfl, .noting hfirst, hsecond⟩
  | calling call st resume ih =>
    cases h with
    | calling reply h =>
      obtain ⟨first, x, second, rfl, hfirst, hsecond⟩ := ih reply h
      exact ⟨_ :: first, x, second, rfl, .calling reply hfirst, hsecond⟩
  | waiting delay st resume ih =>
    cases h with
    | waiting h =>
      obtain ⟨first, x, second, rfl, hfirst, hsecond⟩ := ih () h
      exact ⟨first, x, second, rfl, .waiting hfirst, hsecond⟩

theorem Does.of_map {a : Activity α} {f : α → β} {y : β} (h : (a.map f).Does deeds y) :
    ∃ x, a.Does deeds x ∧ y = f x := by
  obtain ⟨first, x, second, rfl, hfirst, hsecond⟩ := h.of_bind
  cases hsecond
  rw [List.append_nil]
  exact ⟨x, hfirst, rfl⟩

theorem Does.of_andThen {a : Activity Progress} {second : Path} {p : Progress}
    (h : (Path.andThen a second).Does deeds p) :
    (∃ st error, p = .failed st error ∧ a.Does deeds p) ∨
      ∃ before st after, deeds = before ++ after ∧ a.Does before (.going st) ∧
        (second st).Does after p := by
  obtain ⟨before, q, after, rfl, hbefore, hafter⟩ := h.of_bind
  cases q with
  | going st => exact .inr ⟨before, st, after, rfl, hbefore, hafter⟩
  | failed st error =>
    cases hafter
    rw [List.append_nil]
    exact .inl ⟨st, error, rfl, hbefore⟩

variable {P : List Deed → RunState → Prop} {ends : List Deed → α → Prop} {past : List Deed}

theorem Recounts.of_does {a : Activity α} {result : α} (h : a.Recounts P ends past)
    (hdoes : a.Does deeds result) : ends (deeds.reverse ++ past) result := by
  induction hdoes generalizing past with
  | done result => exact h
  | @noting note st rest deeds result _ ih =>
    rw [List.reverse_cons, List.append_assoc]
    exact ih h.2
  | @calling call st resume deeds result reply _ ih =>
    rw [List.reverse_cons, List.append_assoc]
    exact ih (h.2 reply)
  | waiting _ ih => exact ih h.2

theorem recounts_does (a : Activity α) (past : List Deed) :
    a.Recounts (fun _ _ => True)
      (fun past' result => ∃ deeds, past' = deeds.reverse ++ past ∧ a.Does deeds result) past := by
  induction a generalizing past with
  | done result => exact ⟨[], rfl, .done result⟩
  | noting note st rest ih =>
    refine ⟨trivial, (ih () _).mono (fun _ _ h => h) ?_⟩
    rintro past' result ⟨deeds, rfl, hdoes⟩
    exact ⟨_ :: deeds, by simp, .noting hdoes⟩
  | calling call st resume ih =>
    refine ⟨trivial, fun reply => (ih reply _).mono (fun _ _ h => h) ?_⟩
    rintro past' result ⟨deeds, rfl, hdoes⟩
    exact ⟨_ :: deeds, by simp, .calling reply hdoes⟩
  | waiting delay st resume ih =>
    refine ⟨trivial, (ih () _).mono (fun _ _ h => h) ?_⟩
    rintro past' result ⟨deeds, rfl, hdoes⟩
    exact ⟨deeds, rfl, .waiting hdoes⟩

end Activity

/-- A time that control leaves a node through an output: the state there, what is done behind the
    output, in order, and where control comes back. -/
structure Departure where
  start : RunState
  behind : List Deed
  back : Progress

def Departure.deeds (id : NodeId) (handle : Handle) (d : Departure) : List Deed :=
  .noted (.firing id handle) d.start :: d.behind

namespace Setup

/-- What control does with one edge, at some depth and with room for some more levels, and where it
    comes back. -/
inductive Crosses (s : Setup) (room depth : Nat) (e : Edge) (st : RunState) :
    List Deed → Progress → Prop where
  | cycle : e.input ∈ st.active →
      Crosses s room depth e st [] (.going (st.warn (.cycleSkipped e.target e.targetHandle)))
  | beyond : e.input ∉ st.active → room = 0 →
      Crosses s room depth e st [] (.going (st.warn (.depthLimitReached e.target depth)))
  | nowhere : e.input ∉ st.active → room ≠ 0 → s.graph.node? e.target = none →
      Crosses s room depth e st [] (.going st)
  | unknown {target : Node} : e.input ∉ st.active → room ≠ 0 →
      s.graph.node? e.target = some target → target.kind? = none →
      Crosses s room depth e st [] (.going (((st.beginVisit e.input).warn
        (.unknownDefinition target.id target.definition)).endVisit e.input))
  | enters {below : Nat} {target : Node} {kind : NodeKind} {behind : List Deed} {p : Progress} :
      e.input ∉ st.active → room = below + 1 → s.graph.node? e.target = some target →
      target.kind? = some kind →
      (s.execute (s.fireFrom below (depth + 1) target.id) target (st.beginVisit e.input)).Does
        (.noted (.entered target.id) ((st.beginVisit e.input).markExecuted target.id) :: behind)
        p →
      Crosses s room depth e st
        (.noted (.entered target.id) ((st.beginVisit e.input).markExecuted target.id) :: behind)
        (p.mapState (·.endVisit e.input))

inductive Traverses (s : Setup) (room depth : Nat) :
    List Edge → RunState → List Deed → Progress → Prop where
  | nil (st : RunState) : Traverses s room depth [] st [] (.going st)
  | cons {e : Edge} {rest : List Edge} {st st' : RunState} {deeds deeds' : List Deed}
      {p : Progress} : s.Crosses room depth e st deeds (.going st') →
      Traverses s room depth rest st' deeds' p →
      Traverses s room depth (e :: rest) st (deeds ++ deeds') p
  | fails {e : Edge} {rest : List Edge} {st st' : RunState} {error : RunError}
      {deeds : List Deed} : s.Crosses room depth e st deeds (.failed st' error) →
      Traverses s room depth (e :: rest) st deeds (.failed st' error)

/-- Control goes over exactly the edges that leave through the output. -/
def Departs (s : Setup) (room depth : Nat) (id : NodeId) (handle : Handle) (d : Departure) : Prop :=
  s.Traverses room depth (s.graph.edgesLeaving id handle) d.start d.behind d.back

variable {s : Setup} {st : RunState} {deeds : List Deed} {p : Progress}

theorem execute_of_kind {node : Node} {kind : NodeKind} (hkind : node.kind? = some kind)
    (fire : Firing) (h : (s.execute fire node st).Does deeds p) :
    ∃ behind, deeds = .noted (.entered node.id) (st.markExecuted node.id) :: behind := by
  unfold execute at h
  rw [hkind] at h
  cases h with
  | noting h => exact ⟨_, rfl⟩

theorem followEdge_none_crosses (depth : Nat) (e : Edge)
    (h : (s.followEdge none depth e st).Does deeds p) : s.Crosses 0 depth e st deeds p := by
  unfold followEdge at h
  dsimp only at h
  split at h
  · rename_i hvisiting
    cases h
    exact .cycle (List.contains_iff_mem.1 hvisiting)
  · rename_i hvisiting
    cases h
    exact .beyond (fun hmem => hvisiting (List.contains_iff_mem.2 hmem)) rfl

theorem followEdge_some_crosses (room depth : Nat) (e : Edge)
    (h : (s.followEdge (some (s.fireFrom room (depth + 1))) depth e st).Does deeds p) :
    s.Crosses (room + 1) depth e st deeds p := by
  unfold followEdge at h
  dsimp only at h
  split at h
  · rename_i hvisiting
    cases h
    exact .cycle (List.contains_iff_mem.1 hvisiting)
  · rename_i hvisiting
    have hfree : e.input ∉ st.active := fun hmem => hvisiting (List.contains_iff_mem.2 hmem)
    split at h
    · rename_i hnone
      cases h
      exact .nowhere hfree (Nat.succ_ne_zero room) hnone
    · rename_i target htarget
      obtain ⟨q, hexecute, rfl⟩ := h.of_map
      cases hkind : target.kind? with
      | none =>
        unfold execute at hexecute
        rw [hkind] at hexecute
        cases hexecute
        exact .unknown hfree (Nat.succ_ne_zero room) htarget hkind
      | some kind =>
        obtain ⟨behind, rfl⟩ := execute_of_kind hkind _ hexecute
        exact .enters hfree rfl htarget hkind hexecute

theorem each_traverses {room depth : Nat} {follow : Edge → Path}
    (hfollow : ∀ e st deeds p, (follow e st).Does deeds p → s.Crosses room depth e st deeds p)
    {edges : List Edge} (h : (Path.each follow edges st).Does deeds p) :
    s.Traverses room depth edges st deeds p := by
  induction edges generalizing st deeds with
  | nil =>
    cases h
    exact .nil st
  | cons e rest ih =>
    rcases h.of_andThen with ⟨st', error, rfl, hfails⟩ | ⟨before, st', after, rfl, hgoes, hrest⟩
    · exact .fails (hfollow e st deeds _ hfails)
    · exact .cons (hfollow e st before _ hgoes) (ih hrest)

theorem fireFrom_departs (room depth : Nat) (id : NodeId) (handle : Handle)
    (h : (s.fireFrom room depth id handle st).Does deeds p) :
    ∃ behind, deeds = Departure.deeds id handle ⟨st, behind, p⟩ ∧
      s.Departs room depth id handle ⟨st, behind, p⟩ := by
  cases room with
  | zero =>
    cases h with
    | noting h =>
      refine ⟨_, rfl, each_traverses (fun e st deeds p => ?_) h⟩
      exact followEdge_none_crosses depth e
  | succ room =>
    cases h with
    | noting h =>
      refine ⟨_, rfl, each_traverses (fun e st deeds p => ?_) h⟩
      exact followEdge_some_crosses room depth e

end Setup

end PinFlow
