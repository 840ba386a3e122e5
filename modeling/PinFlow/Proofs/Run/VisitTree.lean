import PinFlow.Proofs.Reading.Report
import PinFlow.Proofs.Run.DepthBound
import PinFlow.Proofs.Run.Visit

set_option autoImplicit false

/-!
# Control walks along a tree

A run keeps no tree of its visits, only the traversals in progress and the nodes that it executed.
The tree is put together from the parts of the run: what is behind an edge, an output and a node
gives visits whose nodes were executed in preorder. The traversals in progress are the path from the
root, so that the guard against cycles skips an edge only if it leads back to this path.
-/

namespace PinFlow

/-- With the same traversals in progress before and after, the given nodes were executed, and no
    input was reported as a cycle but those that satisfy `returned`. -/
structure Walked (path : List PinKey) (st st' : RunState) (nodes : List NodeId)
    (returned : PinKey → Prop) : Prop where
  atRest : st'.AtRest path
  executed : st'.executed = st.executed ++ nodes
  skipped : ∀ node handle, Warning.cycleSkipped node handle ∈ st'.warnings →
    Warning.cycleSkipped node handle ∈ st.warnings ∨ returned (node, handle)

namespace Walked

variable {path : List PinKey} {st st' st'' : RunState} {nodes nodes' : List NodeId}
  {returned returned' : PinKey → Prop}

theorem trans (h : Walked path st st' nodes returned) (h' : Walked path st' st'' nodes' returned') :
    Walked path st st'' (nodes ++ nodes') fun key => returned key ∨ returned' key where
  atRest := h'.atRest
  executed := by rw [h'.executed, h.executed, List.append_assoc]
  skipped node handle hw := by
    rcases h'.skipped node handle hw with hbefore | hnew
    · exact (h.skipped node handle hbefore).imp_right .inl
    · exact .inr (.inr hnew)

theorem mono (h : Walked path st st' nodes returned)
    (himp : ∀ key, returned key → returned' key) : Walked path st st' nodes returned' :=
  { h with skipped := fun node handle hw => (h.skipped node handle hw).imp_right (himp _) }

theorem after (h : Walked path st st' [] returned) (h' : Walked path st' st'' nodes returned) :
    Walked path st st'' nodes returned :=
  (h.trans h').mono fun _ hkey => hkey.elim id id

theorem still (hst : st.AtRest path) (hresolving : st'.resolving = st.resolving)
    (hactive : st'.active = st.active) (hexecuted : st'.executed = st.executed)
    (hwarnings : ∀ node handle, Warning.cycleSkipped node handle ∈ st'.warnings →
      Warning.cycleSkipped node handle ∈ st.warnings) :
    Walked path st st' [] returned where
  atRest := ⟨hresolving.trans hst.resolving, hactive.trans hst.active⟩
  executed := by rw [hexecuted, List.append_nil]
  skipped node handle hw := .inl (hwarnings node handle hw)

theorem refl (hst : st.AtRest path) : Walked path st st [] returned :=
  .still hst rfl rfl rfl fun _ _ hw => hw

theorem warn (hst : st.AtRest path) (w : Warning)
    (hw : ∀ node handle, w = .cycleSkipped node handle → returned (node, handle)) :
    Walked path st (st.warn w) [] returned where
  atRest := ⟨hst.resolving, hst.active⟩
  executed := (List.append_nil _).symm
  skipped node handle hmem := by
    refine (List.mem_append.1 hmem).imp_right fun hnew => ?_
    exact hw node handle (List.mem_singleton.1 hnew).symm

theorem endVisit {key : PinKey}
    (h : Walked (key :: path) (st.beginVisit key) st' nodes returned) :
    Walked path st (st'.endVisit key) nodes returned :=
  ⟨h.atRest.endVisit, h.executed, h.skipped⟩

theorem ready (hst : st.AtRest path) (node : NodeId) (exit : NodeExit) :
    Walked path st (exit.ready node st) [] returned := by
  cases exit with
  | plain handle => exact .refl hst
  | iteration element index => exact .still hst rfl rfl rfl fun _ _ hw => hw

theorem reporting {g : Graph} (hst : st.AtRest path) (hframe : ReadFrame st st')
    (hreporting : Reporting g st st') : Walked path st st' [] returned := by
  refine .still hst hframe.resolving hframe.active hframe.executed fun node handle hw => ?_
  rcases hreporting.mem hw with hbefore | hreports
  · exact hbefore
  · cases hreports

theorem act {s : Setup} {node : Node} (hst : st.AtRest path) (h : Acts s node st st') :
    Walked path st st' [] returned := by
  have hread : ∀ handle, Walked path st (s.readPin node handle st).2 [] returned := fun handle =>
    .reporting hst (s.take_advance st (rfl : (Step.read node handle).isReading = true)).frame
      (Setup.readPin_reporting hst.resolving node handle)
  cases h with
  | read handle => exact hread handle
  | miss pin _ _ _ _ =>
    exact (hread pin.id).after (.warn (hread pin.id).atRest _ fun _ _ h => nomatch h)
  | evaluate kind hcomputes =>
    have hframe := (s.take_advance st (rfl : (Step.evaluate node kind).isReading = true)).frame
    exact .reporting hst hframe (Setup.evaluateEagerly_reporting hst.resolving hcomputes)
  | remark w hw =>
    refine .warn hst w ?_
    rintro _ _ rfl
    cases hw

end Walked

section Parts

variable (s : Setup) (path : List PinKey)

structure Followed (edges : List Edge) (followed : List (Edge × Visit)) : Prop where
  edges : followed.map Prod.fst = edges.filter (s.opens path)
  targets : ∀ branch ∈ followed, branch.2.node.id = branch.1.target
  lawful : ∀ branch ∈ followed, branch.2.AllLawful s (branch.1.input :: path)

/-- One of the edges leads back to the input on the path, or a visit behind one of them does. -/
def Returned (edges : List Edge) (followed : List (Edge × Visit)) (key : PinKey) : Prop :=
  (key ∈ path ∧ ∃ e ∈ edges, e.input = key) ∨
    ∃ branch ∈ followed, branch.2.SomeReturns s.graph (branch.1.input :: path) key

def Follows (edges : List Edge) (st st' : RunState) : Prop :=
  ∃ followed, Followed s path edges followed ∧
    Walked path st st' (Visit.preorderOfFollowed followed) (Returned s path edges followed)

def Takes (node : Node) (exits : List NodeExit) (st st' : RunState) : Prop :=
  ∃ firings : List (NodeExit × List (Edge × Visit)), firings.map Prod.fst = exits ∧
    (∀ firing ∈ firings,
      Followed s path (s.graph.edgesLeaving node.id firing.1.handle) firing.2) ∧
    Walked path st st' (Visit.preorderOfFirings firings) fun key => ∃ firing ∈ firings,
      Returned s path (s.graph.edgesLeaving node.id firing.1.handle) firing.2 key

def Visits (node : Node) (st st' : RunState) : Prop :=
  ∃ v : Visit, v.node = node ∧ v.AllLawful s path ∧
    Walked path st st' v.preorder (v.SomeReturns s.graph path)

end Parts

section Composition

variable {s : Setup} {path : List PinKey} {st st' st'' : RunState} {edges edges' : List Edge}
  {e : Edge} {node : Node} {exits : List NodeExit}

theorem Followed.append {followed followed' : List (Edge × Visit)}
    (h : Followed s path edges followed) (h' : Followed s path edges' followed') :
    Followed s path (edges ++ edges') (followed ++ followed') where
  edges := by rw [List.map_append, List.filter_append, h.edges, h'.edges]
  targets branch hbranch :=
    (List.mem_append.1 hbranch).elim (h.targets branch) (h'.targets branch)
  lawful branch hbranch := (List.mem_append.1 hbranch).elim (h.lawful branch) (h'.lawful branch)

theorem Returned.mono {followed followed' : List (Edge × Visit)} {key : PinKey}
    (hedges : ∀ e ∈ edges, e ∈ edges') (hfollowed : ∀ branch ∈ followed, branch ∈ followed')
    (h : Returned s path edges followed key) : Returned s path edges' followed' key := by
  rcases h with ⟨hkey, e, he, hinput⟩ | ⟨branch, hbranch, hreturns⟩
  · exact .inl ⟨hkey, e, hedges e he, hinput⟩
  · exact .inr ⟨branch, hfollowed branch hbranch, hreturns⟩

namespace Follows

theorem nil (hst : st.AtRest path) : Follows s path [] st st :=
  ⟨[], ⟨rfl, List.forall_mem_nil _, List.forall_mem_nil _⟩, .refl hst⟩

theorem append (h : Follows s path edges st st') (h' : Follows s path edges' st' st'') :
    Follows s path (edges ++ edges') st st'' := by
  obtain ⟨followed, hfollowed, hwalked⟩ := h
  obtain ⟨followed', hfollowed', hwalked'⟩ := h'
  refine ⟨followed ++ followed', hfollowed.append hfollowed', ?_⟩
  rw [Visit.preorderOfFollowed_append]
  refine (hwalked.trans hwalked').mono fun key hkey => ?_
  rcases hkey with hkey | hkey
  · exact hkey.mono (fun _ => List.mem_append_left _) fun _ => List.mem_append_left _
  · exact hkey.mono (fun _ => List.mem_append_right _) fun _ => List.mem_append_right _

theorem atRest (h : Follows s path edges st st') : st'.AtRest path := by
  obtain ⟨_, _, hwalked⟩ := h
  exact hwalked.atRest

theorem pass (hclosed : s.opens path e = false)
    (h : Walked path st st' [] fun key => key ∈ path ∧ e.input = key) :
    Follows s path [e] st st' := by
  refine ⟨[], ⟨?_, List.forall_mem_nil _, List.forall_mem_nil _⟩, h.mono fun key hkey => ?_⟩
  · rw [List.filter_cons_of_neg (by rw [hclosed]; exact Bool.false_ne_true)]
    rfl
  · exact .inl ⟨hkey.1, e, List.mem_cons_self, hkey.2⟩

theorem enter (hopen : s.opens path e = true) (htarget : node.id = e.target)
    (h : Visits s (e.input :: path) node (st.beginVisit e.input) st') :
    Follows s path [e] st (st'.endVisit e.input) := by
  obtain ⟨v, rfl, hlawful, hwalked⟩ := h
  refine ⟨[(e, v)], ⟨?_, ?_, ?_⟩, ?_⟩
  · rw [List.filter_cons_of_pos hopen]
    rfl
  · intro branch hbranch
    rw [List.mem_singleton.1 hbranch]
    exact htarget
  · intro branch hbranch
    rw [List.mem_singleton.1 hbranch]
    exact hlawful
  · have hpreorder : Visit.preorderOfFollowed [(e, v)] = v.preorder := List.append_nil _
    rw [hpreorder]
    exact hwalked.endVisit.mono fun key hreturns => .inr ⟨(e, v), List.mem_cons_self, hreturns⟩

end Follows

namespace Takes

theorem done (hst : st.AtRest path) : Takes s path node [] st st :=
  ⟨[], rfl, List.forall_mem_nil _, .refl hst⟩

theorem after (h : Walked path st st' [] fun _ => False) (h' : Takes s path node exits st' st'') :
    Takes s path node exits st st'' := by
  obtain ⟨firings, hexits, hfollowed, hwalked⟩ := h'
  exact ⟨firings, hexits, hfollowed, (h.mono fun _ hkey => hkey.elim).after hwalked⟩

theorem leave {exit : NodeExit}
    (h : Follows s path (s.graph.edgesLeaving node.id exit.handle) st st')
    (h' : Takes s path node exits st' st'') : Takes s path node (exit :: exits) st st'' := by
  obtain ⟨followed, hfollowed, hwalked⟩ := h
  obtain ⟨firings, rfl, hfirings, hwalked'⟩ := h'
  refine ⟨(exit, followed) :: firings, rfl, ?_, (hwalked.trans hwalked').mono fun key hkey => ?_⟩
  · intro firing hfiring
    rcases List.mem_cons.1 hfiring with rfl | hfiring
    · exact hfollowed
    · exact hfirings firing hfiring
  · rcases hkey with hkey | ⟨firing, hfiring, hkey⟩
    · exact ⟨_, List.mem_cons_self, hkey⟩
    · exact ⟨firing, List.mem_cons_of_mem _ hfiring, hkey⟩

theorem visits (hnode : s.graph.node? node.id = some node) (hmay : node.MayTake exits)
    (hnodup : path.Nodup) (hbounded : path.length ≤ s.limits.maxDepth)
    (h : Takes s path node exits (st.markExecuted node.id) st') : Visits s path node st st' := by
  obtain ⟨firings, rfl, hfollowed, hwalked⟩ := h
  refine ⟨.mk node firings, rfl, ⟨⟨hnode, hmay, ?_, ?_, hnodup, hbounded⟩, ?_⟩,
    hwalked.atRest, ?_, fun n handle hw => ?_⟩
  · exact fun firing hfiring => (hfollowed firing hfiring).edges
  · exact fun firing hfiring => (hfollowed firing hfiring).targets
  · exact fun firing hfiring => (hfollowed firing hfiring).lawful
  · rw [hwalked.executed]
    exact List.append_assoc st.executed [node.id] _
  · refine (hwalked.skipped n handle hw).imp_right ?_
    rintro ⟨firing, hfiring, ⟨hkey, e, he, hinput⟩ | ⟨branch, hbranch, hreturns⟩⟩
    · exact .here ⟨hkey, firing, hfiring, e, he, hinput⟩
    · exact .behind hfiring hbranch hreturns

end Takes

end Composition

def Activity.Yields (P : RunState → Prop) (a : Activity Progress) : Prop :=
  ∀ st, a.Traced (fun _ _ => True) (fun _ p => ∀ st', p = .going st' → P st') st

namespace Activity.Yields

variable {P Q : RunState → Prop} {a : Activity Progress}

theorem done {st : RunState} (h : P st) : Yields P (.done (.going st)) := by
  rintro _ _ ⟨⟩
  exact h

theorem mono (h : a.Yields P) (himp : ∀ st, P st → Q st) : a.Yields Q :=
  fun st => (h st).mono (fun _ _ h => h) fun _ _ hp st' hst' => himp st' (hp st' hst')

theorem andThen {second : Path} (h : a.Yields P) (hsecond : ∀ st, P st → (second st).Yields Q) :
    Yields Q (Path.andThen a second) := by
  intro st
  refine (h st).bind fun last p hp => ?_
  cases p with
  | going st' => exact hsecond st' (hp st' rfl) last
  | failed st' error => exact fun _ h => nomatch h

theorem mapState {f : RunState → RunState} (h : a.Yields P) (hf : ∀ st, P st → Q (f st)) :
    Yields Q (a.map (Progress.mapState f)) := by
  intro st
  refine (h st).bind fun last p hp => ?_
  cases p with
  | going st' =>
    rintro _ ⟨⟩
    exact hf st' (hp st' rfl)
  | failed st' error => exact fun _ h => nomatch h

end Activity.Yields

open Activity (Yields)

namespace Setup

variable {s : Setup} {path : List PinKey} {node : Node} {fire : Firing}

def FollowsFrom (s : Setup) (path : List PinKey) (node : NodeId) (fire : Firing) : Prop :=
  ∀ handle st, st.AtRest path →
    Yields (Follows s path (s.graph.edgesLeaving node handle) st) (fire handle st)

theorem conducts_takes (hfire : s.FollowsFrom path node.id fire) {exits : List NodeExit}
    {st : RunState} {a : Activity Progress} (h : Conducts s node fire exits st a)
    (hst : st.AtRest path) : Yields (Takes s path node exits st) a := by
  induction h with
  | done st => exact .done (.done hst)
  | act hact _ ih =>
    have hwalked : Walked path _ _ [] fun _ => False := .act hst hact
    exact (ih hwalked.atRest).mono fun _ => .after hwalked
  | @call exits st inputs resume hkind herror _ ih =>
    refine fun _ => ⟨trivial, fun reply => ?_⟩
    cases reply with
    | ok outputs =>
      have hwalked : Walked path st (st.setOutputs node.id outputs) [] fun _ => False :=
        .still hst rfl rfl rfl fun _ _ hw => hw
      exact (ih outputs hwalked.atRest).mono (fun _ => .after hwalked) _
    | error cause =>
      rw [herror]
      exact fun _ h => nomatch h
  | wait delay _ ih => exact fun _ => ⟨trivial, ih hst _⟩
  | @leave exits st exit rest _ ih =>
    have hready : Walked path st (exit.ready node.id st) [] fun _ => False :=
      .ready hst node.id exit
    refine (hfire exit.handle _ hready.atRest).andThen fun st' hfollows => ?_
    exact (ih st' hfollows.atRest).mono fun st'' htakes => .after hready (.leave hfollows htakes)

theorem execute_visits (hnode : s.graph.node? node.id = some node) (hkind : node.kind? ≠ none)
    (hfire : s.FollowsFrom path node.id fire) (hnodup : path.Nodup)
    (hbounded : path.length ≤ s.limits.maxDepth) {st : RunState} (hst : st.AtRest path) :
    Yields (Visits s path node st) (s.execute fire node st) := by
  rcases execute_cases hnode fire st with ⟨hnone, -⟩ | ⟨exits, rest, hmay, heq, hconducts⟩
  · exact absurd hnone hkind
  · rw [heq]
    have hmarked : (st.markExecuted node.id).AtRest path := ⟨hst.resolving, hst.active⟩
    have hvisits := (conducts_takes hfire hconducts hmarked).mono
      fun _ htakes => htakes.visits hnode hmay hnodup hbounded
    exact fun _ => ⟨trivial, hvisits _⟩

theorem opens_eq_false_of_mem {e : Edge} (h : e.input ∈ path) : s.opens path e = false := by
  simp only [opens, h, not_true_eq_false, decide_false, Bool.false_and]

theorem opens_eq_false_of_length {e : Edge} (h : s.limits.maxDepth ≤ path.length) :
    s.opens path e = false := by
  simp only [opens, Nat.not_lt.2 h, decide_false, Bool.and_false, Bool.false_and]

theorem opens_eq_false_of_unknown {e : Edge}
    (h : (s.graph.node? e.target).bind Node.kind? = none) : s.opens path e = false := by
  simp only [opens, h, Option.isSome_none, Bool.and_false]

theorem followEdge_skips {deeper : Option (NodeId → Firing)} {depth : Nat} {e : Edge}
    (h : e.input ∈ path) {st : RunState} (hst : st.AtRest path) :
    Yields (Follows s path [e] st) (s.followEdge deeper depth e st) := by
  have hvisiting : (e.target, e.targetHandle) ∈ st.active := by
    rw [hst.active]
    exact h
  rw [s.followEdge_visiting hvisiting]
  refine .done (.pass (opens_eq_false_of_mem h) (.warn hst _ ?_))
  rintro _ _ ⟨⟩
  exact ⟨h, rfl⟩

theorem not_isVisiting {e : Edge} {st : RunState} (hst : st.AtRest path) (h : e.input ∉ path) :
    st.isVisiting (e.target, e.targetHandle) = false := by
  rw [RunState.isVisiting, hst.active]
  exact Bool.eq_false_iff.2 fun hmem => h (List.contains_iff_mem.1 hmem)

theorem followEdge_none_follows {depth : Nat} {e : Edge} (hfull : s.limits.maxDepth ≤ path.length)
    {st : RunState} (hst : st.AtRest path) :
    Yields (Follows s path [e] st) (s.followEdge none depth e st) := by
  by_cases h : e.input ∈ path
  · exact followEdge_skips h hst
  · simp only [followEdge, not_isVisiting hst h, Bool.false_eq_true, if_false]
    refine .done (.pass (opens_eq_false_of_length hfull) (.warn hst _ ?_))
    rintro _ _ ⟨⟩

theorem followEdge_some_follows {deeper : NodeId → Firing} {depth : Nat} {e : Edge}
    (hroom : path.length < s.limits.maxDepth) (hnodup : path.Nodup)
    (hdeeper : e.input ∉ path → ∀ id, s.FollowsFrom (e.input :: path) id (deeper id))
    {st : RunState} (hst : st.AtRest path) :
    Yields (Follows s path [e] st) (s.followEdge (some deeper) depth e st) := by
  by_cases h : e.input ∈ path
  · exact followEdge_skips h hst
  · -- Not on the path and within the bound, the edge is open if a node of some kind is at its end.
    simp only [followEdge, not_isVisiting hst h, Bool.false_eq_true, if_false]
    cases htarget : s.graph.node? e.target with
    | none =>
      refine .done (.pass (opens_eq_false_of_unknown ?_) (.refl hst))
      rw [htarget, Option.bind_none]
    | some target =>
      have hid : target.id = e.target := s.graph.node?_id htarget
      have hbegun : (st.beginVisit e.input).AtRest (e.input :: path) := hst.beginVisit
      cases hkind : target.kind? with
      | none =>
        simp only [execute, hkind]
        refine .done (.pass (opens_eq_false_of_unknown ?_) (.endVisit (.warn hbegun _ ?_)))
        · rw [htarget, Option.bind_some, hkind]
        · rintro _ _ ⟨⟩
      | some kind =>
        have hopen : s.opens path e = true := by
          simp only [opens, h, hroom, htarget, hkind, Option.bind_some, Option.isSome_some,
            not_false_eq_true, decide_true, Bool.and_self]
        have hknown : target.kind? ≠ none := by
          rw [hkind]
          exact Option.some_ne_none kind
        have hvisits := execute_visits (s.graph.node?_self htarget) hknown (hdeeper h target.id)
          (List.nodup_cons.2 ⟨h, hnodup⟩) hroom hbegun
        exact hvisits.mapState fun st' hst' => .enter hopen hid hst'

theorem each_follows {follow : Edge → Path}
    (h : ∀ e st, st.AtRest path → Yields (Follows s path [e] st) (follow e st))
    (edges : List Edge) {st : RunState} (hst : st.AtRest path) :
    Yields (Follows s path edges st) (Path.each follow edges st) := by
  induction edges generalizing st with
  | nil => exact .done (.nil hst)
  | cons e rest ih =>
    -- A list of edges is followed as its first and its others are: the visits are put together.
    refine (h e st hst).andThen fun st' hfirst => ?_
    exact (ih hfirst.atRest).mono fun st'' hrest => hfirst.append hrest

theorem fireWith_follows {deeper : Option (NodeId → Firing)} {depth : Nat}
    (h : ∀ e st, st.AtRest path → Yields (Follows s path [e] st) (s.followEdge deeper depth e st))
    (id : NodeId) : s.FollowsFrom path id (s.fireWith deeper depth id) :=
  fun _ _ hst _ => ⟨trivial, each_follows h _ hst _⟩

/-- The path and the room that is left make up the depth bound. -/
theorem fireFrom_follows {room : Nat} (hroom : path.length + room = s.limits.maxDepth)
    (hnodup : path.Nodup) (depth : Nat) (id : NodeId) :
    s.FollowsFrom path id (s.fireFrom room depth id) := by
  induction room generalizing path depth id with
  | zero =>
    exact fireWith_follows (fun e st hst => followEdge_none_follows (by omega) hst) id
  | succ room ih =>
    refine fireWith_follows (fun e st hst => ?_) id
    refine followEdge_some_follows (by omega) hnodup (fun hkey id => ?_) hst
    refine ih ?_ (List.nodup_cons.2 ⟨hkey, hnodup⟩) (depth + 1) id
    rw [List.length_cons]
    omega

theorem start_visits (s : Setup) (entry : NodeId) (trigger : Trigger) :
    (s.start entry trigger).Traced (fun _ _ => True)
      (fun _ result => ∀ st, result = .ok st →
        ∃ node, node.id = entry ∧ Visits s [] node (RunState.fresh trigger) st)
      (RunState.fresh trigger) := by
  rcases s.start_cases entry trigger with ⟨error, herror⟩ | ⟨node, hnode, hevent⟩
  · rw [herror]
    exact fun _ h => nomatch h
  · have hid := s.graph.node?_id hnode
    have hpresent := s.graph.node?_self hnode
    have hmarked : ((RunState.fresh trigger).markExecuted node.id).AtRest [] := ⟨rfl, rfl⟩
    have hvisits : ∀ st, Takes s [] node node.defaultExits
        ((RunState.fresh trigger).markExecuted node.id) st →
        ∃ node, node.id = entry ∧ Visits s [] node (RunState.fresh trigger) st :=
      fun st htakes => ⟨node, hid, htakes.visits hpresent (Node.mayTake_defaultExits hevent) .nil
        (Nat.zero_le _)⟩
    unfold start
    rw [hnode]
    dsimp only
    rw [if_pos hevent]
    split
    · rename_i pin hpin
      have hexits : node.defaultExits = [.plain pin.id] := by
        simp only [Node.defaultExits, hpin, Option.map_some, Option.toList_some]
      have hfollows := fireFrom_follows (s := s) (Nat.zero_add _) List.nodup_nil 0 node.id pin.id _
        hmarked
      refine (hfollows _).bind fun last p hp => ?_
      cases p with
      | failed st error => exact fun _ h => nomatch h
      | going st =>
        rintro _ ⟨⟩
        have hst := hp st rfl
        refine hvisits st ?_
        rw [hexits]
        exact .leave hst (.done hst.atRest)
    · rename_i hpin
      rintro _ ⟨⟩
      have hexits : node.defaultExits = [] := by
        simp only [Node.defaultExits, hpin, Option.map_none, Option.toList_none]
      have hwarned : Walked [] _ _ [] fun _ => False :=
        .warn hmarked (.noExecOutput node.id) fun _ _ h => nomatch h
      refine hvisits _ ?_
      rw [hexits]
      exact .after hwarned (.done hwarned.atRest)

/-- The nodes that a run executes are the visits of a lawful tree in preorder. It reports an input
    as a cycle only if an edge leads from a visit back to an input on its path, and so never where
    exec edges form no closed path. -/
theorem run_walks_visit_tree (s : Setup) (entry : NodeId) (trigger : Trigger) (d : Dispatcher)
    (st : RunState) (h : ((s.start entry trigger).play d).result = .ok st) :
    ∃ tree : Visit, tree.node.id = entry ∧ st.executed = tree.preorder ∧
      (∀ path v, tree.Reaches path v → v.Lawful s path) ∧
      (∀ node handle, Warning.cycleSkipped node handle ∈ st.warnings →
        ∃ path v, tree.Reaches path v ∧ v.Returns s.graph path (node, handle)) ∧
      ((∀ node, ¬ Relation.TransGen (Graph.Linked s.graph.execEdges) node node) →
        ∀ node handle, Warning.cycleSkipped node handle ∉ st.warnings) := by
  obtain ⟨_, hresult⟩ := (start_visits s entry trigger).result d 0 []
  obtain ⟨_, hentry, tree, rfl, hlawful, hwalked⟩ := hresult st h
  have hreturns : ∀ node handle, Warning.cycleSkipped node handle ∈ st.warnings →
      ∃ path v, tree.Reaches path v ∧ v.Returns s.graph path (node, handle) := by
    intro node handle hw
    rcases hwalked.skipped node handle hw with hbefore | hreturns
    · cases hbefore
    · exact hreturns.exists_reaches .root
  refine ⟨tree, hentry, hwalked.executed, ?_, hreturns, fun hopen node handle hw => ?_⟩
  · exact fun path v hv => (hv.allLawful hlawful).lawful
  · obtain ⟨path, v, hv, hreturn⟩ := hreturns node handle hw
    exact hopen node (hv.closed hlawful hreturn)

/-- Twice in order the same is said, and each time control would go back to the order. -/
def rounds : Setup where
  graph := .ofParts
    [{ Node.bare "start" "event-ready" with execOutputs := [.exec "out"] },
      { Node.bare "order" "flow-sequence" with
        execInputs := [.exec "in"]
        execOutputs := [.exec "then1", .exec "then2"] },
      { Node.bare "say" "action-say" with
        execInputs := [.exec "in"]
        execOutputs := [.exec "out"] }]
    [⟨none, "start", "out", "order", "in", .data⟩, ⟨none, "order", "then1", "say", "in", .data⟩,
      ⟨none, "order", "then2", "say", "in", .data⟩, ⟨none, "say", "out", "order", "in", .data⟩]
  limits := ⟨2, .zero⟩
  dice _ := 0

theorem run_walks_visit_tree_rounds :
    ∃ st, ((rounds.start "start" []).play .silent).result = .ok st ∧
      st.executed = ["start", "order", "say", "say"] ∧
      st.warnings = [.cycleSkipped "order" "in", .cycleSkipped "order" "in"] ∧
      ∃ tree : Visit, tree.node.id = "start" ∧ st.executed = tree.preorder ∧
        (∀ path v, tree.Reaches path v → v.Lawful rounds path) ∧
        (∀ node handle, Warning.cycleSkipped node handle ∈ st.warnings →
          ∃ path v, tree.Reaches path v ∧ v.Returns rounds.graph path (node, handle)) ∧
        ((∀ node, ¬ Relation.TransGen (Graph.Linked rounds.graph.execEdges) node node) →
          ∀ node handle, Warning.cycleSkipped node handle ∉ st.warnings) :=
  ⟨_, rfl, rfl, rfl, run_walks_visit_tree rounds "start" [] .silent _ rfl⟩

end Setup

end PinFlow
