import PinFlow.Proofs.Graph.Cycle
import PinFlow.Proofs.Run.Conduct

set_option autoImplicit false

/-!
# Trees of visits

The root of a tree of visits is the visit of some node, and behind each exit that a visit takes
stand the visits to which the edges lead. A visit is `Lawful` at the end of a path if it takes exits
that its kind allows and follows exactly the open edges behind them. In a lawful tree an edge that
leads back to the path closes a cycle of exec edges.
-/

namespace PinFlow

def Edge.input (e : Edge) : PinKey := (e.target, e.targetHandle)

def Graph.execEdges (g : Graph) : List Edge := g.edges.filter Edge.isExec

theorem Graph.linked_of_leaving {g : Graph} {node : NodeId} {handle : Handle} {e : Edge}
    (h : e ∈ g.edgesLeaving node handle) : Linked g.execEdges node e.target := by
  obtain ⟨hmem, hleaves⟩ := List.mem_filter.1 h
  simp only [Edge.leaves, Bool.and_eq_true, beq_iff_eq] at hleaves
  exact ⟨e, List.mem_filter.2 ⟨hmem, hleaves.1.1⟩, hleaves.1.2, rfl⟩

/-- An edge is followed unless it ends at an input on the path, or the path is as long as the depth
    bound admits, or no node of a known kind is at its end. -/
def Setup.opens (s : Setup) (path : List PinKey) (e : Edge) : Bool :=
  decide (e.input ∉ path) && decide (path.length < s.limits.maxDepth) &&
    ((s.graph.node? e.target).bind Node.kind?).isSome

theorem Node.mayTake_defaultExits {node : Node} (h : node.category? = some .event) :
    node.MayTake node.defaultExits := by
  obtain ⟨kind, hkind, hcategory⟩ := Option.map_eq_some_iff.1 h
  cases kind with
  | event kind => simp only [MayTake, hkind]
  | action => cases hcategory
  | pure kind => cases hcategory
  | flow kind => cases hcategory

/-- The visit of a node: the exits that it took, and behind each the edges that were followed with
    the visits at their ends. -/
inductive Visit where
  | mk (node : Node) (firings : List (NodeExit × List (Edge × Visit)))

namespace Visit

def node : Visit → Node
  | .mk node _ => node

def firings : Visit → List (NodeExit × List (Edge × Visit))
  | .mk _ firings => firings

mutual

def preorder : Visit → List NodeId
  | .mk node firings => node.id :: preorderOfFirings firings

def preorderOfFirings : List (NodeExit × List (Edge × Visit)) → List NodeId
  | [] => []
  | (_, followed) :: rest => preorderOfFollowed followed ++ preorderOfFirings rest

def preorderOfFollowed : List (Edge × Visit) → List NodeId
  | [] => []
  | (_, visit) :: rest => preorder visit ++ preorderOfFollowed rest

end

theorem preorderOfFollowed_append (followed followed' : List (Edge × Visit)) :
    preorderOfFollowed (followed ++ followed') =
      preorderOfFollowed followed ++ preorderOfFollowed followed' := by
  induction followed with
  | nil => rfl
  | cons branch rest ih =>
    simp only [List.cons_append, preorderOfFollowed, ih, List.append_assoc]

/-- The visits of a tree, each with its path: the inputs at which control entered on the way from
    the root, latest first. -/
inductive Reaches (root : Visit) : List PinKey → Visit → Prop where
  | root : Reaches root [] root
  | child {path : List PinKey} {v : Visit} {firing : NodeExit × List (Edge × Visit)}
      {branch : Edge × Visit} : Reaches root path v → firing ∈ v.firings → branch ∈ firing.2 →
      Reaches root (branch.1.input :: path) branch.2

structure Lawful (s : Setup) (path : List PinKey) (v : Visit) : Prop where
  present : s.graph.node? v.node.id = some v.node
  exits : v.node.MayTake (v.firings.map Prod.fst)
  followed : ∀ firing ∈ v.firings, firing.2.map Prod.fst =
    (s.graph.edgesLeaving v.node.id firing.1.handle).filter (s.opens path)
  targets : ∀ firing ∈ v.firings, ∀ branch ∈ firing.2, branch.2.node.id = branch.1.target
  nodup : path.Nodup
  bounded : path.length ≤ s.limits.maxDepth

inductive AllLawful (s : Setup) : List PinKey → Visit → Prop where
  | intro {path : List PinKey} {v : Visit} : v.Lawful s path →
      (∀ firing ∈ v.firings, ∀ branch ∈ firing.2,
        AllLawful s (branch.1.input :: path) branch.2) →
      AllLawful s path v

/-- An edge that leaves through an exit of the visit leads back to an input on the path. -/
def Returns (g : Graph) (path : List PinKey) (v : Visit) (key : PinKey) : Prop :=
  key ∈ path ∧ ∃ firing ∈ v.firings, ∃ e ∈ g.edgesLeaving v.node.id firing.1.handle, e.input = key

inductive SomeReturns (g : Graph) : List PinKey → Visit → PinKey → Prop where
  | here {path : List PinKey} {v : Visit} {key : PinKey} : v.Returns g path key →
      SomeReturns g path v key
  | behind {path : List PinKey} {v : Visit} {key : PinKey} {firing : NodeExit × List (Edge × Visit)}
      {branch : Edge × Visit} : firing ∈ v.firings → branch ∈ firing.2 →
      SomeReturns g (branch.1.input :: path) branch.2 key → SomeReturns g path v key

variable {s : Setup} {g : Graph} {root v : Visit} {path : List PinKey} {key : PinKey}

theorem AllLawful.lawful (h : v.AllLawful s path) : v.Lawful s path := by
  cases h with
  | intro hlawful _ => exact hlawful

theorem Reaches.allLawful (h : root.Reaches path v) (hroot : root.AllLawful s []) :
    v.AllLawful s path := by
  induction h with
  | root => exact hroot
  | child _ hfiring hbranch ih =>
    cases ih with
    | intro _ hbehind => exact hbehind _ hfiring _ hbranch

theorem SomeReturns.exists_reaches (h : v.SomeReturns g path key) (hv : root.Reaches path v) :
    ∃ path' w, root.Reaches path' w ∧ w.Returns g path' key := by
  induction h with
  | here hreturns => exact ⟨_, _, hv, hreturns⟩
  | behind hfiring hbranch _ ih => exact ih (hv.child hfiring hbranch)

theorem Reaches.linked (h : root.Reaches path v) (hroot : root.AllLawful s [])
    (hkey : key ∈ path) :
    Relation.ReflTransGen (Graph.Linked s.graph.execEdges) key.1 v.node.id := by
  induction h with
  | root => cases hkey
  | @child path v firing branch hv hfiring hbranch ih =>
    have hlawful := (hv.allLawful hroot).lawful
    have hedge : branch.1 ∈ firing.2.map Prod.fst := List.mem_map_of_mem hbranch
    rw [hlawful.followed firing hfiring] at hedge
    rw [hlawful.targets firing hfiring branch hbranch]
    -- The last input on the path is that of the visit itself.
    rcases List.mem_cons.1 hkey with rfl | hkey
    · exact .refl
    · exact (ih hkey).tail (Graph.linked_of_leaving (List.mem_filter.1 hedge).1)

theorem Reaches.closed (h : root.Reaches path v) (hroot : root.AllLawful s [])
    (hreturns : v.Returns s.graph path key) :
    Relation.TransGen (Graph.Linked s.graph.execEdges) key.1 key.1 := by
  obtain ⟨hkey, firing, -, e, he, rfl⟩ := hreturns
  exact Relation.TransGen.tail' (h.linked hroot hkey) (Graph.linked_of_leaving he)

end Visit

end PinFlow
