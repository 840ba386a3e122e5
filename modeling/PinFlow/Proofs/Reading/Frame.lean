import PinFlow.Proofs.Reading.Origin

set_option autoImplicit false

/-!
# What every reading guarantees

A reading leaves node outputs, generation, trigger and guards as they were, records warnings behind
the earlier ones, and never changes a valid memo. The same specification is proved of each layer:
gathering inputs, computing a pure node, and reading a pin at any depth.
-/

namespace PinFlow

structure RunState.Tagged (st : RunState) : Prop where
  pins : ∀ key tag v, st.livePins.get? key = some (tag, v) → tag ≤ st.generation
  results : ∀ node tag v, st.livePure.get? node = some (tag, v) → tag ≤ st.generation

/-- The second state comes from the first by reading. -/
structure ReadFrame (st st' : RunState) : Prop where
  trigger : st'.trigger = st.trigger
  outputs : st'.outputs = st.outputs
  generation : st'.generation = st.generation
  active : st'.active = st.active
  executed : st'.executed = st.executed
  resolving : st'.resolving = st.resolving
  warnings : st.warnings <+: st'.warnings
  pins : ∀ key r, st.memoizedPin? key = some r → st'.memoizedPin? key = some r
  results : ∀ node r, st.memoizedPure? node = some r → st'.memoizedPure? node = some r
  /-- A pin whose reading is in progress is memoized by that reading only. -/
  inProgress : ∀ key ∈ st.resolving, st'.memoizedPin? key = st.memoizedPin? key
  tags : st.Tagged → st'.Tagged

namespace ReadFrame

variable {st st' st'' : RunState}

theorem refl (st : RunState) : ReadFrame st st :=
  ⟨rfl, rfl, rfl, rfl, rfl, rfl, List.prefix_refl _, fun _ _ h => h, fun _ _ h => h,
    fun _ _ => rfl, fun h => h⟩

theorem trans (h : ReadFrame st st') (h' : ReadFrame st' st'') : ReadFrame st st'' where
  trigger := h'.trigger.trans h.trigger
  outputs := h'.outputs.trans h.outputs
  generation := h'.generation.trans h.generation
  active := h'.active.trans h.active
  executed := h'.executed.trans h.executed
  resolving := h'.resolving.trans h.resolving
  warnings := h.warnings.trans h'.warnings
  pins key r hr := h'.pins key r (h.pins key r hr)
  results node r hr := h'.results node r (h.results node r hr)
  inProgress key hkey := by
    rw [h'.inProgress key (h.resolving ▸ hkey)]
    exact h.inProgress key hkey
  tags ht := h'.tags (h.tags ht)

theorem cuts_le (h : ReadFrame st st') : st.cuts ≤ st'.cuts :=
  RunState.cuts_le_of_prefix h.warnings

theorem output? (h : ReadFrame st st') : st'.output? = st.output? := by
  funext node handle
  simp only [RunState.output?, h.outputs]

theorem warn (st : RunState) (w : Warning) : ReadFrame st (st.warn w) :=
  { refl st with warnings := List.prefix_append _ _, tags := fun h => ⟨h.pins, h.results⟩ }

theorem recordDraw (st : RunState) (node : NodeId) : ReadFrame st (st.recordDraw node) :=
  { refl st with tags := fun h => ⟨h.pins, h.results⟩ }

theorem memoizePin {key : PinKey} {r : Reading} (hnone : st.memoizedPin? key = none)
    (hkey : key ∉ st.resolving) : ReadFrame st (st.memoizePin key r) := by
  have hpins : ∀ other, other ≠ key →
      (st.memoizePin key r).memoizedPin? other = st.memoizedPin? other :=
    fun other hne => RunState.memoizedPin?_memoizePin_ne hne
  have hne : ∀ other found, st.memoizedPin? other = some found → other ≠ key := by
    rintro other found hfound rfl
    rw [hnone] at hfound
    cases hfound
  have htags : st.Tagged → (st.memoizePin key r).Tagged := by
    intro ht
    rw [RunState.memoizePin_eq]
    exact ⟨Memo.store_tags ht.pins, ht.results⟩
  have hresults : ∀ node, (st.memoizePin key r).memoizedPure? node = st.memoizedPure? node :=
    st.memoizedPure?_memoizePin key r
  rw [RunState.memoizePin_eq] at *
  exact { refl st with
    pins := fun other found hfound => (hpins other (hne other found hfound)).trans hfound
    inProgress := fun other hother => hpins other (fun h => hkey (h ▸ hother))
    tags := htags }

theorem memoizePure {node : NodeId} {r : Reading} (hnone : st.memoizedPure? node = none) :
    ReadFrame st (st.memoizePure node r) := by
  have hresults : ∀ other found, st.memoizedPure? other = some found →
      (st.memoizePure node r).memoizedPure? other = some found := by
    intro other found hfound
    have hne : other ≠ node := by
      rintro rfl
      rw [hnone] at hfound
      cases hfound
    rw [RunState.memoizedPure?_memoizePure_ne hne]
    exact hfound
  have htags : st.Tagged → (st.memoizePure node r).Tagged := by
    intro ht
    rw [RunState.memoizePure_eq]
    exact ⟨ht.pins, Memo.store_tags ht.results⟩
  rw [RunState.memoizePure_eq] at *
  exact { refl st with results := hresults, tags := htags }

theorem within {key : PinKey} (h : ReadFrame (st.beginReading key) st') :
    ReadFrame st (st'.endReading key) where
  trigger := h.trigger
  outputs := h.outputs
  generation := h.generation
  active := h.active
  executed := h.executed
  resolving := by
    change st'.resolving.erase key = st.resolving
    rw [h.resolving]
    exact List.erase_cons_head key st.resolving
  warnings := h.warnings
  pins := h.pins
  results := h.results
  inProgress k hk := h.inProgress k (List.mem_cons_of_mem _ hk)
  tags ht := by
    obtain ⟨hpins, hresults⟩ := h.tags ⟨ht.pins, ht.results⟩
    exact ⟨hpins, hresults⟩

end ReadFrame

/-- A memoized pin that a computing node feeds holds the memoized result of that node. -/
def Coherent (g : Graph) (st : RunState) : Prop :=
  ∀ key source kind r, g.origin key = .computed source kind → st.memoizedPin? key = some r →
    st.memoizedPure? source.id = some r

/-- Something is counted at most once, and only while the node comes by its result. -/
def CountsOnce (count : RunState → Nat) (node : NodeId) (st st' : RunState) : Prop :=
  count st' = count st ∨
    (st.memoizedPure? node = none ∧ st'.memoizedPure? node ≠ none ∧ count st' = count st + 1)

theorem CountsOnce.trans {c : RunState → Nat} {node : NodeId} {st st' st'' : RunState}
    (hresults : ∀ r, st.memoizedPure? node = some r → st'.memoizedPure? node = some r)
    (hresults' : ∀ r, st'.memoizedPure? node = some r → st''.memoizedPure? node = some r)
    (h : CountsOnce c node st st') (h' : CountsOnce c node st' st'') :
    CountsOnce c node st st'' := by
  have hlater : st'.memoizedPure? node ≠ none → st''.memoizedPure? node ≠ none := by
    intro hsome
    obtain ⟨r, hr⟩ := Option.ne_none_iff_exists'.1 hsome
    rw [hresults' r hr]
    simp
  have hearlier : st'.memoizedPure? node = none → st.memoizedPure? node = none := by
    intro hnone
    by_contra hsome
    obtain ⟨r, hr⟩ := Option.ne_none_iff_exists'.1 hsome
    rw [hresults r hr] at hnone
    cases hnone
  rcases h with heq | ⟨hnone, hsome, heq⟩
  · rcases h' with heq' | ⟨hnone', hsome', heq'⟩
    · exact .inl (heq'.trans heq)
    · exact .inr ⟨hearlier hnone', hsome', by omega⟩
  · rcases h' with heq' | ⟨hnone', -, -⟩
    · exact .inr ⟨hnone, hlater hsome, by omega⟩
    · exact absurd hnone' hsome

def DrawsOnce (st st' : RunState) : Prop :=
  ∀ node, st'.draws.count node = st.draws.count node ∨
    (st.memoizedPure? node = none ∧ st'.memoizedPure? node ≠ none ∧
      st'.draws.count node = st.draws.count node + 1)

namespace DrawsOnce

variable {st st' st'' : RunState}

theorem of_draws (h : st'.draws = st.draws) : DrawsOnce st st' :=
  fun _ => .inl (by rw [h])

theorem trans
    (hresults : ∀ node r, st.memoizedPure? node = some r → st'.memoizedPure? node = some r)
    (hresults' : ∀ node r, st'.memoizedPure? node = some r → st''.memoizedPure? node = some r)
    (h : DrawsOnce st st') (h' : DrawsOnce st' st'') : DrawsOnce st st'' :=
  fun node => CountsOnce.trans (c := fun st => st.draws.count node) (hresults node)
    (hresults' node) (h node) (h' node)

end DrawsOnce

structure Advance (g : Graph) (st st' : RunState) : Prop where
  frame : ReadFrame st st'
  coherent : Coherent g st → Coherent g st'
  draws : st'.cuts = st.cuts → DrawsOnce st st'

namespace Advance

variable {g : Graph} {st st' st'' : RunState}

theorem refl (g : Graph) (st : RunState) : Advance g st st :=
  ⟨.refl st, fun h => h, fun _ => .of_draws rfl⟩

theorem trans (h : Advance g st st') (h' : Advance g st' st'') : Advance g st st'' where
  frame := h.frame.trans h'.frame
  coherent hc := h'.coherent (h.coherent hc)
  draws hcuts := by
    have hle := h.frame.cuts_le
    have hle' := h'.frame.cuts_le
    exact (h.draws (by omega)).trans h.frame.results h'.frame.results (h'.draws (by omega))

theorem warn (g : Graph) (st : RunState) (w : Warning) : Advance g st (st.warn w) :=
  ⟨.warn st w, fun h => h, fun _ => .of_draws rfl⟩

theorem memoizePin {key : PinKey} {r : Reading} (hnone : st.memoizedPin? key = none)
    (hkey : key ∉ st.resolving)
    (hresult : ∀ source kind, g.origin key = .computed source kind → r.lifetime ≠ .uncached →
      st.memoizedPure? source.id = some r) :
    Advance g st (st.memoizePin key r) where
  frame := .memoizePin hnone hkey
  draws _ := .of_draws (by rw [RunState.memoizePin_eq])
  coherent hc := by
    intro other source kind found horigin hfound
    rw [RunState.memoizedPure?_memoizePin]
    by_cases hother : other = key
    · subst hother
      by_cases hr : r.lifetime = .uncached
      · rw [RunState.memoizePin_uncached hr, hnone] at hfound
        cases hfound
      · rw [RunState.memoizedPin?_memoizePin_self hnone hr] at hfound
        cases hfound
        exact hresult source kind horigin hr
    · rw [RunState.memoizedPin?_memoizePin_ne hother] at hfound
      exact hc other source kind found horigin hfound

theorem within {key : PinKey} (h : Advance g (st.beginReading key) st') :
    Advance g st (st'.endReading key) :=
  ⟨h.frame.within, h.coherent, h.draws⟩

end Advance

end PinFlow
