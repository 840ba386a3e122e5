/-!
Finite tables for the state of a run. The law `get?_insert` is all that is ever used of them.
-/

set_option autoImplicit false

namespace PinFlow

/-- A finite map as a list of entries, at most one for each key, the latest written first. -/
structure Table (κ α : Type) where
  entries : List (κ × α)
  deriving Repr

namespace Table

variable {κ α : Type} [DecidableEq κ]

def empty : Table κ α := ⟨[]⟩

instance : Inhabited (Table κ α) := ⟨empty⟩

def get? (t : Table κ α) (key : κ) : Option α := (t.entries.find? (·.1 = key)).map Prod.snd

def insert (t : Table κ α) (key : κ) (value : α) : Table κ α :=
  ⟨(key, value) :: t.entries.filter (·.1 ≠ key)⟩

@[simp]
theorem get?_empty (key : κ) : (empty : Table κ α).get? key = none := rfl

theorem find?_filter_ne (entries : List (κ × α)) {key other : κ} (h : other ≠ key) :
    (entries.filter (·.1 ≠ key)).find? (·.1 = other) = entries.find? (·.1 = other) := by
  induction entries with
  | nil => rfl
  | cons entry rest ih =>
    by_cases hk : entry.1 = key
    · have : entry.1 ≠ other := fun ho => h (ho.symm.trans hk)
      simp only [List.filter_cons, hk, ne_eq, not_true, decide_false, Bool.false_eq_true, if_false]
      rw [List.find?_cons_of_neg (by simpa using this)]
      exact ih
    · simp only [List.filter_cons, hk, ne_eq, not_false_eq_true, decide_true, if_true,
        List.find?_cons]
      split
      · rfl
      · exact ih

@[simp]
theorem get?_insert (t : Table κ α) (key : κ) (value : α) (other : κ) :
    (t.insert key value).get? other = if other = key then some value else t.get? other := by
  by_cases h : other = key
  · subst h
    simp [get?, insert]
  · have h' : ¬ key = other := fun e => h e.symm
    simp only [get?, insert, h, if_false]
    rw [List.find?_cons_of_neg (by simpa using h'), find?_filter_ne _ h]

end Table

end PinFlow
