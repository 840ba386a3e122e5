/-!
Records with text keys, as lists of entries in increasing code point order of their keys.

The main law is `get?_insert`: a look-up after an insertion finds the inserted value under its key
and what was there before under every other key.
-/

set_option autoImplicit false

namespace PinFlow

/-- Named entries. Those built by `insert` and `ofEntries` have increasing keys. -/
abbrev Fields (α : Type) := List (String × α)

namespace Fields

variable {α : Type}

def get? (fields : Fields α) (key : String) : Option α := fields.lookup key

def contains (fields : Fields α) (key : String) : Bool := (fields.get? key).isSome

/-- Writes a value under a key, at the place of an entry with that key if there is one. -/
def insert (fields : Fields α) (key : String) (value : α) : Fields α :=
  match fields with
  | [] => [(key, value)]
  | (k, v) :: rest =>
    if key = k then (key, value) :: rest
    else if key < k then (key, value) :: (k, v) :: rest
    else (k, v) :: insert rest key value

/-- The record of a list of entries; of entries with the same key the last counts. -/
def ofEntries (entries : List (String × α)) : Fields α :=
  entries.foldl (fun fields entry => insert fields entry.1 entry.2) []

theorem get?_nil (key : String) : get? ([] : Fields α) key = none := rfl

theorem get?_cons (k : String) (v : α) (rest : Fields α) (key : String) :
    get? ((k, v) :: rest) key = if key = k then some v else get? rest key := by
  unfold get?
  rw [List.lookup_cons]
  by_cases h : key = k
  · simp [h]
  · have : (key == k) = false := by simpa using h
    simp [h, this]

theorem get?_insert (fields : Fields α) (key : String) (value : α) (other : String) :
    get? (insert fields key value) other =
      if other = key then some value else get? fields other := by
  induction fields with
  | nil => rw [insert, get?_cons]
  | cons entry rest ih =>
    obtain ⟨k, v⟩ := entry
    rw [insert]
    split
    · rename_i h
      simp only [get?_cons, h]
      split <;> rfl
    · split
      · rw [get?_cons]
      · rename_i hne _
        simp only [get?_cons, ih]
        by_cases hk : other = k
        · have : ¬ other = key := fun h => hne (h.symm.trans hk)
          simp only [hk, if_true]
          rw [if_neg (hk ▸ this)]
        · simp only [hk, if_false]

end Fields

end PinFlow
