import PinFlow.Runner.Setting

/-!
Tables of a settings file while it is read.

A table can be opened by its own header, by the header of a table inside it, or by a key with
points. How it was opened decides what may still be added: a header opens a table once, and not one
that a key has opened; a key with points reaches no table that has a header of its own.
-/

set_option autoImplicit false

namespace PinFlow.Runner

/-- How a table was opened: by its header, by the header of a table in it, or by a key. -/
inductive Opening where
  | header
  | inner
  | key
  deriving DecidableEq, Repr

/-- An entry of a table: complete, a table, or a list of tables with headers. -/
inductive Draft where
  | done (s : Setting)
  | table (opening : Opening) (entries : List (String × Draft))
  | tables (items : List Draft)
  deriving Inhabited

abbrev DraftTable := List (String × Draft)

namespace DraftTable

/-- Writes an entry in the place of that with the same name, or at the end. -/
def put (t : DraftTable) (name : String) (d : Draft) : DraftTable :=
  match t with
  | [] => [(name, d)]
  | (n, old) :: rest => if n = name then (name, d) :: rest else (n, old) :: put rest name d

/-- Changes the table at a path. Tables that are not there yet are opened as `opening` says; in a
    list of tables the path leads to the last one. -/
def within? (opening : Opening) (change : Opening → DraftTable → Option DraftTable) :
    (path : List String) → (self : Opening) → DraftTable → Option DraftTable
  | [], self, t => change self t
  | name :: path, _, t =>
    match t.lookup name with
    | none =>
      (within? opening change path opening []).map fun inner =>
        t.put name (.table opening inner)
    | some (.table self inner) =>
      if opening = .key ∧ self = .header then none
      else (within? opening change path self inner).map fun inner =>
        t.put name (.table self inner)
    | some (.tables items) =>
      match items.getLast? with
      | some (.table self inner) =>
        (within? opening change path self inner).map fun inner =>
          t.put name (.tables (items.dropLast ++ [.table self inner]))
      | _ => none
    | some (.done _) => none

def splitLast? (path : List String) : Option (List String × String) :=
  path.getLast?.map fun name => (path.dropLast, name)

def openTable? (path : List String) (t : DraftTable) : Option DraftTable := do
  let (outer, name) ← splitLast? path
  within? .inner (fun _ t =>
    match t.lookup name with
    | none => some (t.put name (.table .header []))
    | some (.table .inner inner) => some (t.put name (.table .header inner))
    | _ => none) outer .header t

def openItem? (path : List String) (t : DraftTable) : Option DraftTable := do
  let (outer, name) ← splitLast? path
  within? .inner (fun _ t =>
    match t.lookup name with
    | none => some (t.put name (.tables [.table .header []]))
    | some (.tables items) => some (t.put name (.tables (items ++ [.table .header []])))
    | _ => none) outer .header t

/-- Adds a setting whose key is given below some table. A key with points adds only to tables that
    such a key has opened. -/
def define? (key : List String) (s : Setting) (t : DraftTable) : Option DraftTable := do
  let (outer, name) ← splitLast? key
  within? .key (fun self t =>
    if (t.lookup name).isSome || (!outer.isEmpty && self != .key) then none
    else some (t.put name (.done s))) outer .header t

end DraftTable

mutual

def Draft.toSetting : Draft → Setting
  | .done s => s
  | .table _ entries => .table (draftEntries entries)
  | .tables items => .list (draftItems items)

def draftEntries : List (String × Draft) → List (String × Setting)
  | [] => []
  | (name, d) :: rest => (name, d.toSetting) :: draftEntries rest

def draftItems : List Draft → List Setting
  | [] => []
  | d :: rest => d.toSetting :: draftItems rest

end

end PinFlow.Runner
