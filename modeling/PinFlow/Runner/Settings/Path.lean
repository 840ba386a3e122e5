import PinFlow.Runner.Setting

/-!
Paths that lead to a setting, and what becomes of settings when one is made at a path.

A path is written as names with points between them, where an index in brackets may follow a name.
A table is merged into the table that it meets; every other setting replaces what it meets.
-/

set_option autoImplicit false

namespace PinFlow.Runner

/-- One step from a setting to a part of it. An index below zero counts from the end. -/
inductive Step where
  | name (s : String)
  | index (i : Int)
  deriving DecidableEq, Repr

abbrev SettingPath := List Step

namespace SettingPath

def isSpace (c : Char) : Bool := c == ' ' || c == '\t'

def skipSpace (cs : List Char) : List Char := cs.dropWhile isSpace

def isNameChar (c : Char) : Bool := c.isAlphanum || c == '_' || c == '-'

def name? (cs : List Char) : Option (Step × List Char) :=
  let name := cs.takeWhile isNameChar
  if name.isEmpty then none else some (.name (String.ofList name), cs.drop name.length)

def index? (cs : List Char) : Option (Step × List Char) :=
  let (negative, cs) :=
    match skipSpace cs with
    | '-' :: rest => (true, rest)
    | rest => (false, rest)
  let digits := cs.takeWhile Char.isDigit
  let size : Int := NumberLiteral.digitsValue digits
  let i := if negative then -size else size
  match skipSpace (cs.drop digits.length) with
  | ']' :: rest => if digits.isEmpty || !Setting.isWord i then none else some (.index i, rest)
  | _ => none

/-- The steps after the first name, at most `fuel` of them. -/
def steps? : (fuel : Nat) → List Char → Option SettingPath
  | _, [] => some []
  | 0, _ => none
  | fuel + 1, c :: rest => do
    let (step, rest) ←
      match c with
      | '.' => name? rest
      | '[' => index? rest
      | _ => none
    return step :: (← steps? fuel rest)

/-- The path that a text describes. A text that is no path is the name of a setting itself. -/
def ofText (s : String) : SettingPath :=
  let path : Option SettingPath := do
    let (first, rest) ← name? s.toList
    return first :: (← steps? rest.length rest)
  path.getD [.name s]

end SettingPath

namespace Setting

def members : Setting → Settings
  | .table entries => entries
  | _ => []

def elements : Setting → List Setting
  | .list items => items
  | _ => []

mutual

def merge (old : Setting) : Setting → Setting
  | .table entries => .table (mergeAll old.members entries)
  | s => s

def mergeAll (old : Settings) : List (String × Setting) → Settings
  | [] => old
  | (name, s) :: rest => mergeAll (old.insert name (merge ((old.get? name).getD .unset) s)) rest

end

/-- Items among which there is one at the index, and its position. -/
def withRoom (i : Int) (items : List Setting) : List Setting × Nat :=
  if 0 ≤ i then (items ++ List.replicate (i.toNat + 1 - items.length) .unset, i.toNat)
  else if i.natAbs ≤ items.length then (items, items.length - i.natAbs)
  else (List.replicate (i.natAbs - items.length) .unset ++ items, 0)

/-- Makes a setting at a path; what stands in the way of the path gives way. -/
def assign (s : Setting) : SettingPath → Setting → Setting
  | [], old => merge old s
  | .name n :: path, old =>
    .table (old.members.insert n (assign s path ((old.members.get? n).getD .unset)))
  | .index i :: path, old =>
    let (items, place) := withRoom i old.elements
    .list (items.set place (assign s path (items[place]?.getD .unset)))

end Setting

end PinFlow.Runner
