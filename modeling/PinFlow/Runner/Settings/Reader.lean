import PinFlow.Runner.Settings.Draft
import PinFlow.Runner.Settings.Literal

/-!
Settings files: lines `key = value` below headers `[table]`.
-/

set_option autoImplicit false

namespace PinFlow.Runner.SettingsFile

open SettingPath (skipSpace isSpace)

/-! ### White space -/

def skipVoid? (inComment : Bool) : List Char → Option (List Char)
  | [] => some []
  | '\n' :: rest => skipVoid? false rest
  | '\r' :: rest => if rest.head? = some '\n' then skipVoid? inComment rest else none
  | '#' :: rest => skipVoid? true rest
  | c :: rest =>
    if inComment then if isShown c then skipVoid? true rest else none
    else if isSpace c then skipVoid? false rest
    else some (c :: rest)

/-- Skips the rest of a line, on which only white space and a comment may stand. -/
def skipLine? (inComment : Bool) : List Char → Option (List Char)
  | [] => some []
  | '\n' :: rest => some rest
  | '\r' :: rest => if rest.head? = some '\n' then some (rest.drop 1) else none
  | '#' :: rest => skipLine? true rest
  | c :: rest => if isSpace c || (inComment && isShown c) then skipLine? inComment rest else none

/-! ### Keys and values -/

def simpleKey? (cs : List Char) : Option (String × List Char) :=
  match lineText? cs with
  | some found => some found
  | none =>
    let name := cs.takeWhile SettingPath.isNameChar
    if name.isEmpty then none else some (String.ofList name, cs.drop name.length)

/-- Names with points between them, at most `fuel` of them. -/
def key? : (fuel : Nat) → List Char → Option (List String × List Char)
  | 0, _ => none
  | fuel + 1, cs => do
    let (name, rest) ← simpleKey? (skipSpace cs)
    match skipSpace rest with
    | '.' :: rest => (key? fuel rest).map fun (names, rest) => (name :: names, rest)
    | rest => some ([name], rest)

mutual

/-- A value in which lists and tables nest at most `room` deep. -/
def value? : (fuel room : Nat) → List Char → Option (Setting × List Char)
  | 0, _, _ => none
  | fuel + 1, room, cs =>
    match cs with
    | '[' :: rest => if room = 0 then none else items? fuel (room - 1) [] rest
    | '\x7b' :: rest => if room = 0 then none else members? fuel (room - 1) [] rest
    | '\"' :: _ => (quotedText? cs).map fun (s, rest) => (.text s, rest)
    | '\'' :: _ => (quotedText? cs).map fun (s, rest) => (.text s, rest)
    | _ =>
      let word := Literal.word cs
      (Literal.ofWord? word).map fun s => (s, cs.drop word.length)

/-- The rest of a list; `acc` are the items before, in reverse. -/
def items? : (fuel room : Nat) → (acc : List Setting) → List Char → Option (Setting × List Char)
  | 0, _, _, _ => none
  | fuel + 1, room, acc, cs => do
    match ← skipVoid? false cs with
    | ']' :: rest => some (.list acc.reverse, rest)
    | cs =>
      let (s, cs) ← value? fuel room cs
      match ← skipVoid? false cs with
      | ',' :: rest => items? fuel room (s :: acc) rest
      | ']' :: rest => some (.list (s :: acc).reverse, rest)
      | _ => none

/-- The rest of a table in braces; `t` are the entries before. -/
def members? : (fuel room : Nat) → (t : DraftTable) → List Char → Option (Setting × List Char)
  | 0, _, _, _ => none
  | fuel + 1, room, t, cs => do
    match ← skipVoid? false cs with
    | '\x7d' :: rest => some (.table (draftEntries t), rest)
    | cs =>
      let (key, cs) ← key? cs.length cs
      match cs with
      | '=' :: cs =>
        let (s, cs) ← value? fuel room (skipSpace cs)
        let t ← t.define? key s
        match ← skipVoid? false cs with
        | ',' :: rest => members? fuel room t rest
        | '\x7d' :: rest => some (.table (draftEntries t), rest)
        | _ => none
      | _ => none

end

def maxNesting : Nat := 80

/-! ### Statements -/

structure State where
  header : List String
  root : DraftTable

def header? (cs : List Char) : Option (List String × List Char) := do
  let (path, rest) ← key? cs.length cs
  match rest with
  | ']' :: rest => some (path, rest)
  | _ => none

def statement? (st : State) (cs : List Char) : Option (State × List Char) :=
  match cs with
  | '[' :: '[' :: rest => do
    let (path, rest) ← header? rest
    match rest with
    | ']' :: rest => return (⟨path, ← st.root.openItem? path⟩, rest)
    | _ => none
  | '[' :: rest => do
    let (path, rest) ← header? rest
    return (⟨path, ← st.root.openTable? path⟩, rest)
  | cs => do
    let (key, rest) ← key? cs.length cs
    match rest with
    | '=' :: rest =>
      let (s, rest) ← value? (2 * rest.length + 2) maxNesting (skipSpace rest)
      let root ← st.root.within? .inner (fun _ t => t.define? key s) st.header .header
      return (⟨st.header, root⟩, rest)
    | _ => none

/-- Statements, each on lines of its own, with empty lines between them. -/
def statements? : (fuel : Nat) → State → List Char → Option State
  | 0, _, _ => none
  | fuel + 1, st, cs =>
    if cs.isEmpty then some st
    else
      match skipLine? false cs with
      | some rest => statements? fuel st rest
      | none => do
        let (st, rest) ← statement? st (skipSpace cs)
        statements? fuel st (← skipLine? false rest)

/-- The text behind a byte order mark, if there is one. -/
def withoutMark : List Char → List Char
  | '\ufeff' :: rest => rest
  | cs => cs

def read? (s : String) : Option (List (String × Setting)) :=
  let cs := withoutMark s.toList
  (statements? (cs.length + 1) ⟨[], []⟩ cs).map fun st => draftEntries st.root

end PinFlow.Runner.SettingsFile
