import PinFlow.Number.Literal
import PinFlow.Text.Case
import PinFlow.Value

/-!
Settings, and how one is understood where a certain type is needed: texts may spell numbers and
truth values, numbers may stand for texts.
-/

set_option autoImplicit false

namespace PinFlow.Runner

/-- Integers have 64 bits and a sign. A place in a list that was never set is `unset`. -/
inductive Setting where
  | unset
  | bool (b : Bool)
  | int (n : Int)
  | real (x : Binary64)
  | text (s : String)
  | list (items : List Setting)
  | table (entries : List (String × Setting))
  deriving Repr, Inhabited

namespace Setting

/-- Words that stand for a truth value, in any case of letters. -/
def truthOfWord? (s : String) : Option Bool :=
  match Text.lower s with
  | "true" => some true
  | "on" => some true
  | "yes" => some true
  | "false" => some false
  | "off" => some false
  | "no" => some false
  | _ => none

def integerOfText? (cs : List Char) : Option Int :=
  match NumberLiteral.split? cs with
  | some l => if l.isInteger && !l.whole.isEmpty then some l.toInt else none
  | none => none

def greatestCount : Int := 18446744073709551615

def truthCount (b : Bool) : Nat := if b then 1 else 0

/-- The nearest natural number of 64 bits. -/
def countOfReal (x : Binary64) : Nat :=
  match x with
  | .infinite false => greatestCount.toNat
  | x => (min greatestCount (max 0 (x.round?.getD 0))).toNat

def countOfText? (s : String) : Option Nat :=
  match truthOfWord? s with
  | some b => some (truthCount b)
  | none =>
    if s.toList.head? = some '-' then none
    else
      match integerOfText? s.toList with
      | some n => if n ≤ greatestCount then some n.toNat else none
      | none => none

/-- A setting as a natural number of 64 bits. -/
def count? : Setting → Option Nat
  | .bool b => some (truthCount b)
  | .int n => if 0 ≤ n then some n.toNat else none
  | .real x => some (countOfReal x)
  | .text s => countOfText? s
  | _ => none

def real? : Setting → Option Binary64
  | .bool b => some (.ofNat (truthCount b))
  | .int n => some (.ofInt n)
  | .real x => some x
  | .text s =>
    match truthOfWord? s with
    | some b => some (.ofNat (truthCount b))
    | none => Binary64.ofText? s.toList
  | _ => none

def text? : Setting → Option String
  | .bool true => some "true"
  | .bool false => some "false"
  | .int n => some (toString n)
  | .real x => some x.toPlainText
  | .text s => some s
  | _ => none

/-- Whether an integer fits 64 bits with a sign. -/
def isWord (n : Int) : Bool := decide (-9223372036854775808 ≤ n ∧ n ≤ 9223372036854775807)

/-- The setting that an environment variable holds: a truth value, an integer, a float or else a
    text. -/
def ofVariable (s : String) : Setting :=
  match Text.lower s with
  | "true" => .bool true
  | "false" => .bool false
  | _ =>
    match (integerOfText? s.toList).filter isWord with
    | some n => .int n
    | none =>
      match Binary64.ofText? s.toList with
      | some x => .real x
      | none => .text s

/-- Integers beyond 64 bits with a sign become floats. -/
def ofNumber : Number → Setting
  | .int n => if isWord n then .int n else .real (.ofInt n)
  | .float x => .real x

mutual

def ofValue : Value → Setting
  | .null => .unset
  | .bool b => .bool b
  | .number n => ofNumber n
  | .string s => .text s
  | .array items => .list (ofItems items)
  | .object fields => .table (ofFields fields)

def ofItems : List Value → List Setting
  | [] => []
  | v :: rest => ofValue v :: ofItems rest

def ofFields : List (String × Value) → List (String × Setting)
  | [] => []
  | (name, v) :: rest => (name, ofValue v) :: ofFields rest

end

end Setting

abbrev Settings := Fields Setting

end PinFlow.Runner
