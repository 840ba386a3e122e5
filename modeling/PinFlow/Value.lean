import PinFlow.Number.Decimal
import PinFlow.Fields

/-!
Dynamic values: what pins carry, configurations hold and payloads consist of.

A missing value is `none : Option Value` and differs from `null`.
-/

set_option autoImplicit false

namespace PinFlow

/-- Integers are those of at least `-2 ^ 63` and below `2 ^ 64`; every other number is a finite
    float. The kind is kept, so that `1` and `1.0` are different values. -/
inductive Number where
  | int (n : Int)
  | float (x : Binary64)
  deriving DecidableEq, Repr, Inhabited

namespace Number

def leastInt : Int := -9223372036854775808

def greatestInt : Int := 18446744073709551615

def toBinary64 : Number → Binary64
  | .int n => .ofInt n
  | .float x => x

/-- Equality within a kind; numbers of different kinds are never the same. -/
def same : Number → Number → Bool
  | .int m, .int n => m == n
  | .float x, .float y => x.eq y
  | _, _ => false

def text : Number → String
  | .int n => toString n
  | .float x => x.toLiteralText

end Number

inductive Value where
  | null
  | bool (b : Bool)
  | number (n : Number)
  | string (s : String)
  | array (items : List Value)
  | object (fields : List (String × Value))
  deriving Repr, Inhabited

namespace Value

mutual

/-- Structural equality. Floats compare by value, so that the two zeros are the same. -/
def same : Value → Value → Bool
  | .null, .null => true
  | .bool a, .bool b => a == b
  | .number m, .number n => m.same n
  | .string s, .string t => s == t
  | .array xs, .array ys => sameItems xs ys
  | .object xs, .object ys => sameFields xs ys
  | _, _ => false

def sameItems : List Value → List Value → Bool
  | [], [] => true
  | x :: xs, y :: ys => x.same y && sameItems xs ys
  | _, _ => false

def sameFields : List (String × Value) → List (String × Value) → Bool
  | [], [] => true
  | (k, x) :: xs, (l, y) :: ys => k == l && x.same y && sameFields xs ys
  | _, _ => false

end

def int (n : Int) : Value := .number (.int n)

def isNull : Value → Bool
  | .null => true
  | _ => false

/-- The field of an object; other values have none. -/
def field? (v : Value) (key : String) : Option Value :=
  match v with
  | .object fields => Fields.get? fields key
  | _ => none

def string? : Value → Option String
  | .string s => some s
  | _ => none

def array? : Value → Option (List Value)
  | .array items => some items
  | _ => none

end Value

end PinFlow
