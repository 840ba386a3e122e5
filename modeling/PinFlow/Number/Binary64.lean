/-!
Binary floating-point numbers with 53 significant bits, in exact integer arithmetic.

A finite magnitude is counted in units of `2 ^ (-1074)`, the least positive magnitude, so that
sums, remainders and comparisons are those of integers, and every rounding is one rounding of a
quotient of natural numbers. No machine arithmetic is involved.
-/

set_option autoImplicit false

namespace PinFlow

/-- A number of the 64-bit binary format. The units of a finite magnitude have at most 53
    significant bits; zero keeps its sign. -/
inductive Binary64 where
  | nan
  | infinite (negative : Bool)
  | finite (negative : Bool) (units : Nat)
  deriving DecidableEq, Repr, Inhabited

namespace Binary64

/-- The units of the number one. -/
def oneUnits : Nat := Nat.pow 2 1074

/-- The least magnitude, in units, that is too large to be finite. -/
def overflowUnits : Nat := Nat.pow 2 2098

/-- A quotient rounded to the nearest integer; a half goes to the even neighbour. -/
def roundDiv (num den : Nat) : Nat :=
  let quotient := num / den
  let rest := num % den
  if 2 * rest < den then quotient
  else if den < 2 * rest then quotient + 1
  else quotient + quotient % 2

/-- How many low bits of a magnitude lie below its 53 significant ones. -/
def excessBits (units : Nat) : Nat := units.log2 + 1 - 53

/-- The representable magnitude nearest to `num / den` units. -/
def roundUnits (num den : Nat) : Nat :=
  let step := Nat.pow 2 (excessBits (num / den))
  roundDiv num (den * step) * step

/-- The number nearest to `num / den` units with the given sign. -/
def ofUnits (negative : Bool) (num den : Nat) : Binary64 :=
  let units := roundUnits num den
  if units < overflowUnits then .finite negative units else .infinite negative

def zero : Binary64 := .finite false 0

def one : Binary64 := .finite false oneUnits

def ofNat (n : Nat) : Binary64 := ofUnits false (n * oneUnits) 1

def ofInt (n : Int) : Binary64 := ofUnits (decide (n < 0)) (n.natAbs * oneUnits) 1

def isNaN : Binary64 → Bool
  | .nan => true
  | _ => false

def isFinite : Binary64 → Bool
  | .finite _ _ => true
  | _ => false

def signedUnits (negative : Bool) (units : Nat) : Int :=
  if negative then -(units : Int) else units

def neg : Binary64 → Binary64
  | .nan => .nan
  | .infinite negative => .infinite (!negative)
  | .finite negative units => .finite (!negative) units

/-- Equality of values: the two zeros are equal, and NaN equals nothing. -/
def eq : Binary64 → Binary64 → Bool
  | .infinite n, .infinite m => n == m
  | .finite n u, .finite m v => signedUnits n u == signedUnits m v
  | _, _ => false

/-- Order of values; NaN is below and above nothing. -/
def lt : Binary64 → Binary64 → Bool
  | .nan, _ => false
  | _, .nan => false
  | .infinite n, .infinite m => n && !m
  | .infinite n, .finite _ _ => n
  | .finite _ _, .infinite m => !m
  | .finite n u, .finite m v => decide (signedUnits n u < signedUnits m v)

def le (x y : Binary64) : Bool := lt x y || eq x y

/-- The smaller of two numbers; a number wins over NaN. -/
def minimum (x y : Binary64) : Binary64 :=
  if x.isNaN then y else if y.isNaN then x else if lt y x then y else x

/-- The larger of two numbers; a number wins over NaN. -/
def maximum (x y : Binary64) : Binary64 :=
  if x.isNaN then y else if y.isNaN then x else if lt x y then y else x

/-- The rounded sum. An exact sum of zero is negative only if both terms are. -/
def add : Binary64 → Binary64 → Binary64
  | .nan, _ => .nan
  | _, .nan => .nan
  | .infinite n, .infinite m => if n == m then .infinite n else .nan
  | .infinite n, .finite _ _ => .infinite n
  | .finite _ _, .infinite m => .infinite m
  | .finite n u, .finite m v =>
    let sum := signedUnits n u + signedUnits m v
    if sum = 0 then .finite (n && m) 0 else ofUnits (decide (sum < 0)) sum.natAbs 1

def sub (x y : Binary64) : Binary64 := add x (neg y)

def mul : Binary64 → Binary64 → Binary64
  | .nan, _ => .nan
  | _, .nan => .nan
  | .infinite n, .infinite m => .infinite (n != m)
  | .infinite n, .finite m v => if v = 0 then .nan else .infinite (n != m)
  | .finite n u, .infinite m => if u = 0 then .nan else .infinite (n != m)
  | .finite n u, .finite m v => ofUnits (n != m) (u * v) oneUnits

def div : Binary64 → Binary64 → Binary64
  | .nan, _ => .nan
  | _, .nan => .nan
  | .infinite _, .infinite _ => .nan
  | .infinite n, .finite m _ => .infinite (n != m)
  | .finite n _, .infinite m => .finite (n != m) 0
  | .finite n u, .finite m v =>
    if v = 0 then
      if u = 0 then .nan else .infinite (n != m)
    else ofUnits (n != m) (u * oneUnits) v

/-- The remainder of the division that is rounded toward zero; it has the sign of the dividend and
    is exact. -/
def rem : Binary64 → Binary64 → Binary64
  | .nan, _ => .nan
  | _, .nan => .nan
  | .infinite _, _ => .nan
  | x, .infinite _ => x
  | .finite n u, .finite _ v => if v = 0 then .nan else .finite n (u % v)

def isWhole : Binary64 → Bool
  | .finite _ units => units % oneUnits == 0
  | _ => false

/-- Whether a number is finite and its magnitude is below a natural bound. -/
def magnitudeBelow (bound : Nat) : Binary64 → Bool
  | .finite _ units => decide (units < bound * oneUnits)
  | _ => false

def floor? : Binary64 → Option Int
  | .finite negative units => some (signedUnits negative units / (oneUnits : Int))
  | _ => none

def ceil? : Binary64 → Option Int
  | .finite negative units => some (-(-signedUnits negative units / (oneUnits : Int)))
  | _ => none

def truncate? : Binary64 → Option Int
  | .finite negative units => some (signedUnits negative (units / oneUnits))
  | _ => none

/-- The nearest integer to a finite number; a half goes away from zero. -/
def round? : Binary64 → Option Int
  | .finite negative units =>
    some (signedUnits negative ((2 * units + oneUnits) / (2 * oneUnits)))
  | _ => none

def signBit (negative : Bool) : Nat := if negative then Nat.pow 2 63 else 0

/-- The 64 bits of a number, most significant first: sign, eleven bits of exponent, 52 bits of
    fraction. NaN is written with the quiet bit alone. -/
def toBits : Binary64 → Nat
  | .nan => 0x7ff8000000000000
  | .infinite negative => signBit negative + 2047 * Nat.pow 2 52
  | .finite negative units =>
    signBit negative +
      (if units < Nat.pow 2 52 then units
       else excessBits units * Nat.pow 2 52 + units / Nat.pow 2 (excessBits units))

/-- The number that 64 bits stand for. -/
def ofBits (bits : Nat) : Binary64 :=
  let negative := bits / Nat.pow 2 63 % 2 == 1
  let exponent := bits / Nat.pow 2 52 % 2048
  let fraction := bits % Nat.pow 2 52
  if exponent = 2047 then
    if fraction = 0 then .infinite negative else .nan
  else if exponent = 0 then .finite negative fraction
  else .finite negative ((Nat.pow 2 52 + fraction) * Nat.pow 2 (exponent - 1))

end Binary64

end PinFlow
