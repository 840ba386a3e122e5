import PinFlow.Number.Binary64

/-!
Decimal numerals for binary numbers: reading one as the nearest binary number, and the numeral with
the fewest digits that reads back as a given binary number.

A layout turns the digits into text. Two are used: positional digits throughout, and positional
digits for moderate sizes with a power of ten for the others.
-/

set_option autoImplicit false

namespace PinFlow

/-- The number `digits * 10 ^ exponent`. -/
structure Decimal where
  digits : Nat
  exponent : Int
  deriving DecidableEq, Repr, Inhabited

namespace Decimal

def digitCount (n : Nat) : Nat := (Nat.toDigits 10 n).length

def numeral (n : Nat) : List Char := Nat.toDigits 10 n

def scale (d : Decimal) : Int := digitCount d.digits - 1 + d.exponent

/-- The nearest binary number. Numerals far outside the finite range are decided by their scale, so
    that no power of ten is larger than the range needs. -/
def toBinary64 (negative : Bool) (d : Decimal) : Binary64 :=
  if d.digits = 0 then .finite negative 0
  else if d.scale < -330 then .finite negative 0
  else if 310 < d.scale then .infinite negative
  else if 0 ≤ d.exponent then
    .ofUnits negative (d.digits * Nat.pow 10 d.exponent.toNat * Binary64.oneUnits) 1
  else
    .ofUnits negative (d.digits * Binary64.oneUnits) (Nat.pow 10 (-d.exponent).toNat)

/-- The numerals that read back as a magnitude, as an interval in quarters of a unit. Its ends
    belong to it exactly if the significand is even. -/
structure Reach where
  low : Nat
  high : Nat
  closed : Bool

/-- Halfway to the neighbours on both sides. Below a power of two the lower neighbour is twice as
    near. -/
def Reach.ofUnits (units : Nat) : Reach :=
  let excess := Binary64.excessBits units
  let step := Nat.pow 2 excess
  { low := 4 * units - (if 0 < excess ∧ units = Nat.pow 2 52 * step then step else 2 * step)
    high := 4 * units + 2 * step
    closed := units / step % 2 == 0 }

/-- Whether `digits * 10 ^ exponent` lies in the interval. -/
def Reach.contains (r : Reach) (digits : Nat) (exponent : Int) : Bool :=
  let point := 4 * Binary64.oneUnits * digits * Nat.pow 10 exponent.toNat
  let unit := Nat.pow 10 (-exponent).toNat
  if r.closed then decide (r.low * unit ≤ point ∧ point ≤ r.high * unit)
  else decide (r.low * unit < point ∧ point < r.high * unit)

/-- The exponent of the leading decimal digit of a positive magnitude. -/
def leadingExponent (units : Nat) : Int :=
  digitCount (units * Nat.pow 10 324 / Binary64.oneUnits) - 325

inductive Tie where
  | even
  | upper
  deriving DecidableEq, Repr

def Tie.nearest (tie : Tie) (num den : Nat) : Nat :=
  match tie with
  | .even => Binary64.roundDiv num den
  | .upper => (2 * num + den) / (2 * den)

/-- The numeral on the grid of `10 ^ exponent` that lies in the interval and is nearest to the
    magnitude, if any. -/
def onGrid? (tie : Tie) (units : Nat) (reach : Reach) (exponent : Int) : Option Nat :=
  let num := units * Nat.pow 10 (-exponent).toNat
  let den := Binary64.oneUnits * Nat.pow 10 exponent.toNat
  let below := num / den
  match reach.contains below exponent, reach.contains (below + 1) exponent with
  | true, true => some (tie.nearest num den)
  | true, false => some below
  | false, true => some (below + 1)
  | false, false => none

/-- Removes trailing zeros of the digits, at most `fuel` of them. -/
def trim : (fuel : Nat) → Decimal → Decimal
  | 0, d => d
  | fuel + 1, d => if d.digits % 10 = 0 then trim fuel ⟨d.digits / 10, d.exponent + 1⟩ else d

def shortestFrom (tie : Tie) (units : Nat) (reach : Reach) :
    (tries : Nat) → (exponent : Int) → Decimal
  | 0, exponent => ⟨units * Nat.pow 10 (-exponent).toNat / Binary64.oneUnits, exponent⟩
  | tries + 1, exponent =>
    match onGrid? tie units reach exponent with
    | some digits => trim (digitCount digits) ⟨digits, exponent⟩
    | none => shortestFrom tie units reach tries (exponent - 1)

/-- The numeral with the fewest digits that reads back as a positive magnitude, and of those the
    nearest. Seventeen digits always suffice. -/
def shortest (tie : Tie) (units : Nat) : Decimal :=
  if units = 0 then ⟨0, 0⟩
  else shortestFrom tie units (Reach.ofUnits units) 17 (leadingExponent units)

/-- Digits in positional notation, with a point only if there is a fraction. -/
def positional (d : Decimal) : List Char :=
  let digits := numeral d.digits
  if 0 ≤ d.exponent then digits ++ List.replicate d.exponent.toNat '0'
  else
    let places := (-d.exponent).toNat
    if places < digits.length then
      digits.take (digits.length - places) ++ '.' :: digits.drop (digits.length - places)
    else '0' :: '.' :: (List.replicate (places - digits.length) '0' ++ digits)

/-- One digit before the point and an explicitly signed power of ten. -/
def scientific (d : Decimal) : List Char :=
  let fraction := (numeral d.digits).drop 1
  let power := d.scale
  (numeral d.digits).take 1 ++ (if fraction.isEmpty then [] else '.' :: fraction) ++
    'e' :: (if power < 0 then '-' else '+') :: numeral power.natAbs

end Decimal

namespace Binary64

/-- Positional text of any number; of two equally near numerals it has the upper one. -/
def toPlainText : Binary64 → String
  | .nan => "NaN"
  | .infinite negative => if negative then "-inf" else "inf"
  | .finite negative units =>
    String.ofList ((if negative then ['-'] else []) ++ (Decimal.shortest .upper units).positional)

/-- Text of a finite number as a data literal: positional for leading exponents from -5 to 15,
    where a whole number keeps a zero after the point, and with a power of ten otherwise. Of two
    equally near numerals it has the even one. -/
def toLiteralText : Binary64 → String
  | .nan => "null"
  | .infinite _ => "null"
  | .finite negative units =>
    let d := Decimal.shortest .even units
    let body :=
      if -5 ≤ d.scale ∧ d.scale ≤ 15 then
        if 0 ≤ d.exponent then d.positional ++ ['.', '0'] else d.positional
      else d.scientific
    String.ofList ((if negative then ['-'] else []) ++ body)

end Binary64

end PinFlow
