import PinFlow.Number.Decimal

/-!
Number literals: sign, digits, fraction and power of ten, taken apart before any rule decides which
of them a format admits.
-/

set_option autoImplicit false

namespace PinFlow

/-- A text of the form `[sign] digits [. digits] [e [sign] digits]`, where the first two runs of
    digits may be empty. -/
structure NumberLiteral where
  plus : Bool
  negative : Bool
  whole : List Char
  fraction : Option (List Char)
  power : Option Int
  deriving DecidableEq, Repr

namespace NumberLiteral

def digitsValue (cs : List Char) : Nat :=
  cs.foldl (fun n c => 10 * n + (c.toNat - '0'.toNat)) 0

/-- The power of ten behind its mark: a sign and at least one digit. -/
def readPower? (cs : List Char) : Option Int :=
  let (negative, digits) :=
    match cs with
    | '-' :: rest => (true, rest)
    | '+' :: rest => (false, rest)
    | rest => (false, rest)
  if digits.isEmpty || !digits.all Char.isDigit then none
  else if negative then some (-(digitsValue digits : Int)) else some (digitsValue digits)

def split? (cs : List Char) : Option NumberLiteral :=
  let (plus, negative, body) :=
    match cs with
    | '-' :: rest => (false, true, rest)
    | '+' :: rest => (true, false, rest)
    | rest => (false, false, rest)
  let whole := body.takeWhile Char.isDigit
  let (fraction, tail) :=
    match body.dropWhile Char.isDigit with
    | '.' :: rest => (some (rest.takeWhile Char.isDigit), rest.dropWhile Char.isDigit)
    | rest => (none, rest)
  match tail with
  | [] => some ⟨plus, negative, whole, fraction, none⟩
  | c :: rest =>
    if c = 'e' ∨ c = 'E' then
      (readPower? rest).map fun power => ⟨plus, negative, whole, fraction, some power⟩
    else none

/-- Whether the literal has neither a fraction nor a power of ten. -/
def isInteger (l : NumberLiteral) : Bool := l.fraction.isNone && l.power.isNone

def decimal (l : NumberLiteral) : Decimal :=
  let fraction := l.fraction.getD []
  ⟨digitsValue (l.whole ++ fraction), l.power.getD 0 - fraction.length⟩

def toInt (l : NumberLiteral) : Int :=
  if l.negative then -(digitsValue l.whole : Int) else digitsValue l.whole

def toBinary64 (l : NumberLiteral) : Binary64 := l.decimal.toBinary64 l.negative

end NumberLiteral

/-- Reads a number as people write it: digits on either side of the point suffice, and infinity and
    NaN have names, in any case of letters. -/
def Binary64.ofText? (cs : List Char) : Option Binary64 :=
  let (negative, body) :=
    match cs with
    | '-' :: rest => (true, rest)
    | '+' :: rest => (false, rest)
    | rest => (false, rest)
  let word := String.ofList (body.map Char.toLower)
  if word = "inf" ∨ word = "infinity" then some (.infinite negative)
  else if word = "nan" then some .nan
  else
    match NumberLiteral.split? cs with
    | none => none
    | some l =>
      if l.whole.isEmpty && (l.fraction.getD []).isEmpty then none else some l.toBinary64

end PinFlow
