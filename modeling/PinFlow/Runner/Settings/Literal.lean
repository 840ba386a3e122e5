import PinFlow.Runner.Settings.Quotation
import PinFlow.Timestamp

/-!
Settings that are written without quotes: words, numbers, dates and times.
-/

set_option autoImplicit false

namespace PinFlow.Runner.Literal

/-! ### Numbers -/

/-- Digits in which single underscores may stand between two digits. -/
def joinedDigits? (isDigit : Char → Bool) : List Char → Option (List Char)
  | [] => none
  | [c] => if isDigit c then some [c] else none
  | c :: '_' :: rest => if isDigit c then (joinedDigits? isDigit rest).map (c :: ·) else none
  | c :: rest => if isDigit c then (joinedDigits? isDigit rest).map (c :: ·) else none

/-- Removes underscores, each of which must stand between two digits. -/
def withoutUnderscores? (before : Option Char) : List Char → Option (List Char)
  | [] => some []
  | '_' :: rest =>
    if before.any Char.isDigit && rest.head?.any Char.isDigit then withoutUnderscores? none rest
    else none
  | c :: rest => (withoutUnderscores? (some c) rest).map (c :: ·)

/-- An integer to the base 2, 8 or 16 behind its mark. -/
def radixInteger? (base : Nat) (cs : List Char) : Option Setting := do
  let isDigit (c : Char) : Bool := (hexValue? c).any (· < base)
  let digits ← joinedDigits? isDigit cs
  let values ← digits.mapM hexValue?
  let n : Nat := values.foldl (fun n d => base * n + d) 0
  if Setting.isWord n then some (.int n) else none

/-- A decimal integer of 64 bits or a finite float; digits on both sides of a point, and no
    superfluous zero. -/
def decimal? (cs : List Char) : Option Setting := do
  let cs ← withoutUnderscores? none cs
  let l ← NumberLiteral.split? cs
  if l.whole.isEmpty || (l.whole.length != 1 && l.whole.head? == some '0') ||
      l.fraction == some [] then none
  else if l.isInteger then
    if Setting.isWord l.toInt then some (.int l.toInt) else none
  else if l.toBinary64.isFinite then some (.real l.toBinary64)
  else none

/-! ### Dates and times -/

/-- Exactly `width` digits. -/
def fixedDigits? (width : Nat) (cs : List Char) : Option (Nat × List Char) :=
  let digits := cs.take width
  if digits.length = width ∧ digits.all Char.isDigit then
    some (NumberLiteral.digitsValue digits, cs.drop width)
  else none

/-- Exactly two digits, behind a mark, for a number between two bounds. -/
def part? (mark : Char) (low high : Nat) (cs : List Char) : Option (Nat × List Char) := do
  let (n, rest) ← fixedDigits? 2 (cs.drop 1)
  if cs.head? = some mark ∧ low ≤ n ∧ n ≤ high then some (n, rest) else none

def date? (cs : List Char) : Option (List Char × List Char) := do
  let (year, rest) ← fixedDigits? 4 cs
  let (month, rest) ← part? '-' 1 12 rest
  let (_, rest) ← part? '-' 1 (Timestamp.daysInMonth year month) rest
  return (cs.take 10, rest)

/-- The fraction of a second to nine digits, without zeros at its end. -/
def fractionText (digits : List Char) : List Char :=
  match ((digits.take 9).reverse.dropWhile (· == '0')).reverse with
  | [] => []
  | kept => '.' :: kept

def seconds? (cs : List Char) : Option (List Char × List Char) :=
  match cs with
  | ':' :: _ => do
    let (_, rest) ← part? ':' 0 60 cs
    match rest with
    | '.' :: rest =>
      let digits := rest.takeWhile Char.isDigit
      if digits.isEmpty then none
      else some (cs.take 3 ++ fractionText digits, rest.drop digits.length)
    | rest => some (cs.take 3, rest)
  | _ => some ([], cs)

def time? (cs : List Char) : Option (List Char × List Char) := do
  let (hour, rest) ← fixedDigits? 2 cs
  let (_, rest) ← part? ':' 0 59 rest
  if 23 < hour then none
  else
    let (seconds, rest) ← seconds? rest
    return (cs.take 5 ++ seconds, rest)

/-- An offset from UTC in normal form, if there is one. -/
def offset? (cs : List Char) : Option (List Char) :=
  match cs with
  | [] => some []
  | ['Z'] => some ['Z']
  | ['z'] => some ['Z']
  | sign :: rest => do
    let (hours, minutes) ← fixedDigits? 2 rest
    let (n, rest) ← part? ':' 0 59 minutes
    if hours ≤ 23 ∧ rest.isEmpty ∧ (sign = '+' ∨ sign = '-') then
      some ((if hours + n = 0 then '+' else sign) :: cs.drop 1)
    else none

/-- A date, a time of day, or both with or without an offset, as a text in normal form. -/
def moment? (cs : List Char) : Option Setting := do
  let words ←
    match date? cs with
    | some (date, []) => some date
    | some (date, separator :: rest) => do
      let (time, rest) ← time? rest
      let offset ← offset? rest
      if separator = 'T' ∨ separator = 't' ∨ separator = ' ' then
        some (date ++ 'T' :: time ++ offset)
      else none
    | none => do
      let (time, rest) ← time? cs
      if rest.isEmpty then some time else none
  return .text (String.ofList words)

/-! ### Words -/

def ofWord? (cs : List Char) : Option Setting :=
  match String.ofList cs with
  | "true" => some (.bool true)
  | "false" => some (.bool false)
  | "inf" => some (.real (.infinite false))
  | "+inf" => some (.real (.infinite false))
  | "-inf" => some (.real (.infinite true))
  | "nan" => some (.real .nan)
  | "+nan" => some (.real .nan)
  | "-nan" => some (.real .nan)
  | _ =>
    match cs with
    | '0' :: 'x' :: rest => radixInteger? 16 rest
    | '0' :: 'o' :: rest => radixInteger? 8 rest
    | '0' :: 'b' :: rest => radixInteger? 2 rest
    | _ => (decimal? cs).or (moment? cs)

def endsWord (c : Char) : Bool := [' ', '\t', '\n', '\r', '#', ',', ']', '}'].contains c

/-- The run of characters at the beginning of a text. A date goes on behind a space if a digit
    follows. -/
def word (cs : List Char) : List Char :=
  let first := cs.takeWhile (!endsWord ·)
  match cs.drop first.length with
  | ' ' :: c :: rest =>
    if c.isDigit && (date? first).any (·.2.isEmpty) then
      first ++ ' ' :: (c :: rest).takeWhile (!endsWord ·)
    else first
  | _ => first

end PinFlow.Runner.Literal
