import PinFlow.Text.Blank
import PinFlow.Number.Literal

/-!
Points in time in the Gregorian calendar, read from and written as internet date-time texts.

Reading is lenient about white space and about the number of digits, and takes any offset from UTC;
writing is always in UTC, with as many groups of three fraction digits as are needed.
-/

set_option autoImplicit false

namespace PinFlow

/-- Seconds since the start of 1970 in UTC and nanoseconds within the second. A leap second is the
    second before it with at least `10 ^ 9` nanoseconds. -/
structure Timestamp where
  seconds : Int
  nanos : Nat
  deriving DecidableEq, Repr, Inhabited

namespace Timestamp

def nanosPerSecond : Nat := 1000000000

def le (a b : Timestamp) : Bool :=
  decide (a.seconds < b.seconds) || (a.seconds == b.seconds && decide (a.nanos ≤ b.nanos))

inductive ReadError where
  | outOfRange
  | impossible
  | invalid
  | tooShort
  | tooLong
  deriving DecidableEq, Repr

def ReadError.message : ReadError → String
  | .outOfRange => "input is out of range"
  | .impossible => "no possible date and time matching input"
  | .invalid => "input contains invalid characters"
  | .tooShort => "premature end of input"
  | .tooLong => "trailing input"

/-! ### Calendar -/

def isLeapYear (year : Int) : Bool := year % 4 == 0 && (year % 100 != 0 || year % 400 == 0)

def daysInMonth (year : Int) (month : Nat) : Nat :=
  if month = 2 then if isLeapYear year then 29 else 28
  else if month = 4 ∨ month = 6 ∨ month = 9 ∨ month = 11 then 30
  else 31

/-- Days from the first of January 1970, counted in years that begin in March. -/
def dayNumber (year : Int) (month day : Nat) : Int :=
  let y := if month ≤ 2 then year - 1 else year
  let era := y / 400
  let yearOfEra := y - era * 400
  let monthFromMarch : Int := (month + 9) % 12
  let dayOfYear := (153 * monthFromMarch + 2) / 5 + day - 1
  let dayOfEra := yearOfEra * 365 + yearOfEra / 4 - yearOfEra / 100 + dayOfYear
  era * 146097 + dayOfEra - 719468

def civil (days : Int) : Int × Nat × Nat :=
  let z := days + 719468
  let era := z / 146097
  let dayOfEra := z - era * 146097
  let yearOfEra := (dayOfEra - dayOfEra / 1460 + dayOfEra / 36524 - dayOfEra / 146096) / 365
  let dayOfYear := dayOfEra - (365 * yearOfEra + yearOfEra / 4 - yearOfEra / 100)
  let monthFromMarch := (5 * dayOfYear + 2) / 153
  let day := dayOfYear - (153 * monthFromMarch + 2) / 5 + 1
  let month := if monthFromMarch < 10 then monthFromMarch + 3 else monthFromMarch - 9
  let year := yearOfEra + era * 400
  (if month ≤ 2 then year + 1 else year, month.toNat, day.toNat)

/-! ### Reading -/

abbrev Parse (α : Type) := List Char → Except ReadError (α × List Char)

def skipBlank (cs : List Char) : List Char := cs.dropWhile Text.isBlank

/-- Between one and `width` digits. -/
def number (width : Nat) : Parse Nat := fun cs =>
  let run := (cs.take width).takeWhile Char.isDigit
  if cs.isEmpty then .error .tooShort
  else if run.isEmpty then .error .invalid
  else .ok (NumberLiteral.digitsValue run, cs.drop run.length)

/-- The number of a year has 32 bits. -/
def yearNumber (n : Int) (rest : List Char) : Except ReadError (Int × List Char) :=
  if -2147483648 ≤ n ∧ n ≤ 2147483647 then .ok (n, rest) else .error .outOfRange

/-- A year: four digits, or a sign and any number of them. -/
def year : Parse Int := fun cs =>
  match skipBlank cs with
  | '-' :: rest => (number rest.length rest).bind fun (n, rest) => yearNumber (-n) rest
  | '+' :: rest => (number rest.length rest).bind fun (n, rest) => yearNumber n rest
  | rest => (number 4 rest).bind fun (n, rest) => yearNumber n rest

def twoDigits (low high : Nat) : Parse Nat := fun cs =>
  match number 2 (skipBlank cs) with
  | .error e => .error e
  | .ok (n, rest) => if low ≤ n ∧ n ≤ high then .ok (n, rest) else .error .outOfRange

def mark (c : Char) : Parse Unit := fun cs =>
  match skipBlank cs with
  | [] => .error .tooShort
  | d :: rest => if d = c then .ok ((), rest) else .error .invalid

/-- An optional fraction of a second, in nanoseconds; digits after the ninth are dropped. -/
def fraction : Parse Nat := fun cs =>
  match cs with
  | '.' :: rest =>
    let run := (rest.take 9).takeWhile Char.isDigit
    if rest.isEmpty then .error .tooShort
    else if run.isEmpty then .error .invalid
    else
      .ok (NumberLiteral.digitsValue run * Nat.pow 10 (9 - run.length),
        (rest.drop run.length).dropWhile Char.isDigit)
  | _ => .ok (0, cs)

/-- Exactly two digits. The text ends too early only if it has less than two bytes. -/
def digitPair : Parse Nat := fun cs =>
  match cs with
  | a :: b :: rest =>
    if a.isDigit && b.isDigit then .ok (NumberLiteral.digitsValue [a, b], rest) else .error .invalid
  | [c] => .error (if c.utf8Size = 1 then .tooShort else .invalid)
  | [] => .error .tooShort

/-- The offset from UTC in seconds: `Z`, `UTC`, or a sign, hours and minutes. -/
def offset : Parse Int := fun cs =>
  let cs := skipBlank cs
  if (cs.take 3).map Char.toUpper = ['U', 'T', 'C'] then .ok (0, cs.drop 3)
  else
    match cs with
    | [] => .error .tooShort
    | c :: rest =>
      if c = 'Z' ∨ c = 'z' then .ok (0, rest)
      else if c = '+' ∨ c = '-' ∨ c = '−' then
        match digitPair rest with
        | .error e => .error e
        | .ok (hours, rest) =>
          match digitPair (rest.dropWhile fun d => d == ':' || Text.isBlank d) with
          | .error e => .error e
          | .ok (minutes, rest) =>
            if 59 < minutes then .error .outOfRange
            else
              let seconds : Int := hours * 3600 + minutes * 60
              .ok (if c = '+' then seconds else -seconds, rest)
      else .error .invalid

def separator : Parse Unit := fun cs =>
  match cs with
  | [] => .error .tooShort
  | c :: rest => if c = 'T' ∨ c = 't' ∨ c = ' ' then .ok ((), rest) else .error .invalid

/-- The years that a point in time may lie in, where it is read and in UTC. -/
def isYear (y : Int) : Bool := decide (-262143 ≤ y ∧ y ≤ 262142)

def read (s : String) : Except ReadError Timestamp := do
  let (y, cs) ← year s.toList
  let ((), cs) ← mark '-' cs
  let (month, cs) ← twoDigits 1 12 cs
  let ((), cs) ← mark '-' cs
  let (day, cs) ← twoDigits 1 31 cs
  let ((), cs) ← separator cs
  let (hour, cs) ← twoDigits 0 23 cs
  let ((), cs) ← mark ':' cs
  let (minute, cs) ← twoDigits 0 59 cs
  let ((), cs) ← mark ':' cs
  let (second, cs) ← twoDigits 0 60 cs
  let (nanos, cs) ← fraction cs
  let (shift, cs) ← offset cs
  if !(skipBlank cs).isEmpty then throw .tooLong
  if !isYear y || daysInMonth y month < day || 86400 ≤ shift.natAbs then throw .outOfRange
  let clock : Int := hour * 3600 + minute * 60 + min second 59
  let seconds := dayNumber y month day * 86400 + clock - shift
  if !isYear (civil (seconds / 86400)).1 then throw .impossible
  return {
    seconds
    nanos := if second = 60 then nanosPerSecond + nanos else nanos }

/-! ### Writing -/

def padded (width n : Nat) : List Char :=
  let digits := Decimal.numeral n
  List.replicate (width - digits.length) '0' ++ digits

/-- A fraction of a second in groups of three digits, without empty groups at the end. -/
def fractionText (nanos : Nat) : List Char :=
  if nanos = 0 then []
  else if nanos % 1000000 = 0 then '.' :: padded 3 (nanos / 1000000)
  else if nanos % 1000 = 0 then '.' :: padded 6 (nanos / 1000)
  else '.' :: padded 9 nanos

def yearText (y : Int) : List Char :=
  if 0 ≤ y ∧ y ≤ 9999 then padded 4 y.toNat
  else (if y < 0 then '-' else '+') :: padded 4 y.natAbs

def text (t : Timestamp) : String :=
  let (y, month, day) := civil (t.seconds / 86400)
  let clock := (t.seconds % 86400).toNat
  let second := clock % 60 + t.nanos / nanosPerSecond
  String.ofList (yearText y ++ '-' :: padded 2 month ++ '-' :: padded 2 day ++ 'T' ::
    padded 2 (clock / 3600) ++ ':' :: padded 2 (clock / 60 % 60) ++ ':' :: padded 2 second ++
    fractionText (t.nanos % nanosPerSecond) ++ ['Z'])

end Timestamp

end PinFlow
