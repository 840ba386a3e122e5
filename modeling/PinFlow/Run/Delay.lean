import PinFlow.Number.Binary64

/-!
How long a delay node waits.
-/

set_option autoImplicit false

namespace PinFlow

/-- A waiting time in nanoseconds, or one that is longer than a clock can count. -/
inductive Delay where
  | nanos (n : Nat)
  | endless
  deriving DecidableEq, Repr

namespace Delay

def nanosPerSecond : Nat := 1000000000

/-- Seconds between zero and a bound, to the nearest nanosecond. What is not a number is zero, and
    `2 ^ 64` seconds or more are endless. -/
def ofSeconds (seconds bound : Binary64) : Delay :=
  if seconds.isNaN then .nanos 0
  else
    match (seconds.minimum bound).maximum .zero with
    | .finite _ units =>
      let n := Binary64.roundDiv (units * nanosPerSecond) Binary64.oneUnits
      if n < Nat.pow 2 64 * nanosPerSecond then .nanos n else .endless
    | _ => .endless

/-- Thirty years of 365 days, in milliseconds: the longest time that a timer waits. -/
def longest : Nat := 30 * 365 * 24 * 3600 * 1000

/-- Whole milliseconds on the clock, rounded up, and no more than the longest. -/
def millis : Delay → Nat
  | .nanos n => min ((n + 999999) / 1000000) longest
  | .endless => longest

end Delay

end PinFlow
