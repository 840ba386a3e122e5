import PinFlow.Number.Literal
import PinFlow.Text.Blank
import PinFlow.Value.Printer

/-!
Loose readings of values: as a truth value, as a number and as text, and the equality that follows
them. A missing value is false, not a number and the text `undefined`.
-/

set_option autoImplicit false

namespace PinFlow.Value

/-- Null, false, zero and the empty text are false; everything else is true. -/
def truthy : Value → Bool
  | .null => false
  | .bool b => b
  | .number n => let x := n.toBinary64; !x.isNaN && !x.eq .zero
  | .string s => !s.isEmpty
  | .array _ => true
  | .object _ => true

def truthy? : Option Value → Bool
  | none => false
  | some v => v.truthy

/-- The number that a text denotes after trimming; the empty text denotes zero. -/
def numberOfText (s : String) : Binary64 :=
  let trimmed := Text.trimChars s.toList
  if trimmed.isEmpty then .zero else (Binary64.ofText? trimmed).getD .nan

def toNumber : Option Value → Binary64
  | none => .nan
  | some .null => .zero
  | some (.bool b) => if b then .one else .zero
  | some (.number n) => n.toBinary64
  | some (.string s) => numberOfText s
  | some (.array _) => .nan
  | some (.object _) => .nan

/-- Whole numbers below `10 ^ 15` in size are written as integers, all others in positional
    notation. -/
def numberText (x : Binary64) : String :=
  match x.truncate? with
  | some n => if x.isWhole && x.magnitudeBelow (Nat.pow 10 15) then toString n else x.toPlainText
  | none => x.toPlainText

def displayText : Option Value → String
  | none => "undefined"
  | some .null => "null"
  | some (.string s) => s
  | some (.number n) => numberText n.toBinary64
  | some v => v.render

/-- Display text, where a missing value and null are empty. -/
def toText : Option Value → String
  | none => ""
  | some .null => ""
  | some v => displayText (some v)

/-- The value of a computed number: an integer if it is whole and below `9 * 10 ^ 15` in size, and
    null if it is not finite. -/
def ofBinary64 (x : Binary64) : Value :=
  match x.truncate? with
  | some n =>
    if x.isWhole && x.magnitudeBelow (9 * Nat.pow 10 15) then .int n else .number (.float x)
  | none => .null

/-- Numbers compare by value, also with the number that a text denotes; all other values compare
    structurally. -/
def looseEq : Option Value → Option Value → Bool
  | none, none => true
  | some (.number m), some (.number n) => m.toBinary64.eq n.toBinary64
  | some (.number m), some (.string t) => m.toBinary64.eq (numberOfText t)
  | some (.string s), some (.number n) => (numberOfText s).eq n.toBinary64
  | some v, some w => v.same w
  | _, _ => false

end PinFlow.Value
