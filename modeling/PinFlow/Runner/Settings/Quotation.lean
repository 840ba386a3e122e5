import PinFlow.Runner.Settings.Path

/-!
Quoted texts in a settings file: between double quotes with escapes, or between single quotes as
they stand; on one line, or between three quotes on any number of lines.
-/

set_option autoImplicit false

namespace PinFlow.Runner

def hexValue? (c : Char) : Option Nat :=
  if c.isDigit then some (c.toNat - '0'.toNat)
  else if 'a' ≤ c ∧ c ≤ 'f' then some (c.toNat - 'a'.toNat + 10)
  else if 'A' ≤ c ∧ c ≤ 'F' then some (c.toNat - 'A'.toNat + 10)
  else none

/-- Controls other than the tab have no place in a text or a comment. -/
def isShown (c : Char) : Bool := c == '\t' || (decide (0x20 ≤ c.toNat) && c.toNat != 0x7f)

def lineEndLength : List Char → Nat
  | '\n' :: _ => 1
  | '\r' :: '\n' :: _ => 2
  | _ => 0

/-- A way to quote a text. A block is enclosed by three marks. -/
structure Quotation where
  mark : Char
  hasEscapes : Bool
  isBlock : Bool

namespace Quotation

/-- The character of an escape with the given number of hexadecimal digits. -/
def escapedCode? (width : Nat) (cs : List Char) : Option Char := do
  let digits ← (cs.take width).mapM hexValue?
  let code := digits.foldl (fun n d => 16 * n + d) 0
  if digits.length = width ∧ code.isValidChar then some (Char.ofNat code) else none

/-- The character that an escape stands for, and the length of the escape behind its backslash. -/
def escape? : List Char → Option (Char × Nat)
  | 'b' :: _ => some ('\x08', 1)
  | 't' :: _ => some ('\t', 1)
  | 'n' :: _ => some ('\n', 1)
  | 'f' :: _ => some ('\x0c', 1)
  | 'r' :: _ => some ('\r', 1)
  | 'e' :: _ => some ('\x1b', 1)
  | '\"' :: _ => some ('\"', 1)
  | '\\' :: _ => some ('\\', 1)
  | 'x' :: digits => (escapedCode? 2 digits).map (·, 3)
  | 'u' :: digits => (escapedCode? 4 digits).map (·, 5)
  | 'U' :: digits => (escapedCode? 8 digits).map (·, 9)
  | _ => none

/-- The length of the white space before the next character that shows. -/
def blankLength : List Char → Nat
  | ' ' :: rest => blankLength rest + 1
  | '\t' :: rest => blankLength rest + 1
  | '\n' :: rest => blankLength rest + 1
  | '\r' :: '\n' :: rest => blankLength rest + 2
  | _ => 0

/-- What is left out after a backslash at the end of a line: all white space that follows. -/
def joinLength? (q : Quotation) (cs : List Char) : Option Nat :=
  if q.isBlock && lineEndLength (SettingPath.skipSpace cs) != 0 then some (blankLength cs) else none

/-- If a mark ends the text: the marks that still belong to it, and what follows. In a block these
    are up to two marks before the last three. -/
def close? (q : Quotation) (cs : List Char) : Option (List Char × List Char) :=
  if !q.isBlock then some ([], cs)
  else if cs.take 2 = [q.mark, q.mark] then
    let more := ((cs.drop 2).take 2).takeWhile (· == q.mark)
    some (more, cs.drop (2 + more.length))
  else none

/-- The rest of a quoted text; `acc` is what was read of it, in reverse. `skip` characters belong to
    an escape that was read already. -/
def textFrom? (q : Quotation) :
    (skip : Nat) → (acc : List Char) → List Char → Option (String × List Char)
  | _, _, [] => none
  | skip + 1, acc, _ :: rest => textFrom? q skip acc rest
  | 0, acc, c :: rest =>
    if c = q.mark then
      match q.close? rest with
      | some (more, rest) => some (String.ofList (acc.reverse ++ more), rest)
      | none => textFrom? q 0 (c :: acc) rest
    else if c = '\\' ∧ q.hasEscapes then
      match escape? rest with
      | some (d, length) => textFrom? q length (d :: acc) rest
      | none => (q.joinLength? rest).bind fun length => textFrom? q length acc rest
    else if isShown c || (q.isBlock && lineEndLength (c :: rest) != 0) then
      textFrom? q 0 (c :: acc) rest
    else none

/-- The text behind the opening marks. A line end right there does not belong to it. -/
def text? (q : Quotation) (cs : List Char) : Option (String × List Char) :=
  textFrom? q (if q.isBlock then lineEndLength cs else 0) [] cs

end Quotation

/-- A text on one line, if there is a quote. -/
def lineText? : List Char → Option (String × List Char)
  | '\"' :: rest => Quotation.text? ⟨'\"', true, false⟩ rest
  | '\'' :: rest => Quotation.text? ⟨'\'', false, false⟩ rest
  | _ => none

/-- A text on one or more lines, if there is a quote. -/
def quotedText? : List Char → Option (String × List Char)
  | '\"' :: '\"' :: '\"' :: rest => Quotation.text? ⟨'\"', true, true⟩ rest
  | '\'' :: '\'' :: '\'' :: rest => Quotation.text? ⟨'\'', false, true⟩ rest
  | cs => lineText? cs

end PinFlow.Runner
