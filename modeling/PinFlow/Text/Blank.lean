import PinFlow.Text.CharClass

/-!
White space in the sense of the Unicode property `White_Space`, and trimming.
-/

set_option autoImplicit false

namespace PinFlow.Text

/-- Characters with the property `White_Space`. -/
def blank : CharClass where
  ranges := [
    (0x9, 0xd), (0x20, 0x20), (0x85, 0x85), (0xa0, 0xa0), (0x1680, 0x1680), (0x2000, 0x200a),
    (0x2028, 0x2029), (0x202f, 0x202f), (0x205f, 0x205f), (0x3000, 0x3000)]

def isBlank (c : Char) : Bool := blank.contains c

def trimChars (cs : List Char) : List Char :=
  ((cs.dropWhile isBlank).reverse.dropWhile isBlank).reverse

def trim (s : String) : String := String.ofList (trimChars s.toList)

end PinFlow.Text
