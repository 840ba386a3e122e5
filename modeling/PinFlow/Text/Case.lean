import PinFlow.Text.CaseTable

/-!
Lower and upper case of texts by the full Unicode mappings, which may turn one character into
several. A capital sigma at the end of a word is lowered to its final form.
-/

set_option autoImplicit false

namespace PinFlow.Text

def lowerChar (c : Char) : List Char := lowerTable.map c

def upperChar (c : Char) : List Char := upperTable.map c

/-- Whether the first character that is not ignored for case is a cased one. -/
def meetsCased (cs : List Char) : Bool :=
  match cs.dropWhile caseIgnorable.contains with
  | [] => false
  | c :: _ => cased.contains c

/-- Lowers `rest`, given the characters before it in reverse. -/
def lowerFrom : (before : List Char) → (rest : List Char) → List Char
  | _, [] => []
  | before, c :: rest =>
    let image :=
      if c = 'Σ' then
        if meetsCased before && !meetsCased rest then ['ς'] else ['σ']
      else lowerChar c
    image ++ lowerFrom (c :: before) rest

def lower (s : String) : String := String.ofList (lowerFrom [] s.toList)

def upper (s : String) : String := String.ofList (s.toList.flatMap upperChar)

/-- Whether one list of characters occurs in another as a contiguous part. -/
def occursIn (needle : List Char) : (hay : List Char) → Bool
  | [] => needle.isEmpty
  | c :: rest => needle.isPrefixOf (c :: rest) || occursIn needle rest

def contains (s part : String) : Bool := occursIn part.toList s.toList

end PinFlow.Text
