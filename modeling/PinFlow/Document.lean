import PinFlow.Document.Token
import PinFlow.Value

/-!
Data texts: the tree that a text spells out, before it is known which parts of it matter.

A document keeps fields in the order of the text, repeated ones included, and numbers as literals.
`toValue?` turns it into a value. It fails on what no value can hold: a number out of range, a text
that denotes no characters, and nesting that is too deep.
-/

set_option autoImplicit false

namespace PinFlow

inductive Document where
  | null
  | bool (b : Bool)
  | number (literal : NumberLiteral)
  | text (content : Option String)
  | array (items : List Document)
  | object (entries : List (Option String × Document))
  deriving Repr, Inhabited

namespace Document

/-- An array or object under way, its parts in reverse. -/
inductive Frame where
  | array (items : List Document)
  | object (entries : List (Option String × Document)) (key : Option String)

inductive Expectation where
  | value
  | itemOrClose
  | keyOrClose
  | key
  | colon
  | commaOrClose
  | nothing
  deriving DecidableEq

/-- The open arrays and objects, innermost first, and the finished document. -/
structure Builder where
  frames : List Frame
  expects : Expectation
  result : Option Document

namespace Builder

def start : Builder := ⟨[], .value, none⟩

def put (frames : List Frame) (d : Document) : Builder :=
  match frames with
  | [] => ⟨[], .nothing, some d⟩
  | .array items :: rest => ⟨.array (d :: items) :: rest, .commaOrClose, none⟩
  | .object entries key :: rest => ⟨.object ((key, d) :: entries) none :: rest, .commaOrClose, none⟩

def stepValue (frames : List Frame) : Token → Option Builder
  | .openArray => some ⟨.array [] :: frames, .itemOrClose, none⟩
  | .openObject => some ⟨.object [] none :: frames, .keyOrClose, none⟩
  | .null => some (put frames .null)
  | .bool b => some (put frames (.bool b))
  | .number l => some (put frames (.number l))
  | .text s => some (put frames (.text s))
  | _ => none

def stepKey (frames : List Frame) : Token → Option Builder
  | .text s =>
    match frames with
    | .object entries _ :: rest => some ⟨.object entries s :: rest, .colon, none⟩
    | _ => none
  | _ => none

def stepClose (frames : List Frame) : Token → Option Builder
  | .closeArray =>
    match frames with
    | .array items :: rest => some (put rest (.array items.reverse))
    | _ => none
  | .closeObject =>
    match frames with
    | .object entries _ :: rest => some (put rest (.object entries.reverse))
    | _ => none
  | _ => none

def step (b : Builder) (token : Token) : Option Builder :=
  match b.expects with
  | .value => stepValue b.frames token
  | .itemOrClose =>
    if token = .closeArray then stepClose b.frames token else stepValue b.frames token
  | .keyOrClose =>
    if token = .closeObject then stepClose b.frames token else stepKey b.frames token
  | .key => stepKey b.frames token
  | .colon => if token = .colon then some ⟨b.frames, .value, none⟩ else none
  | .commaOrClose =>
    if token = .comma then
      match b.frames with
      | .array _ :: _ => some ⟨b.frames, .value, none⟩
      | .object _ _ :: _ => some ⟨b.frames, .key, none⟩
      | [] => none
    else stepClose b.frames token
  | .nothing => none

end Builder

/-- Reads a text that consists of one value, with white space around tokens. -/
def read? (s : String) : Option Document := do
  let tokens ← tokens? s.toList
  let builder ← tokens.foldlM Builder.step Builder.start
  builder.result

/-- An integer literal in range is an integer; every other number is the nearest float, which must
    be finite. The literal `-0` is the float. -/
def number? (l : NumberLiteral) : Option Number :=
  let n := l.toInt
  if l.isInteger && decide (Number.leastInt ≤ n ∧ n ≤ Number.greatestInt) && !(l.negative && n == 0) then
    some (.int n)
  else
    let x := l.toBinary64
    if x.isFinite then some (.float x) else none

mutual

/-- The value of a document whose arrays and objects nest at most `room` deep. Of fields with the
    same key the last counts. -/
def toValue? (room : Nat) : Document → Option Value
  | .null => some .null
  | .bool b => some (.bool b)
  | .number l => (number? l).map Value.number
  | .text content => content.map Value.string
  | .array items => if room = 0 then none else (toItems? (room - 1) items).map Value.array
  | .object entries =>
    if room = 0 then none
    else (toFields? (room - 1) entries).map fun fields => .object (Fields.ofEntries fields)

def toItems? (room : Nat) : List Document → Option (List Value)
  | [] => some []
  | d :: rest => do
    let v ← toValue? room d
    let vs ← toItems? room rest
    return v :: vs

def toFields? (room : Nat) : List (Option String × Document) → Option (List (String × Value))
  | [] => some []
  | (key, d) :: rest => do
    let k ← key
    let v ← toValue? room d
    let fields ← toFields? room rest
    return (k, v) :: fields

end

def maxNesting : Nat := 127

end Document

def Value.read? (s : String) : Option Value :=
  (Document.read? s).bind (Document.toValue? Document.maxNesting)

end PinFlow
