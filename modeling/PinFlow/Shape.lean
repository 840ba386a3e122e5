import PinFlow.Text.Quoted
import PinFlow.Value.Printer

/-!
Reading values as data of a fixed shape.

A record is written as an object with named fields or as an array of its fields in order. In an
object the fault at the least key is reported, and an absent field only if no present one is at
fault; in an array the first fault in order is reported. `Checked` gathers the faults of all fields
so that this choice is made in one place.
-/

set_option autoImplicit false

namespace PinFlow

namespace Shape

inductive Expected where
  | text
  | boolean
  | sequence
  | map
  | count
  | real
  | variant
  | unit
  | timestamp
  | record (name : String)
  deriving DecidableEq, Repr

def Expected.describe : Expected → String
  | .text => "a string"
  | .boolean => "a boolean"
  | .sequence => "a sequence"
  | .map => "a map"
  | .count => "usize"
  | .real => "f64"
  | .variant => "string or map"
  | .unit => "unit"
  | .timestamp => "an RFC 3339 formatted date and time string"
  | .record name => "struct " ++ name

def describe : Value → String
  | .null => "null"
  | .bool true => "boolean `true`"
  | .bool false => "boolean `false`"
  | .number (.int n) => "integer `" ++ toString n ++ "`"
  | .number (.float x) => "floating point `" ++ x.toLiteralText ++ "`"
  | .string s => "string " ++ Text.quote s
  | .array _ => "sequence"
  | .object _ => "map"

inductive Error where
  | missingField (name : String)
  | duplicateField (name : String)
  | wrongType (found : Value) (expected : Expected)
  | outOfRange (found : Value) (expected : Expected)
  | notOneKey
  | unknownVariant (given : String) (names : List String)
  | tooShort (position : Nat) (record : String) (arity : Nat)
  | tooLong (length : Nat)
  | malformed (reason : String)
  deriving Repr

def ticked (name : String) : String := "`" ++ name ++ "`"

def alternatives : List String → String
  | [] => "there are no variants"
  | [a] => "expected " ++ ticked a
  | [a, b] => "expected " ++ ticked a ++ " or " ++ ticked b
  | names => "expected one of " ++ ", ".intercalate (names.map ticked)

def Error.message : Error → String
  | .missingField name => "missing field " ++ ticked name
  | .duplicateField name => "duplicate field " ++ ticked name
  | .wrongType found expected =>
    "invalid type: " ++ describe found ++ ", expected " ++ expected.describe
  | .outOfRange found expected =>
    "invalid value: " ++ describe found ++ ", expected " ++ expected.describe
  | .notOneKey => "invalid value: map, expected map with a single key"
  | .unknownVariant given names => "unknown variant " ++ ticked given ++ ", " ++ alternatives names
  | .tooShort position record arity =>
    "invalid length " ++ toString position ++ ", expected struct " ++ record ++ " with " ++
      toString arity ++ " elements"
  | .tooLong length =>
    "invalid length " ++ toString length ++ ", expected fewer elements in array"
  | .malformed reason => reason

abbrev Reader (α : Type) := Value → Except Error α

variable {α β : Type}

def text : Reader String
  | .string s => .ok s
  | v => .error (.wrongType v .text)

def boolean : Reader Bool
  | .bool b => .ok b
  | v => .error (.wrongType v .boolean)

/-- A natural number of 64 bits. -/
def count : Reader Nat
  | .number (.int n) =>
    if 0 ≤ n then .ok n.toNat else .error (.outOfRange (.number (.int n)) .count)
  | v => .error (.wrongType v .count)

def real : Reader Binary64
  | .number n => .ok n.toBinary64
  | v => .error (.wrongType v .real)

def map : Reader (Fields Value)
  | .object fields => .ok fields
  | v => .error (.wrongType v .map)

def nullable (read : Reader α) : Reader (Option α)
  | .null => .ok none
  | v => (read v).map some

def items (read : Reader α) : List Value → Except Error (List α)
  | [] => .ok []
  | v :: rest =>
    match read v with
    | .error e => .error e
    | .ok a => (items read rest).map (a :: ·)

def sequence (read : Reader α) : Reader (List α)
  | .array vs => items read vs
  | v => .error (.wrongType v .sequence)

/-- A name among `names`, written as a text or as the only key of an object with a null. -/
def variant (names : List String) (ofName? : String → Option α) : Reader α
  | .string s => named s
  | .object [(key, content)] =>
    match named key with
    | .error e => .error e
    | .ok a => if content.isNull then .ok a else .error (.wrongType content .unit)
  | .object _ => .error .notOneKey
  | v => .error (.wrongType v .variant)
where
  named (s : String) : Except Error α :=
    match ofName? s with
    | some a => .ok a
    | none => .error (.unknownVariant s names)

/-- A fault in a record and the key at which it stands; a fault of a position or of an absent field
    stands at none. -/
structure Fault where
  key : Option String
  cause : Error

/-- Faults at keys come first, in the order of their keys. -/
def Fault.precedes (a b : Fault) : Bool :=
  match a.key, b.key with
  | some k, some l => decide (k < l)
  | some _, none => true
  | none, _ => false

/-- The reported one of several faults given in the order of declaration. -/
def Fault.first (fault : Fault) (others : List Fault) : Fault :=
  others.foldl (fun a b => if b.precedes a then b else a) fault

/-- What reading the fields of a record gives: the result, or all faults in the order in which the
    fields are declared. -/
inductive Checked (α : Type) where
  | ok (a : α)
  | faulty (fault : Fault) (others : List Fault)

namespace Checked

def map (f : α → β) : Checked α → Checked β
  | .ok a => .ok (f a)
  | .faulty fault others => .faulty fault others

/-- Applies a checked function to a checked argument; faults add up. -/
def apply : Checked (α → β) → Checked α → Checked β
  | .ok f, x => x.map f
  | .faulty fault others, .ok _ => .faulty fault others
  | .faulty fault others, .faulty fault' others' => .faulty fault (others ++ fault' :: others')

/-- Keeps the first result if the second part has no fault either. -/
def andAlso (x : Checked α) (y : Checked Unit) : Checked α := (x.map fun a _ => a).apply y

def ofExcept (key : Option String) : Except Error α → Checked α
  | .ok a => .ok a
  | .error e => .faulty ⟨key, e⟩ []

def report : Checked α → Except Error α
  | .ok a => .ok a
  | .faulty fault others => .error (fault.first others).cause

end Checked

instance : Functor Checked where
  map := Checked.map

instance : Seq Checked where
  seq f x := f.apply (x ())

inductive Form where
  | keyed (fields : Fields Value)
  | listed (items : List Value)

structure Record where
  name : String
  arity : Nat

/-- A field: its place in the array form, its name and a second name for it, and the value that it
    has when absent. -/
structure Field (α : Type) where
  position : Nat
  name : String
  otherName : Option String := none
  read : Reader α
  fallback : Option α := none

def Field.isNamed (f : Field α) (key : String) : Bool := key == f.name || some key == f.otherName

/-- Reads one field of a record. Of two entries for it the one with the lesser key is read and the
    other is a fault. -/
def Form.field (form : Form) (record : Record) (f : Field α) : Checked α :=
  match form with
  | .keyed fields =>
    match fields.filter fun entry => f.isNamed entry.1 with
    | [] =>
      match f.fallback with
      | some a => .ok a
      | none => .faulty ⟨none, .missingField f.name⟩ []
    | [(key, v)] => .ofExcept (some key) (f.read v)
    | (key, v) :: (again, _) :: _ =>
      (Checked.ofExcept (some key) (f.read v)).andAlso
        (.faulty ⟨some again, .duplicateField f.name⟩ [])
  | .listed vs =>
    match vs[f.position]? with
    | some v => .ofExcept none (f.read v)
    | none =>
      match f.fallback with
      | some a => .ok a
      | none => .faulty ⟨none, .tooShort f.position record.name record.arity⟩ []

/-- An array has at most as many items as the record has fields. -/
def Form.noExcess (form : Form) (record : Record) : Checked Unit :=
  match form with
  | .keyed _ => .ok ()
  | .listed vs =>
    if record.arity < vs.length then .faulty ⟨none, .tooLong vs.length⟩ [] else .ok ()

def record (r : Record) (build : Form → Checked α) : Reader α
  | .object fields => (build (.keyed fields)).report
  | .array vs => ((build (.listed vs)).andAlso ((Form.listed vs).noExcess r)).report
  | v => .error (.wrongType v (.record r.name))

end Shape

end PinFlow
