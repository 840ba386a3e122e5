/-!
Identifiers of bots and runs: 128 bits, of which the first 48 count milliseconds, written as 26
digits to the base 32 behind a marker of their kind.
-/

set_option autoImplicit false

namespace PinFlow

/-- A sortable identifier of 128 bits. -/
structure Ulid where
  value : Fin (Nat.pow 2 128)
  deriving DecidableEq, Repr

namespace Ulid

/-- Reduces a number to 128 bits. -/
def ofNat (n : Nat) : Ulid := ⟨⟨n % Nat.pow 2 128, Nat.mod_lt n (by decide)⟩⟩

/-- Joins 48 bits of time and 80 bits of chance. -/
def ofParts (millis random : Nat) : Ulid :=
  ofNat (millis % Nat.pow 2 48 * Nat.pow 2 80 + random % Nat.pow 2 80)

def millis (u : Ulid) : Nat := u.value.val / Nat.pow 2 80

def random (u : Ulid) : Nat := u.value.val % Nat.pow 2 80

/-- Digits and capital letters except I, L, O and U. -/
def alphabet : List Char := "0123456789ABCDEFGHJKMNPQRSTVWXYZ".toList

def digitChar (d : Nat) : Char := alphabet.getD d '0'

def digitValue? (c : Char) : Option Nat :=
  let i := alphabet.idxOf c.toUpper
  if i < 32 then some i else none

/-- The last `count` digits of a number to the base 32, most significant first. -/
def digits : (count : Nat) → Nat → List Nat
  | 0, _ => []
  | count + 1, n => n / Nat.pow 32 count % 32 :: digits count n

def text (u : Ulid) : String := String.ofList ((digits 26 u.value.val).map digitChar)

inductive ReadError where
  | length
  | character
  deriving DecidableEq, Repr

def ReadError.message : ReadError → String
  | .length => "invalid length"
  | .character => "invalid character"

/-- Reads 26 digits; bits above the 128th are lost. -/
def read (s : String) : Except ReadError Ulid :=
  if s.utf8ByteSize = 26 then
    match s.toList.mapM digitValue? with
    | some ds => .ok (ofNat (ds.foldl (fun n d => 32 * n + d) 0))
    | none => .error .character
  else .error .length

end Ulid

inductive IdKind where
  | bot
  | run
  deriving DecidableEq, Repr

namespace IdKind

def tag : IdKind → String
  | .bot => "bot"
  | .run => "run"

def typeName : IdKind → String
  | .bot => "BotId"
  | .run => "RunId"

end IdKind

structure Identifier (kind : IdKind) where
  ulid : Ulid
  deriving DecidableEq, Repr

namespace Identifier

variable {kind : IdKind}

def text (id : Identifier kind) : String := kind.tag ++ "_" ++ id.ulid.text

/-- Identifiers are ordered by their values, so that earlier ones come first. -/
def compare (a b : Identifier kind) : Ordering :=
  if a.ulid.value.val < b.ulid.value.val then .lt
  else if a.ulid.value.val = b.ulid.value.val then .eq
  else .gt

structure ReadError where
  kind : IdKind
  reason : Ulid.ReadError
  deriving DecidableEq, Repr

def ReadError.message (e : ReadError) : String :=
  "failed to parse " ++ e.kind.typeName ++ ": " ++ e.reason.message

/-- The text without the marker of the kind, if it has one. -/
def unmarked (kind : IdKind) (s : String) : String :=
  let marker := (kind.tag ++ "_").toList
  if marker.isPrefixOf s.toList then String.ofList (s.toList.drop marker.length) else s

def read (kind : IdKind) (s : String) : Except ReadError (Identifier kind) :=
  match Ulid.read (unmarked kind s) with
  | .ok ulid => .ok ⟨ulid⟩
  | .error reason => .error ⟨kind, reason⟩

end Identifier

abbrev BotId := Identifier .bot

abbrev RunId := Identifier .run

end PinFlow
