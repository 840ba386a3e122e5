import PinFlow.Number.Literal

/-!
Tokens of a data text, recognised by a machine that reads one character at a time.

A text token keeps whether its escapes denote characters at all: an escaped half of a surrogate
pair without its partner is well formed as a token and denotes no text.
-/

set_option autoImplicit false

namespace PinFlow.Document

inductive Token where
  | openArray
  | closeArray
  | openObject
  | closeObject
  | comma
  | colon
  | null
  | bool (b : Bool)
  | number (literal : NumberLiteral)
  | text (content : Option String)
  deriving DecidableEq, Repr

/-- The data format admits no plus sign, no superfluous leading zero, and no empty run of digits. -/
def isStrictLiteral (l : NumberLiteral) : Bool :=
  !l.plus && !l.whole.isEmpty && (l.whole.length == 1 || l.whole.head? != some '0') &&
    l.fraction != some []

/-- The token of a run of characters that is neither a text nor punctuation. -/
def wordToken? (cs : List Char) : Option Token :=
  match String.ofList cs with
  | "null" => some .null
  | "true" => some (.bool true)
  | "false" => some (.bool false)
  | _ =>
    match NumberLiteral.split? cs with
    | some l => if isStrictLiteral l then some (.number l) else none
    | none => none

/-- A text under way: its characters in reverse, the first half of a surrogate pair that was just
    read, and whether all escapes so far denote characters. -/
structure PartialText where
  chars : List Char
  high : Option Nat
  sound : Bool

namespace PartialText

def start : PartialText := ⟨[], none, true⟩

def push (t : PartialText) (c : Char) : PartialText :=
  ⟨c :: t.chars, none, t.sound && t.high.isNone⟩

def pushUnit (t : PartialText) (code : Nat) : PartialText :=
  let isHigh := decide (0xd800 ≤ code ∧ code < 0xdc00)
  let isLow := decide (0xdc00 ≤ code ∧ code < 0xe000)
  match t.high with
  | some high =>
    if isLow then
      ⟨Char.ofNat (0x10000 + (high - 0xd800) * 0x400 + (code - 0xdc00)) :: t.chars, none, t.sound⟩
    else ⟨t.chars, none, false⟩
  | none =>
    if isHigh then ⟨t.chars, some code, t.sound⟩
    else if isLow then ⟨t.chars, none, false⟩
    else t.push (Char.ofNat code)

def content? (t : PartialText) : Option String :=
  if t.sound && t.high.isNone then some (String.ofList t.chars.reverse) else none

end PartialText

inductive Mode where
  | between
  | word (chars : List Char)
  | text (t : PartialText)
  | escape (t : PartialText)
  | unit (t : PartialText) (count : Nat) (code : Nat)

/-- The machine: the tokens so far in reverse, and its mode. -/
structure Lexer where
  tokens : List Token
  mode : Mode

def isSpace (c : Char) : Bool := c == ' ' || c == '\t' || c == '\n' || c == '\r'

def hexValue? (c : Char) : Option Nat :=
  if c.isDigit then some (c.toNat - '0'.toNat)
  else if 'a' ≤ c ∧ c ≤ 'f' then some (c.toNat - 'a'.toNat + 10)
  else if 'A' ≤ c ∧ c ≤ 'F' then some (c.toNat - 'A'.toNat + 10)
  else none

def punctuation? : Char → Option Token
  | '[' => some .openArray
  | ']' => some .closeArray
  | '\x7b' => some .openObject
  | '\x7d' => some .closeObject
  | ',' => some .comma
  | ':' => some .colon
  | _ => none

def escaped? : Char → Option Char
  | '\"' => some '\"'
  | '\\' => some '\\'
  | '/' => some '/'
  | 'b' => some '\x08'
  | 'f' => some '\x0c'
  | 'n' => some '\n'
  | 'r' => some '\r'
  | 't' => some '\t'
  | _ => none

namespace Lexer

def start : Lexer := ⟨[], .between⟩

def stepBetween (tokens : List Token) (c : Char) : Lexer :=
  if isSpace c then ⟨tokens, .between⟩
  else if c = '\"' then ⟨tokens, .text .start⟩
  else
    match punctuation? c with
    | some token => ⟨token :: tokens, .between⟩
    | none => ⟨tokens, .word [c]⟩

def endsWord (c : Char) : Bool := isSpace c || c == '\"' || (punctuation? c).isSome

def step (m : Lexer) (c : Char) : Option Lexer :=
  match m.mode with
  | .between => some (stepBetween m.tokens c)
  | .word chars =>
    if endsWord c then
      (wordToken? chars.reverse).map fun token => stepBetween (token :: m.tokens) c
    else some ⟨m.tokens, .word (c :: chars)⟩
  | .text t =>
    if c = '\"' then some ⟨.text t.content? :: m.tokens, .between⟩
    else if c = '\\' then some ⟨m.tokens, .escape t⟩
    else if c.toNat < 0x20 then none
    else some ⟨m.tokens, .text (t.push c)⟩
  | .escape t =>
    if c = 'u' then some ⟨m.tokens, .unit t 0 0⟩
    else (escaped? c).map fun d => ⟨m.tokens, .text (t.push d)⟩
  | .unit t count code =>
    (hexValue? c).map fun digit =>
      let code := 16 * code + digit
      if count = 3 then ⟨m.tokens, .text (t.pushUnit code)⟩
      else ⟨m.tokens, .unit t (count + 1) code⟩

def finish? (m : Lexer) : Option (List Token) :=
  match m.mode with
  | .between => some m.tokens.reverse
  | .word chars => (wordToken? chars.reverse).map fun token => (token :: m.tokens).reverse
  | _ => none

end Lexer

def tokens? (cs : List Char) : Option (List Token) :=
  (cs.foldlM Lexer.step Lexer.start).bind Lexer.finish?

end PinFlow.Document
