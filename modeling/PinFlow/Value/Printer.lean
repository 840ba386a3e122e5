import PinFlow.Value

/-!
Compact data text of a value: no blanks, fields in the order in which the object holds them, and
escapes only for the quote, the backslash and control characters below the space.
-/

set_option autoImplicit false

namespace PinFlow.Value

def hexDigit (n : Nat) : Char := Nat.digitChar n

def escapeChar (c : Char) : String :=
  match c with
  | '\"' => "\\\""
  | '\\' => "\\\\"
  | '\x08' => "\\b"
  | '\x0c' => "\\f"
  | '\n' => "\\n"
  | '\r' => "\\r"
  | '\t' => "\\t"
  | c =>
    if c.toNat < 0x20 then
      "\\u00" ++ String.ofList [hexDigit (c.toNat / 16), hexDigit (c.toNat % 16)]
    else String.singleton c

def quoted (s : String) : String :=
  "\"" ++ s.toList.foldl (fun text c => text ++ escapeChar c) "" ++ "\""

mutual

def render : Value → String
  | .null => "null"
  | .bool true => "true"
  | .bool false => "false"
  | .number n => n.text
  | .string s => quoted s
  | .array items => "[" ++ renderItems items ++ "]"
  | .object fields => "\x7b" ++ renderFields fields ++ "\x7d"

def renderItems : List Value → String
  | [] => ""
  | [v] => v.render
  | v :: rest => v.render ++ "," ++ renderItems rest

def renderFields : List (String × Value) → String
  | [] => ""
  | [(k, v)] => quoted k ++ ":" ++ v.render
  | (k, v) :: rest => quoted k ++ ":" ++ v.render ++ "," ++ renderFields rest

end

end PinFlow.Value
