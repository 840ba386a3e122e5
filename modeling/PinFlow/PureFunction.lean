import PinFlow.Text.Alphanumeric
import PinFlow.Text.Case
import PinFlow.Value.Coercion

/-!
The functions that pure nodes compute.

A function sees its inputs under their pin names; a missing input is simply absent. The one that
draws a random integer is given the draw as a natural number, so that all of them are functions.
-/

set_option autoImplicit false

namespace PinFlow

inductive PureFunction where
  | stringJoin
  | stringContains
  | stringUpper
  | stringLower
  | stringEquals
  | stringLength
  | stringTrim
  | mathAdd
  | mathSubtract
  | mathMultiply
  | mathDivide
  | mathModulo
  | compareEqual
  | compareNotEqual
  | compareGreater
  | compareGreaterEqual
  | compareLess
  | compareLessEqual
  | logicAnd
  | logicOr
  | logicNot
  | randomInt
  | asString
  | asNumber
  | userId
  | userName
  | userDisplayName
  | userAvatar
  | userIsBot
  | channelId
  | channelName
  | guildId
  | guildName
  | guildMemberCount
  | memberNickname
  | memberHasRole
  | memberHasPermission
  | messageContent
  | messageAuthor
  | roleId
  | roleName
  deriving DecidableEq, Repr, Inhabited

namespace PureFunction

def name : PureFunction → String
  | .stringJoin => "string-join"
  | .stringContains => "string-contains"
  | .stringUpper => "string-upper"
  | .stringLower => "string-lower"
  | .stringEquals => "string-equals"
  | .stringLength => "string-length"
  | .stringTrim => "string-trim"
  | .mathAdd => "math-add"
  | .mathSubtract => "math-subtract"
  | .mathMultiply => "math-multiply"
  | .mathDivide => "math-divide"
  | .mathModulo => "math-modulo"
  | .compareEqual => "compare-equal"
  | .compareNotEqual => "compare-not-equal"
  | .compareGreater => "compare-greater"
  | .compareGreaterEqual => "compare-greater-equal"
  | .compareLess => "compare-less"
  | .compareLessEqual => "compare-less-equal"
  | .logicAnd => "logic-and"
  | .logicOr => "logic-or"
  | .logicNot => "logic-not"
  | .randomInt => "random-int"
  | .asString => "to-string"
  | .asNumber => "to-number"
  | .userId => "user-id"
  | .userName => "user-name"
  | .userDisplayName => "user-display-name"
  | .userAvatar => "user-avatar"
  | .userIsBot => "user-is-bot"
  | .channelId => "channel-id"
  | .channelName => "channel-name"
  | .guildId => "guild-id"
  | .guildName => "guild-name"
  | .guildMemberCount => "guild-member-count"
  | .memberNickname => "member-nickname"
  | .memberHasRole => "member-has-role"
  | .memberHasPermission => "member-has-permission"
  | .messageContent => "message-content"
  | .messageAuthor => "message-author"
  | .roleId => "role-id"
  | .roleName => "role-name"

def all : List PureFunction :=
  [.stringJoin, .stringContains, .stringUpper, .stringLower, .stringEquals, .stringLength,
    .stringTrim, .mathAdd, .mathSubtract, .mathMultiply, .mathDivide, .mathModulo, .compareEqual,
    .compareNotEqual, .compareGreater, .compareGreaterEqual, .compareLess, .compareLessEqual,
    .logicAnd, .logicOr, .logicNot, .randomInt, .asString, .asNumber, .userId, .userName,
    .userDisplayName, .userAvatar, .userIsBot, .channelId, .channelName, .guildId, .guildName,
    .guildMemberCount, .memberNickname, .memberHasRole, .memberHasPermission, .messageContent,
    .messageAuthor, .roleId, .roleName]

def ofName? (name : String) : Option PureFunction := all.find? (·.name = name)

/-! ### Random integers -/

def leastWord : Int := -9223372036854775808

def greatestWord : Int := 9223372036854775807

/-- The nearest integer of 64 bits. -/
def clampWord (n : Int) : Int := max leastWord (min greatestWord n)

/-- A bound rounded by `whole?`; an infinite one is the outermost integer of 64 bits. -/
def wordBound (whole? : Binary64 → Option Int) : Binary64 → Int
  | .nan => 0
  | .infinite negative => if negative then leastWord else greatestWord
  | x => clampWord ((whole? x).getD 0)

/-- The integers from the one bound to the other, in whichever order they are given; none if a
    bound is not a number or no integer lies between them. -/
def randomRange? (min max : Binary64) : Option (Int × Int) :=
  if min.isNaN || max.isNaN then none
  else
    let (low, high) := if min.le max then (min, max) else (max, min)
    let least := wordBound Binary64.ceil? low
    let greatest := wordBound Binary64.floor? high
    if greatest < least then none else some (least, greatest)

/-- The integer of a range that a draw selects; every one is selected by some draw. -/
def pick (range : Int × Int) (draw : Nat) : Int :=
  range.1 + ((draw % (range.2 - range.1 + 1).toNat : Nat) : Int)

/-! ### Projections -/

/-- The first of the named fields that is present and not null. -/
def firstField? (object : Option Value) (keys : List String) : Option Value :=
  match object with
  | some (.object fields) =>
    keys.findSome? fun key => (Fields.get? fields key).filter fun v => !v.isNull
  | _ => none

/-- The identifier of a domain object. A bare identifier stands for itself, a number as its
    numeral. -/
def idOf? : Option Value → Option Value
  | some (.string s) => some (.string s)
  | some (.number n) => some (.string n.text)
  | v => firstField? v ["id"]

def hasRole (member role : Value) : Bool :=
  match member.field? "roles" with
  | some (.array roles) => (roles.filterMap fun entry => idOf? (some entry)).any (·.same role)
  | _ => false

/-- Permission names are compared by their letters and digits in lower case. -/
def permissionKey (name : String) : List Char :=
  (name.toList.filter Text.isAlphanumeric).flatMap Text.lowerChar

/-- A member with the administrator permission has every permission. -/
def hasPermission (member : Value) (permission : String) : Bool :=
  match member.field? "permissions" with
  | some (.array granted) =>
    (granted.filterMap Value.string?).any fun name =>
      permissionKey name == permissionKey permission ||
        permissionKey name == "administrator".toList
  | _ => false

/-! ### Evaluation -/

/-- Texts compare with their case unless the input `case_sensitive` is present and false. -/
def caseSensitive (inputs : Fields Value) : Bool :=
  match inputs.get? "case_sensitive" with
  | none => true
  | some v => v.truthy

/-- The value of a function at its inputs; `draw` selects the integer of a random draw. Missing
    results are those of projections without an object or field, and of empty random ranges. -/
def evaluate (f : PureFunction) (inputs : Fields Value) (draw : Nat) : Option Value :=
  let input (pin : String) : Option Value := inputs.get? pin
  let num (pin : String) : Binary64 := Value.toNumber (inputs.get? pin)
  let text (pin : String) : String := Value.toText (inputs.get? pin)
  let cased (pin : String) : String :=
    if caseSensitive inputs then text pin else Text.lower (text pin)
  match f with
  | .stringJoin => some (.string (text "a" ++ text "separator" ++ text "b"))
  | .stringContains => some (.bool (Text.contains (cased "text") (cased "search")))
  | .stringUpper => some (.string (Text.upper (text "text")))
  | .stringLower => some (.string (Text.lower (text "text")))
  | .stringTrim => some (.string (Text.trim (text "text")))
  | .stringLength => some (.ofBinary64 (.ofNat (text "text").length))
  | .stringEquals => some (.bool (cased "a" == cased "b"))
  | .mathAdd => some (.ofBinary64 ((num "a").add (num "b")))
  | .mathSubtract => some (.ofBinary64 ((num "a").sub (num "b")))
  | .mathMultiply => some (.ofBinary64 ((num "a").mul (num "b")))
  | .mathDivide =>
    some (.ofBinary64 (if (num "b").eq .zero then .zero else (num "a").div (num "b")))
  | .mathModulo =>
    some (.ofBinary64 (if (num "b").eq .zero then .zero else (num "a").rem (num "b")))
  | .compareEqual => some (.bool (Value.looseEq (input "a") (input "b")))
  | .compareNotEqual => some (.bool (!Value.looseEq (input "a") (input "b")))
  | .compareGreater => some (.bool ((num "b").lt (num "a")))
  | .compareGreaterEqual => some (.bool ((num "b").le (num "a")))
  | .compareLess => some (.bool ((num "a").lt (num "b")))
  | .compareLessEqual => some (.bool ((num "a").le (num "b")))
  | .logicAnd => some (.bool (Value.truthy? (input "a") && Value.truthy? (input "b")))
  | .logicOr => some (.bool (Value.truthy? (input "a") || Value.truthy? (input "b")))
  | .logicNot => some (.bool (!Value.truthy? (input "value")))
  | .randomInt => (randomRange? (num "min") (num "max")).map fun range => .int (pick range draw)
  | .asString => some (.string (Value.displayText (input "value")))
  | .asNumber => some (.ofBinary64 (num "value"))
  | .userId => idOf? (input "user")
  | .userName => firstField? (input "user") ["username", "name"]
  | .userDisplayName => firstField? (input "user") ["displayName", "globalName", "username"]
  | .userAvatar => firstField? (input "user") ["avatarUrl", "avatarURL", "avatar"]
  | .userIsBot => some (.bool (Value.truthy? (firstField? (input "user") ["bot"])))
  | .channelId => idOf? (input "channel")
  | .channelName => firstField? (input "channel") ["name"]
  | .guildId => idOf? (input "guild")
  | .guildName => firstField? (input "guild") ["name"]
  | .guildMemberCount => firstField? (input "guild") ["memberCount", "member_count"]
  | .memberNickname => firstField? (input "member") ["nickname", "nick"]
  | .memberHasRole => do
    let member ← input "member"
    let role ← idOf? (input "role")
    return .bool (hasRole member role)
  | .memberHasPermission => do
    let member ← input "member"
    return .bool (hasPermission member (text "permission"))
  | .messageContent => firstField? (input "message") ["content"]
  | .messageAuthor => firstField? (input "message") ["author"]
  | .roleId => idOf? (input "role")
  | .roleName => firstField? (input "role") ["name"]

end PureFunction

end PinFlow
