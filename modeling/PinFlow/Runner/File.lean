import PinFlow.Bot
import PinFlow.Document
import PinFlow.Runner.Error

/-!
Bots and payloads in files.

A payload is any data text. In a bot file the fields of records may not be repeated, and what the
records do not know is skipped unread: it may hold numbers out of range, texts without meaning and
any depth of nesting.
-/

set_option autoImplicit false

namespace PinFlow

namespace Document

/-- Where the records are in a document: which parts are lists of records or records, and what is
    inside their fields. -/
inductive Outline where
  | anything
  | name
  | list (item : Outline)
  | record (fields : List (List String × Outline))

def fieldIndex? (fields : List (List String × Outline)) (key : String) : Option Nat :=
  fields.findIdx? fun field => field.1.contains key

def outlineAt (fields : List (List String × Outline)) (i : Nat) : Outline :=
  (fields[i]?.map Prod.snd).getD .anything

def isRepeated : List Nat → Bool
  | [] => false
  | i :: rest => rest.contains i || isRepeated rest

mutual

/-- The part of a document that an outline covers; none if a record repeats a field, has a key that
    is no text, or a name is written as an object with more than one key. -/
def select? (o : Outline) : Document → Option Document
  | .object entries =>
    match o with
    | .record fields => do
      let kept ← selectFields? fields entries
      if isRepeated (kept.map Prod.fst) then none
      else some (.object (kept.map Prod.snd))
    | .name => if entries.length = 1 then some (.object entries) else none
    | _ => some (.object entries)
  | .array items =>
    match o with
    | .record fields => (selectItems? (fields.map Prod.snd) items).map Document.array
    | .list item => (selectItems? (List.replicate items.length item) items).map Document.array
    | _ => some (.array items)
  | d => some d

/-- The entries of a record that it knows, with the positions of their fields. -/
def selectFields? (fields : List (List String × Outline)) :
    List (Option String × Document) → Option (List (Nat × (Option String × Document)))
  | [] => some []
  | (key, d) :: rest => do
    let k ← key
    match fieldIndex? fields k with
    | none => selectFields? fields rest
    | some i =>
      let d ← select? (outlineAt fields i) d
      let rest ← selectFields? fields rest
      return (i, (some k, d)) :: rest

def selectItems? : (outlines : List Outline) → List Document → Option (List Document)
  | _, [] => some []
  | outlines, d :: rest => do
    let d ← select? (outlines.headD .anything) d
    let rest ← selectItems? outlines.tail rest
    return d :: rest

end

def pinOutline : Outline :=
  .record [(["id"], .anything), (["type"], .name), (["label"], .anything),
    (["optional"], .anything)]

def nodeOutline : Outline :=
  .record [(["id"], .anything), (["definition", "type"], .anything),
    (["execInputs"], .list pinOutline), (["execOutputs"], .list pinOutline),
    (["dataInputs"], .list pinOutline), (["dataOutputs"], .list pinOutline),
    (["config", "data"], .anything)]

def edgeOutline : Outline :=
  .record [(["id"], .anything), (["source"], .anything), (["sourceHandle"], .anything),
    (["target"], .anything), (["targetHandle"], .anything)]

def graphOutline : Outline :=
  .record [(["nodes"], .list nodeOutline), (["edges"], .list edgeOutline)]

def metadataOutline : Outline :=
  .record [(["name"], .anything), (["description"], .anything), (["enabled"], .anything),
    (["tags"], .anything), (["created_at"], .anything), (["updated_at"], .anything)]

def botOutline : Outline :=
  .record [(["id"], .anything), (["metadata"], metadataOutline), (["graph"], graphOutline)]

end Document

namespace Runner

inductive File where
  | missing
  | bytes (content : ByteArray)

def File.isPresent : File → Bool
  | .missing => false
  | .bytes _ => true

def readText (path : String) : File → Except Error String
  | .missing => .error (.unreadable path "no such file")
  | .bytes content =>
    match String.fromUTF8? content with
    | some s => .ok s
    | none => .error (.unreadable path "not a text in UTF-8")

def botOfText (birth : Birth) (s : String) : Except String Bot :=
  match Document.read? s with
  | none => .error "not a data text"
  | some d =>
    match d.select? Document.botOutline with
    | none => .error "repeated field"
    | some d =>
      match d.toValue? Document.maxNesting with
      | none => .error "value out of range"
      | some v =>
        match Bot.read birth v with
        | .ok b => .ok b
        | .error e => .error e.message

def readBot (birth : Birth) (path : String) (file : File) : Except Error Bot := do
  let s ← readText path file
  match botOfText birth s with
  | .ok b => .ok b
  | .error details => .error (.invalidBot path details)

def readPayload (path : String) (file : File) : Except Error Value := do
  let s ← readText path file
  match Value.read? s with
  | some v => .ok v
  | none => .error (.invalidPayload path "not a data text")

end Runner

end PinFlow
