import Suppression.Checker
import Suppression.Json.Record
import Suppression.Json.Variant
/-!
# The form of checkers

A checker is a record; its kind is an object that carries the name of the kind in the field `type`,
or an array that begins with it. The kind's name may come after its content, so the content is kept
until the whole value is read, and judged then.
-/

namespace Suppression

open Reader (fail)

namespace KeySet

/-- A key set is written as the list of its keys and read from any list of keys. -/
def form : Form KeySet := (Form.list Form.string).through toList (.ok <| ofList ·)

end KeySet

namespace CheckerKind

/-- The written name of the kind of standalone checkers. -/
def standaloneName : String := "standalone"

/-- The written name of the kind of composites. -/
def compositeName : String := "composite"

/-- The field that holds the name of the kind. -/
def tagField : String := "type"

/-- The field that holds the members of a composite. -/
def membersField : String := "members"

/-- The kind as JSON. -/
def write : CheckerKind → Json
  | standalone => .object [(tagField, .string standaloneName)]
  | composite members =>
    .object [(tagField, .string compositeName), (membersField, .array (members.map .string))]

/-- Which kind a name stands for. -/
inductive Tag where
  | standalone
  | composite
deriving DecidableEq

/-- The kinds by name. -/
def tags : List (Variant Tag) :=
  [.plain standaloneName .standalone, .plain compositeName .composite]

/-- Reads the name of a kind. -/
def readTag : Reader Tag := Variant.readAlone tags

/-! ## Judging the content -/

/-- The name of a member. -/
def memberOfJson : Json → Except Mismatch CheckerId
  | .string id => .ok id
  | other => .error (.wrongType other.token "a string")

/-- The names of members. -/
def membersOfJson : Json → Except Mismatch (List CheckerId)
  | .array items => items.mapM memberOfJson
  | other => .error (.wrongType other.token "a sequence")

/-- The members among the fields of an object; they have to be there once. -/
def membersOfFields : Option (List CheckerId) → List (String × Json) →
    Except Mismatch (List CheckerId)
  | some members, [] => .ok members
  | none, [] => .error (.missingField membersField)
  | found, (name, value) :: rest =>
    if name = membersField then
      match found with
      | some _ => .error (.duplicateField membersField)
      | none => do membersOfFields (some (← membersOfJson value)) rest
    else membersOfFields found rest

/-- The kind of an object, by its tag and its other fields. -/
def ofFields (tag : Tag) (fields : List (String × Json)) : Except Mismatch CheckerKind :=
  match tag with
  | .standalone => .ok .standalone
  | .composite => (membersOfFields none fields).map .composite

/-- The kind of an array, by its tag and its other items. -/
def ofItems (tag : Tag) (items : List Json) : Except Mismatch CheckerKind :=
  match tag, items with
  | .standalone, [] => .ok .standalone
  | .standalone, _ :: _ => .error (.wrongLength items.length "0 elements in sequence")
  | .composite, [] =>
    .error (.wrongLength 0 "struct variant CheckerKind::Composite with 1 element")
  | .composite, members :: rest => do
    let members ← membersOfJson members
    if rest.isEmpty then return .composite members
    else .error (.wrongLength items.length "1 element in sequence")

/-! ## Reading -/

/-- A judgement as the outcome of a reader. -/
def judged (kind : Except Mismatch CheckerKind) (rest : List Char) :
    Except ReadError (CheckerKind × List Char) :=
  match kind with
  | .ok kind => .ok (kind, rest)
  | .error cause => fail cause

/-- Reads one field of the object of a kind: the tag, or content that is kept. -/
def readField (levels : Nat) (name : String) (state : Option Tag × List (String × Json)) :
    Reader (Option Tag × List (String × Json)) := fun text =>
  if name = tagField then
    match state.1 with
    | some _ => fail (.duplicateField tagField)
    | none => do
      let (tag, rest) ← Reader.afterColon readTag text
      return ((some tag, state.2), rest)
  else do
    let (value, rest) ← Reader.afterColon (Json.read levels) text
    return ((state.1, state.2 ++ [(name, value)]), rest)

/-- Reads the object of a kind after its opening brace. -/
def readObject (levels : Nat) : Reader CheckerKind := fun text => do
  match ← Reader.fields (readField levels) (none, []) text with
  | ((none, _), _) => fail (.missingField tagField)
  | ((some tag, content), rest) => judged (ofFields tag content) rest

/-- Reads the array of a kind after its opening bracket. -/
def readArray (levels : Nat) : Reader CheckerKind := fun text => do
  match ← Reader.firstPlace ']' text with
  | (.closed, _) => fail (.missingField tagField)
  | (.item, rest) =>
    let (tag, rest) ← readTag rest
    let (content, rest) ← Reader.itemsFrom (Json.read levels) rest [] rest
    judged (ofItems tag content) rest

/-- The form of a kind. -/
def form : Form CheckerKind where
  write := write
  read levels text := do
    match ← Reader.token text with
    | (.openObject, rest) => Reader.deeper levels readObject rest
    | (.openArray, rest) => Reader.deeper levels readArray rest
    | (found, _) => fail (.wrongType found "internally tagged enum CheckerKind")

end CheckerKind

namespace Checker

/-- A checker as a record. -/
def record : Record Checker where
  name := "CheckerDescriptor"
  start := { id := "" }
  fields := [
    .needed "id" .string (·.id) (fun id checker => { checker with id }),
    .optional "parent" .string (·.parent) (fun parent checker => { checker with parent }),
    .defaulted "keys" (.list .string) (·.keys) (fun keys checker => { checker with keys }),
    .defaulted "kind" CheckerKind.form (·.kind) (fun kind checker => { checker with kind })]

/-- The form of a checker. -/
def form : Form Checker := record.form

end Checker

end Suppression
