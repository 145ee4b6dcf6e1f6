import Suppression.Json.Content
import Suppression.Json.Form
/-!
# Records

A record is written as an object of its fields in order. It is read from an object, whose fields may
come in any order and be accompanied by unknown ones, or from an array of its fields in order.
Fields that need not be there keep the values of the record that reading starts from.
-/

namespace Suppression

/-! ## Fields -/

/-- A field of a record. -/
structure Field (σ : Type) where
  /-- Its name. -/
  name : String
  /-- Whether a text has to give it. -/
  isRequired : Bool
  /-- What is written for it, if anything. -/
  write : σ → Option Json
  /-- Reads a value for it and gives the change that this makes to a record. -/
  read : Nat → Reader (σ → σ)

namespace Field

variable {α σ : Type}

/-- Reads a value of a form and stores it. -/
def store (form : Form α) (set : α → σ → σ) (levels : Nat) : Reader (σ → σ) := fun text => do
  let (value, rest) ← form.read levels text
  return (set value, rest)

/-- A field that has to be there. -/
def needed (name : String) (form : Form α) (get : σ → α) (set : α → σ → σ) : Field σ where
  name
  isRequired := true
  write record := some (form.write (get record))
  read := store form set

/-- A field that is always written but need not be there. -/
def defaulted (name : String) (form : Form α) (get : σ → α) (set : α → σ → σ) : Field σ where
  name
  isRequired := false
  write record := some (form.write (get record))
  read := store form set

/-- A field that is left out if it has no value. -/
def optional (name : String) (form : Form α) (get : σ → Option α) (set : Option α → σ → σ) :
    Field σ where
  name
  isRequired := false
  write record := (get record).map form.write
  read := store form.option set

end Field

/-! ## The record and its form -/

/-- A record: its name, the values it starts from and its fields in order. -/
structure Record (σ : Type) where
  /-- The name by which it is wanted. -/
  name : String
  /-- The record before anything is read. -/
  start : σ
  /-- The fields in order. -/
  fields : List (Field σ)

namespace Record

variable {σ : Type}

open Reader (fail)

/-- The object of a record. -/
def write (record : Record σ) (value : σ) : Json :=
  .object (record.fields.filterMap fun field => (field.write value).map (field.name, ·))

/-- Reads one field of an object. A known field that was seen before is refused by its name alone;
the value of an unknown one is passed over. -/
def readField (record : Record σ) (levels : Nat) (name : String) (state : List String × σ) :
    Reader (List String × σ) := fun text =>
  match record.fields.find? (·.name == name) with
  | none => do
    let (_, rest) ← Reader.afterColon Reader.skip text
    return (state, rest)
  | some field =>
    if name ∈ state.1 then fail (.duplicateField name)
    else do
      let (change, rest) ← Reader.afterColon (field.read levels) text
      return ((name :: state.1, change state.2), rest)

/-- Reads the fields of an object after its opening brace; then none that is required may be
missing. -/
def readObject (record : Record σ) (levels : Nat) : Reader σ := fun text => do
  let ((seen, value), rest) ←
    Reader.fields (record.readField levels) ([], record.start) text
  match record.fields.find? fun field => field.isRequired && !seen.contains field.name with
  | some field => fail (.missingField field.name)
  | none => return (value, rest)

/-- How an array of the fields is wanted. -/
def wantedItems (record : Record σ) : String :=
  "struct " ++ record.name ++ " with " ++ Nat.repr record.fields.length ++ " elements"

/-- Reads the fields of an array from the `count`-th on. The array may close early if no required
field is left; after the last field it has to close. -/
def readItems (record : Record σ) (levels : Nat) : Nat → σ → List (Field σ) → Reader σ
  | _, value, [], text => do
    return (value, ← Reader.sign ']' text)
  | count, value, field :: rest, text => do
    match ← (if count = 0 then Reader.firstPlace ']' text else Reader.nextPlace ']' text) with
    | (.closed, text) =>
      if (field :: rest).any (·.isRequired) then fail (.wrongLength count record.wantedItems)
      else return (value, text)
    | (.item, text) =>
      let (change, text) ← field.read levels text
      record.readItems levels (count + 1) (change value) rest text

/-- The form of a record. -/
def form (record : Record σ) : Form σ where
  write := record.write
  read levels text := do
    match ← Reader.token text with
    | (.openObject, rest) => Reader.deeper levels record.readObject rest
    | (.openArray, rest) =>
      Reader.deeper levels
        (fun levels => record.readItems levels 0 record.start record.fields) rest
    | (found, _) => fail (.wrongType found ("struct " ++ record.name))

end Record

end Suppression
