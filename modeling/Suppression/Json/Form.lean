import Suppression.Json.Container
/-!
# Forms

A form says how values of a type are written as JSON, and how they are read back from text. Given
here are the forms of strings, truth values and whole numbers, of values that may be missing, and of
lists.
-/

namespace Suppression

/-- How the values of a type are written and read. Reading is told how many containers may still be
opened. -/
structure Form (α : Type) where
  /-- The value as JSON. -/
  write : α → Json
  /-- The value from the front of a text. -/
  read : Nat → Reader α

namespace Form

open Reader (fail)

/-- The text of a value. -/
def toText {α : Type} (form : Form α) (value : α) : String := (form.write value).toText

/-- The value of a text. Nothing but blanks may follow it. -/
def ofText {α : Type} (form : Form α) (text : String) : Except ReadError α := do
  let (value, rest) ← form.read Reader.maxLevels text.toList
  if (Reader.skipBlanks rest).isEmpty then return value else .error .malformed

/-- The same form seen through a pair of conversions, of which the one used for reading may
refuse. -/
def through {α β : Type} (form : Form α) (split : β → α) (join : α → Except Mismatch β) :
    Form β where
  write value := form.write (split value)
  read levels text := do
    let (value, rest) ← form.read levels text
    match join value with
    | .ok value => return (value, rest)
    | .error cause => fail cause

/-! ## Simple types -/

/-- A string. -/
def string : Form String where
  write := .string
  read _ text := do
    match ← Reader.token text with
    | (.string value, rest) => return (value, rest)
    | (found, _) => fail (.wrongType found "a string")

/-- A truth value. -/
def bool : Form Bool where
  write := .bool
  read _ text := do
    match ← Reader.token text with
    | (.bool value, rest) => return (value, rest)
    | (found, _) => fail (.wrongType found "a boolean")

/-- A whole number from zero up to, but not including, `size`, called `wanted`. -/
def natural (size : Nat) (wanted : String) : Form Nat where
  write := Json.natural
  read _ text := do
    match ← Reader.token text with
    | (.number (.whole value), rest) =>
      if 0 ≤ value ∧ value < size then return (value.toNat, rest)
      else fail (.outOfRange value wanted)
    | (found, _) => fail (.wrongType found wanted)

/-- A 32-bit word. -/
def word32 : Form UInt32 :=
  (natural UInt32.size "u32").through UInt32.toNat (.ok <| UInt32.ofNat ·)

/-- A 64-bit word. -/
def word64 : Form UInt64 :=
  (natural UInt64.size "usize").through UInt64.toNat (.ok <| UInt64.ofNat ·)

/-- A value that may be missing, and is then written as null. -/
def option {α : Type} (form : Form α) : Form (Option α) where
  write
    | none => .null
    | some value => form.write value
  read levels text :=
    match Reader.skipBlanks text with
    | 'n' :: rest => do return (none, ← Reader.word ['u', 'l', 'l'] rest)
    | rest => do
      let (value, rest) ← form.read levels rest
      return (some value, rest)

/-- A list. -/
def list {α : Type} (form : Form α) : Form (List α) where
  write values := .array (values.map form.write)
  read levels text := do
    match ← Reader.token text with
    | (.openArray, rest) =>
      Reader.deeper levels (fun levels => Reader.items (form.read levels)) rest
    | (found, _) => fail (.wrongType found "a sequence")

end Form

end Suppression
