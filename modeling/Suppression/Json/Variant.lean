import Suppression.Json.Container
/-!
# Variants

A value of a type with several variants is written as the name of its variant, or as an object whose
one field has that name and holds the content.
-/

namespace Suppression

/-- One of the variants of a type: a value known by its name alone, or a name with content. -/
inductive Variant (α : Type) where
  | plain (name : String) (value : α)
  | holding (name : String) (read : Nat → Reader α)

namespace Variant

variable {α : Type}

open Reader (fail)

/-- The name of a variant. -/
def name : Variant α → String
  | plain name _ => name
  | holding name _ => name

/-- The variant of a name. -/
def find (variants : List (Variant α)) (name : String) : Except ReadError (Variant α) :=
  match variants.find? (·.name == name) with
  | some variant => .ok variant
  | none => fail (.unknownVariant name (variants.map Variant.name))

/-- Reads the content of a variant; one without content has null. -/
def readContent (levels : Nat) : Variant α → Reader α
  | plain _ value, text => do
    match ← Reader.token text with
    | (.null, rest) => return (value, rest)
    | (found, _) => fail (.wrongType found "unit")
  | holding _ read, text => read levels text

/-- The variant that a name alone gives. -/
def alone : Variant α → Except ReadError α
  | plain _ value => .ok value
  | holding .. => fail .bareVariant

/-- Reads a variant that stands there by its name alone, where a value of any kind may stand. -/
def readAlone (variants : List (Variant α)) : Reader α := fun text => do
  match ← Reader.token text with
  | (.string name, rest) => return (← (← find variants name).alone, rest)
  | (found, _) => fail (.wrongType found "variant identifier")

/-- Reads a variant: its name, or an object with its name and content as the one field. -/
def read (variants : List (Variant α)) (levels : Nat) : Reader α := fun text =>
  match Reader.skipBlanks text with
  | [] => .error .truncated
  | '"' :: _ => readAlone variants text
  | '\x7b' :: rest =>
    Reader.deeper levels (fun levels text => do
      -- Here the name is that of a field. What does not begin as a string in its place is malformed,
      -- even if it begins as another value, and is not told as a mismatch.
      let (name, text) ← Reader.fieldName text
      let variant ← find variants name
      let (value, text) ← Reader.afterColon (readContent levels variant) text
      return (value, ← Reader.sign '\x7d' text)) rest
  | _ => .error .malformed

end Variant

end Suppression
