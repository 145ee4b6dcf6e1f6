import Suppression.Json.Literal
import Suppression.Json.Numeral
/-!
# Tokens and containers

A value begins with a token. After an opening bracket come the items of an array or the fields of an
object: the first one or the end, then a comma and another one or the end. Containers may be nested
in each other up to a limit, so a reader is told how many `levels` may still be opened.
-/

namespace Suppression.Reader

/-! ## Tokens -/

/-- Takes a number. -/
def number : Reader Number := fun text => do
  let (numeral, rest) ← Numeral.read text
  match numeral.toNumber? with
  | some value => return (value, rest)
  | none => .error .malformed

/-- Takes the token with which a value begins, after blanks. -/
def token : Reader Token := fun text =>
  match skipBlanks text with
  | [] => .error .truncated
  | '"' :: rest => do
    let (text, rest) ← stringBody rest
    return (.string text, rest)
  | '[' :: rest => .ok (.openArray, rest)
  | '\x7b' :: rest => .ok (.openObject, rest)
  | 'n' :: rest => do return (.null, ← word ['u', 'l', 'l'] rest)
  | 't' :: rest => do return (.bool true, ← word ['r', 'u', 'e'] rest)
  | 'f' :: rest => do return (.bool false, ← word ['a', 'l', 's', 'e'] rest)
  | c :: rest =>
    if c = '-' ∨ c.isDigit then do
      let (value, rest) ← number (c :: rest)
      return (.number value, rest)
    else .error .malformed

/-! ## Containers -/

/-- The number of containers that may be open at the same time. -/
def maxLevels : Nat := 127

/-- What stands at a place of a container where an item may come or the container end. -/
inductive Place where
  /-- The container is closed. -/
  | closed
  /-- An item comes. -/
  | item
deriving DecidableEq

/-- The first place of a container that `closing` ends. -/
def firstPlace (closing : Char) : Reader Place := fun text =>
  match skipBlanks text with
  | [] => .error .truncated
  | c :: rest => if c = closing then .ok (.closed, rest) else .ok (.item, c :: rest)

/-- The place after an item: the end, or a comma and an item. -/
def nextPlace (closing : Char) : Reader Place := fun text =>
  match skipBlanks text with
  | [] => .error .truncated
  | c :: rest =>
    if c = closing then .ok (.closed, rest)
    else if c = ',' then
      match skipBlanks rest with
      | [] => .error .truncated
      | d :: rest => if d = closing then .error .malformed else .ok (.item, d :: rest)
    else .error .malformed

/-- Takes the items of an array after those in `done`, last first. -/
def itemsFrom {α : Type} (item : Reader α) : List Char → List α → Reader (List α)
  | [], _, _ => .error .truncated
  | _ :: rounds, done, text => do
    match ← nextPlace ']' text with
    | (.closed, rest) => return (done.reverse, rest)
    | (.item, rest) =>
      let (value, rest) ← item rest
      itemsFrom item rounds (value :: done) rest

/-- Takes the items of an array after its opening bracket. -/
def items {α : Type} (item : Reader α) : Reader (List α) := fun text => do
  match ← firstPlace ']' text with
  | (.closed, rest) => return ([], rest)
  | (.item, rest) =>
    let (value, rest) ← item rest
    itemsFrom item rest [value] rest

/-- Takes the name of a field; a name is a string and nothing else. -/
def fieldName : Reader String := fun text => do
  stringBody (← sign '"' text)

/-- Takes the colon after the name of a field, and the value. -/
def afterColon {α : Type} (value : Reader α) : Reader α := fun text => do
  value (← sign ':' text)

/-- Takes the fields of an object after some. The text after each name is left to `field`, which
works them into a state. -/
def fieldsFrom {σ : Type} (field : String → σ → Reader σ) : List Char → σ → Reader σ
  | [], _, _ => .error .truncated
  | _ :: rounds, state, text => do
    match ← nextPlace '\x7d' text with
    | (.closed, rest) => return (state, rest)
    | (.item, rest) =>
      let (name, rest) ← fieldName rest
      let (state, rest) ← field name state rest
      fieldsFrom field rounds state rest

/-- Takes the fields of an object after its opening brace. -/
def fields {σ : Type} (field : String → σ → Reader σ) (state : σ) : Reader σ := fun text => do
  match ← firstPlace '\x7d' text with
  | (.closed, rest) => return (state, rest)
  | (.item, rest) =>
    let (name, rest) ← fieldName rest
    let (state, rest) ← field name state rest
    fieldsFrom field rest state rest

/-- Opens a container, if another one may be open. -/
def deeper {α : Type} (levels : Nat) (inside : Nat → Reader α) : Reader α :=
  match levels with
  | 0 => fun _ => .error .malformed
  | levels + 1 => inside levels

end Suppression.Reader
