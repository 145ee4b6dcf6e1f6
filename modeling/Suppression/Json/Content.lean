import Suppression.Json.Container
/-!
# Values without a wanted form

Some values are read whatever they are. `Json.read` keeps the value; `Reader.skip` only passes over
it. Passing over is more lenient: it takes numerals without asking for their value, escapes without
asking which character they make, and containers nested to any depth.
-/

namespace Suppression

/-- Takes any value. -/
def Json.read : Nat → Reader Json
  | 0, text => do
    match ← Reader.token text with
    | (.null, rest) => return (.null, rest)
    | (.bool value, rest) => return (.bool value, rest)
    | (.number value, rest) => return (.number value, rest)
    | (.string text, rest) => return (.string text, rest)
    | (.openArray, _) | (.openObject, _) => .error .malformed
  | levels + 1, text => do
    match ← Reader.token text with
    | (.null, rest) => return (.null, rest)
    | (.bool value, rest) => return (.bool value, rest)
    | (.number value, rest) => return (.number value, rest)
    | (.string text, rest) => return (.string text, rest)
    | (.openArray, rest) =>
      let (values, rest) ← Reader.items (Json.read levels) rest
      return (.array values, rest)
    | (.openObject, rest) =>
      let (pairs, rest) ← Reader.fields
        (fun name done text => do
          let (value, rest) ← Reader.afterColon (Json.read levels) text
          return (done ++ [(name, value)], rest)) [] rest
      return (.object pairs, rest)

namespace Reader

/-! ## Passing over a value -/

/-- A container that has been opened. -/
inductive Frame where
  | array
  | object
deriving DecidableEq

/-- The sign that closes a container. -/
def Frame.closing : Frame → Char
  | array => ']'
  | object => '\x7d'

/-- Passes over an escape after its backslash, without asking for its character. -/
def skipEscape : List Char → Except ReadError (List Char)
  | [] => .error .truncated
  | c :: rest =>
    if c = 'u' then do
      let (_, rest) ← hexUnit rest
      return rest
    else
      match simpleEscape? c with
      | some _ => .ok rest
      | none => .error .malformed

/-- Passes over a string up to its closing quote. -/
def skipString : List Char → List Char → Except ReadError (List Char)
  | [], _ => .error .truncated
  | _, [] => .error .truncated
  | _ :: rounds, c :: rest =>
    if c = '"' then .ok rest
    else if c = '\\' then do skipString rounds (← skipEscape rest)
    else if c.toNat < 0x20 then .error .malformed
    else skipString rounds rest

/-- Passes over a numeral. One that ends too early is malformed like any other. -/
def skipNumeral (text : List Char) : Except ReadError (List Char) :=
  match Numeral.read text with
  | .ok (_, rest) => .ok rest
  | .error _ => .error .malformed

/-- Passes over a simple value, or the bracket that opens a container. -/
def skipToken (text : List Char) : Except ReadError (Option Frame × List Char) :=
  match skipBlanks text with
  | [] => .error .truncated
  | '"' :: rest => do return (none, ← skipString rest rest)
  | '[' :: rest => .ok (some .array, rest)
  | '\x7b' :: rest => .ok (some .object, rest)
  | 'n' :: rest => do return (none, ← word ['u', 'l', 'l'] rest)
  | 't' :: rest => do return (none, ← word ['r', 'u', 'e'] rest)
  | 'f' :: rest => do return (none, ← word ['a', 'l', 's', 'e'] rest)
  | c :: rest =>
    if c = '-' ∨ c.isDigit then do return (none, ← skipNumeral (c :: rest))
    else .error .malformed

/-- Passes over the name of a field and its colon; an item of an array has neither. -/
def skipName : Frame → List Char → Except ReadError (List Char)
  | .array, text => .ok text
  | .object, '"' :: rest => do sign ':' (← skipString rest rest)
  | .object, _ => .error .malformed

/-- Where passing over a value stands. -/
inductive SkipState where
  /-- A value comes; the containers around it are open. -/
  | value (frames : List Frame)
  /-- A value is complete; the containers around it are open. -/
  | after (frames : List Frame)

/-- Passes over values and signs until the outermost value is complete. -/
def skipFrom : List Char → SkipState → List Char → Except ReadError (List Char)
  | _, .after [], text => .ok text
  | [], _, _ => .error .truncated
  | _ :: rounds, .value frames, text => do
    match ← skipToken text with
    | (none, rest) => skipFrom rounds (.after frames) rest
    | (some frame, rest) =>
      match ← firstPlace frame.closing rest with
      | (.closed, rest) => skipFrom rounds (.after frames) rest
      | (.item, rest) => skipFrom rounds (.value (frame :: frames)) (← skipName frame rest)
  | _ :: rounds, .after (frame :: frames), text => do
    match ← nextPlace frame.closing text with
    | (.closed, rest) => skipFrom rounds (.after frames) rest
    | (.item, rest) => skipFrom rounds (.value (frame :: frames)) (← skipName frame rest)

/-- Passes over any value. -/
def skip : Reader Unit := fun text => do
  return ((), ← skipFrom text (.value []) text)

end Reader

end Suppression
