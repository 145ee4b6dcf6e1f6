import Suppression.Json.Token
/-!
# Reading JSON text

A reader takes a value from the front of a text and leaves the rest. Reading goes from left to right
and stops at the first fault, so a text that is of the wrong form and later also malformed is of the
wrong form.

A loop over the parts of a container or string takes at least one character in each round. It is
therefore bounded by the text it runs on, which is passed to it a second time as `rounds`.
-/

namespace Suppression

/-- Takes a value from the front of a text. -/
abbrev Reader (α : Type) := List Char → Except ReadError (α × List Char)

namespace Reader

/-- Gives up over a mismatch. -/
def fail {α : Type} (cause : Mismatch) : Except ReadError α := .error (.mismatch cause)

/-! ## Blanks and words -/

/-- Whether a character may stand between the parts of a text. -/
def isBlank (c : Char) : Bool := c == ' ' || c == '\t' || c == '\n' || c == '\r'

/-- The text from its first character that is not blank. -/
def skipBlanks (text : List Char) : List Char := text.dropWhile isBlank

/-- Takes exactly the given characters. -/
def word : List Char → List Char → Except ReadError (List Char)
  | [], text => .ok text
  | _ :: _, [] => .error .truncated
  | w :: rest, c :: text => if c = w then word rest text else .error .malformed

/-- Takes one sign, after blanks. -/
def sign (wanted : Char) (text : List Char) : Except ReadError (List Char) :=
  match skipBlanks text with
  | [] => .error .truncated
  | c :: rest => if c = wanted then .ok rest else .error .malformed

end Reader

end Suppression
