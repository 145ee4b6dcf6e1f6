import Suppression.Json.Value
import Suppression.Text.Quoted
/-!
# Tokens and mismatches

A value begins with a token: a simple value is its own token, a container begins with its bracket.
Reading a text fails in one of three ways: the text is no JSON, it ends too early, or it is JSON of
another form than the one wanted. The last kind is a *mismatch*, and names what was found.
-/

namespace Suppression

/-! ## Tokens -/

/-- The beginning of a value. -/
inductive Token where
  | null
  | bool (value : Bool)
  | number (value : Number)
  | string (text : String)
  | openArray
  | openObject
deriving DecidableEq

/-- A word between grave accents. -/
def Text.accented (word : String) : String := "`" ++ word ++ "`"

/-- A token as it is named in a message. -/
def Token.text : Token → String
  | null => "null"
  | bool true => "boolean " ++ Text.accented "true"
  | bool false => "boolean " ++ Text.accented "false"
  | number (.whole value) =>
    "integer " ++ Text.accented (String.ofList (Decimal.integerText value))
  | number (.decimal value) => "floating point " ++ Text.accented (String.ofList value.text)
  | string text => "string " ++ Text.quote text
  | openArray => "sequence"
  | openObject => "map"

/-- The token with which a value begins. -/
def Json.token : Json → Token
  | null => .null
  | bool value => .bool value
  | number value => .number value
  | string text => .string text
  | array _ => .openArray
  | object _ => .openObject

/-! ## Mismatches -/

/-- Why JSON is not of the form that is wanted. -/
inductive Mismatch where
  /-- A value begins in another way than wanted. -/
  | wrongType (found : Token) (wanted : String)
  /-- A variant that holds content is given by its name alone. -/
  | bareVariant
  /-- A whole number lies outside the range of its type. -/
  | outOfRange (value : Int) (wanted : String)
  /-- An array has too few or too many items. -/
  | wrongLength (length : Nat) (wanted : String)
  /-- A field that has to be there is not. -/
  | missingField (name : String)
  /-- A field comes twice. -/
  | duplicateField (name : String)
  /-- No variant has this name. -/
  | unknownVariant (name : String) (known : List String)
  /-- The value is well formed but not admitted. -/
  | refused (reason : String)
deriving DecidableEq

/-- Names to choose from. -/
def Text.choice : List String → String
  | [] => "nothing"
  | [a] => accented a
  | [a, b] => accented a ++ " or " ++ accented b
  | names => "one of " ++ String.intercalate ", " (names.map accented)

/-- The message of a mismatch. -/
def Mismatch.message : Mismatch → String
  | wrongType found wanted => "invalid type: " ++ found.text ++ ", expected " ++ wanted
  | bareVariant => "invalid type: unit variant, expected newtype variant"
  | outOfRange value wanted =>
    "invalid value: " ++ (Token.number (.whole value)).text ++ ", expected " ++ wanted
  | wrongLength length wanted => "invalid length " ++ Nat.repr length ++ ", expected " ++ wanted
  | missingField name => "missing field " ++ Text.accented name
  | duplicateField name => "duplicate field " ++ Text.accented name
  | unknownVariant name known =>
    "unknown variant " ++ Text.accented name ++ ", expected " ++ Text.choice known
  | refused reason => reason

/-- Why a text cannot be read. -/
inductive ReadError where
  /-- The text is not JSON. -/
  | malformed
  /-- The text ends before its value does. -/
  | truncated
  /-- The text is not of the form that is wanted. -/
  | mismatch (cause : Mismatch)
deriving DecidableEq

end Suppression
