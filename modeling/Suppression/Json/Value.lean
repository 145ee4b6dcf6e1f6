import Suppression.Number.Decimal
/-!
# JSON values

A JSON value and its compact text: no blanks, the fields of an object in their order. In a string
only the quote, the backslash and the control characters below the space are escaped; everything
else stands for itself.
-/

namespace Suppression

/-- A number of a JSON text: a whole number written without point and exponent, or a decimal. -/
inductive Number where
  | whole (value : Int)
  | decimal (value : Decimal)
deriving DecidableEq, Inhabited

/-- The text of a number. -/
def Number.text : Number → List Char
  | whole value => Decimal.integerText value
  | decimal value => value.text

/-- A JSON value. The fields of an object keep their order, and a name may occur more than once. -/
inductive Json where
  | null
  | bool (value : Bool)
  | number (value : Number)
  | string (text : String)
  | array (items : List Json)
  | object (fields : List (String × Json))
deriving Inhabited

namespace Json

/-- A whole number that is not negative. -/
def natural (n : Nat) : Json := .number (.whole n)

/-! ## Compact text -/

/-- One character of a string as it is written. -/
def escapeChar (c : Char) : List Char :=
  if c = '"' then ['\\', '"']
  else if c = '\\' then ['\\', '\\']
  else if c = '\x08' then ['\\', 'b']
  else if c = '\x0c' then ['\\', 'f']
  else if c = '\n' then ['\\', 'n']
  else if c = '\r' then ['\\', 'r']
  else if c = '\t' then ['\\', 't']
  else if c.toNat < 0x20 then
    ['\\', 'u', '0', '0', Nat.digitChar (c.toNat / 16), Nat.digitChar (c.toNat % 16)]
  else [c]

/-- A string between its quotes. -/
def renderString (text : String) : List Char :=
  '"' :: text.toList.flatMap escapeChar ++ ['"']

mutual

/-- The compact text of a value. -/
def render : Json → List Char
  | null => ['n', 'u', 'l', 'l']
  | bool true => ['t', 'r', 'u', 'e']
  | bool false => ['f', 'a', 'l', 's', 'e']
  | number value => value.text
  | string text => renderString text
  | array [] => ['[', ']']
  | array (item :: rest) => '[' :: render item ++ renderItems rest
  | object [] => ['\x7b', '\x7d']
  | object ((name, value) :: rest) =>
    '\x7b' :: renderString name ++ ':' :: render value ++ renderFields rest

/-- The items of an array after its first, and the closing bracket. -/
def renderItems : List Json → List Char
  | [] => [']']
  | item :: rest => ',' :: render item ++ renderItems rest

/-- The fields of an object after its first, and the closing brace. -/
def renderFields : List (String × Json) → List Char
  | [] => ['\x7d']
  | (name, value) :: rest =>
    ',' :: renderString name ++ ':' :: render value ++ renderFields rest

end

/-- The compact text of a value, as a string. -/
def toText (value : Json) : String := String.ofList value.render

end Json

end Suppression
