import Suppression.Text.Hidden
/-!
# Quoted text

A text in a message or a log line is set between double quotes, so that its ends can be seen. The
quote and the backslash are escaped by a backslash; tab, line feed, carriage return and NUL are
written by a letter or digit; every other hidden character is written by its code point.
-/

namespace Suppression.Text

/-- A number in hexadecimal, lower case, without leading zeros. -/
def hexadecimal (n : Nat) : List Char := Nat.toDigits 16 n

/-- One character as it stands between quotes. -/
def quoteChar (c : Char) : List Char :=
  if c = '"' then ['\\', '"']
  else if c = '\\' then ['\\', '\\']
  else if c = '\n' then ['\\', 'n']
  else if c = '\r' then ['\\', 'r']
  else if c = '\t' then ['\\', 't']
  else if c = '\x00' then ['\\', '0']
  else if isHidden c then ['\\', 'u', '\x7b'] ++ hexadecimal c.toNat ++ ['\x7d']
  else [c]

/-- A text between quotes. -/
def quote (text : String) : String :=
  String.ofList ('"' :: text.toList.flatMap quoteChar ++ ['"'])

/-- Entries in a row, between an opening and a closing sign. -/
def enclose (opening closing : String) (entries : List String) : String :=
  opening ++ String.intercalate ", " entries ++ closing

/-- A list of texts, each quoted. -/
def quoteList (texts : List String) : String := enclose "[" "]" (texts.map quote)

/-- A text that may be missing. -/
def quoteOption : Option String → String
  | none => "None"
  | some text => "Some(" ++ quote text ++ ")"

end Suppression.Text
