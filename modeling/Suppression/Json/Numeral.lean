import Suppression.Json.Token
import Suppression.Number.Shortest
/-!
# Numerals

A numeral is the written form of a number: a sign, digits, and optionally a fraction and an
exponent. A numeral without fraction and exponent whose digits fit into 64 bits is a whole number;
every other one is a floating-point number, and one beyond the largest of those is no number.
-/

namespace Suppression

/-- A number as it is written. -/
structure Numeral where
  /-- Whether a minus stands before it. -/
  negative : Bool
  /-- The digits before the point. -/
  whole : List Char
  /-- The digits after the point, if there is one. -/
  fraction : List Char := []
  /-- The exponent, if there is one. -/
  exponent : Option Int := none
deriving DecidableEq

namespace Numeral

/-! ## Reading the parts -/

/-- Splits off the digits at the beginning of a text; there has to be one. -/
def digits (text : List Char) : Except ReadError (List Char × List Char) :=
  match text with
  | [] => .error .truncated
  | c :: _ =>
    if c.isDigit then .ok (text.takeWhile (·.isDigit), text.dropWhile (·.isDigit))
    else .error .malformed

/-- Reads the digits before the point. More than one digit does not begin with a zero. -/
def readWhole (text : List Char) : Except ReadError (List Char × List Char) := do
  let (shown, rest) ← digits text
  if 1 < shown.length ∧ shown.head? = some '0' then .error .malformed else .ok (shown, rest)

/-- Reads the point and the digits after it, if there is a point. -/
def readFraction : List Char → Except ReadError (List Char × List Char)
  | '.' :: rest => digits rest
  | rest => .ok ([], rest)

/-- The number that digits stand for. -/
def ofDigits (shown : List Char) : Nat :=
  shown.foldl (fun n c => 10 * n + (c.toNat - '0'.toNat)) 0

/-- Reads the exponent after its mark. -/
def readSigned : List Char → Except ReadError (Int × List Char)
  | '-' :: rest => do
    let (shown, rest) ← digits rest
    return (-(ofDigits shown : Int), rest)
  | text => do
    let (shown, rest) ← digits (match text with | '+' :: rest => rest | _ => text)
    return ((ofDigits shown : Int), rest)

/-- Reads the exponent, if its mark is there. -/
def readExponent : List Char → Except ReadError (Option Int × List Char)
  | c :: rest =>
    if c = 'e' ∨ c = 'E' then do
      let (exponent, rest) ← readSigned rest
      return (some exponent, rest)
    else .ok (none, c :: rest)
  | [] => .ok (none, [])

/-- Reads a numeral without its sign. -/
def readUnsigned (negative : Bool) (text : List Char) :
    Except ReadError (Numeral × List Char) := do
  let (whole, rest) ← readWhole text
  let (fraction, rest) ← readFraction rest
  let (exponent, rest) ← readExponent rest
  return ({ negative, whole, fraction, exponent }, rest)

/-- Reads a numeral. -/
def read : List Char → Except ReadError (Numeral × List Char)
  | '-' :: rest => readUnsigned true rest
  | text => readUnsigned false text

/-! ## The value -/

/-- Appends digits to a number as long as it stays within 64 bits; gives the number and the digits
left over. -/
def absorb (significand : Nat) : List Char → Nat × List Char
  | [] => (significand, [])
  | c :: rest =>
    let next := 10 * significand + (c.toNat - '0'.toNat)
    if next < UInt64.size then absorb next rest else (significand, c :: rest)

/-- The largest power of ten that is a floating-point number. -/
def largestPower : Nat := 308

/-- A power of ten as a floating-point number. -/
def powerOfTen (n : Nat) : Float := Float.ofScientific 1 false n

/-- A floating-point number divided by a power of ten, in steps that each stay within the range of
floating-point numbers. -/
def shrink (value : Float) (places : Nat) : Float :=
  if places ≤ largestPower then value / powerOfTen places
  else if value == 0 then value
  else shrink (value / powerOfTen largestPower) (places - largestPower)
termination_by places
decreasing_by simp only [largestPower] at *; omega

/-- A significand scaled by a power of ten, as a floating-point number; none if it is too large. -/
def scale? (significand : Nat) (exponent : Int) : Option Float :=
  let value := (UInt64.ofNat significand).toFloat
  if exponent < 0 then some (shrink value exponent.natAbs)
  else if exponent ≤ largestPower then
    let scaled := value * powerOfTen exponent.toNat
    if scaled.isInf then none else some scaled
  else if value == 0 then some value
  else none

/-- The floating-point number of a numeral: the digits that fit into 64 bits count, the places of
the others too, as far as they stand before the point. -/
def float? (numeral : Numeral) : Option Float :=
  let (upper, unread) := absorb 0 numeral.whole
  let (significand, lost) := absorb upper numeral.fraction
  let places := numeral.fraction.length - lost.length
  let exponent := (unread.length : Int) - places + numeral.exponent.getD 0
  (scale? significand exponent).map fun value => if numeral.negative then -value else value

/-- The number of a numeral. A negative zero and a negative number below the 64-bit range are
floating-point numbers. -/
def toNumber? (numeral : Numeral) : Option Number :=
  let value := ofDigits numeral.whole
  let plain := numeral.fraction.isEmpty && numeral.exponent.isNone
  if plain && !numeral.negative && value < UInt64.size then some (.whole value)
  else if plain && numeral.negative && 0 < value && value ≤ Nat.pow 2 63 then some (.whole (-value))
  else numeral.float?.map fun value => .decimal (Decimal.ofFloat value)

end Numeral

end Suppression
