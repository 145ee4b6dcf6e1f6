/-!
# Decimal numbers

A decimal number is a signed whole number of digits scaled by a power of ten. Its text is positional
as long as the point falls near the digits, and scientific otherwise; a positional text always shows
a point.
-/

namespace Suppression

/-- The number `digits * 10 ^ exponent`, with a sign that zero may carry too. -/
structure Decimal where
  /-- Whether the number is below zero, or zero from below. -/
  negative : Bool
  /-- The digits, as a whole number. -/
  digits : Nat
  /-- The power of ten by which they are scaled. -/
  exponent : Int
deriving DecidableEq, Inhabited

namespace Decimal

/-- The decimal digits of a whole number. -/
def digitsOf (n : Nat) : List Char := Nat.toDigits 10 n

/-- The text of a whole number with a sign if it is negative. -/
def integerText (n : Int) : List Char :=
  if n < 0 then '-' :: digitsOf n.natAbs else digitsOf n.natAbs

/-- A whole number that is not negative is its digits. -/
theorem integerText_natural (n : Nat) : integerText n = digitsOf n := by
  simp [integerText]

/-- The text of an exponent, which always has a sign. -/
def exponentText (n : Int) : List Char :=
  (if n < 0 then '-' else '+') :: digitsOf n.natAbs

/-- The largest position of the point, counted from the first digit, in positional text. -/
def lastPosition : Int := 16

/-- The smallest position of the point in positional text: so many zeros follow the point. -/
def firstPosition : Int := -4

/-- The text of a number without its sign. -/
def magnitudeText (digits : Nat) (exponent : Int) : List Char :=
  let shown := digitsOf digits
  let point := shown.length + exponent
  if digits = 0 then ['0', '.', '0']
  else if point < firstPosition ∨ lastPosition < point then
    let fraction := shown.drop 1
    shown.take 1 ++ (if fraction.isEmpty then [] else '.' :: fraction) ++
      'e' :: exponentText (point - 1)
  else if point ≤ 0 then '0' :: '.' :: List.replicate (-point).toNat '0' ++ shown
  else if exponent < 0 then shown.take point.toNat ++ '.' :: shown.drop point.toNat
  else shown ++ List.replicate exponent.toNat '0' ++ ['.', '0']

/-- The text of a decimal number. -/
def text (number : Decimal) : List Char :=
  let magnitude := magnitudeText number.digits number.exponent
  if number.negative then '-' :: magnitude else magnitude

end Decimal

end Suppression
