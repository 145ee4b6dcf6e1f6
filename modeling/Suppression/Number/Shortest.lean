import Suppression.Number.Decimal
/-!
# The shortest decimal of a floating-point number

A floating-point number stands for all reals that round to it. Among the decimals in that interval
the shortest is the one with the coarsest last place; of two with the same last place the one nearer
to the number is taken, and of two equally near the even one. The search runs in whole numbers: the
interval is held as numerators over a common denominator.
-/

namespace Suppression.Decimal

/-- The reals from `low` to `high` over `denominator`, around the number `middle` over the same
denominator. -/
structure Rounding where
  /-- The lower end. -/
  low : Nat
  /-- The number itself. -/
  middle : Nat
  /-- The upper end. -/
  high : Nat
  /-- What all three are divided by. -/
  denominator : Nat
  /-- Whether the ends belong to the interval. -/
  closed : Bool

namespace Rounding

/-- The reals that round to `mantissa * 2 ^ exponent`. Half a last place on either side belongs to
them, but below the least mantissa of its binade, `2 ^ 52`, last places are half as wide. Ends round
to the even mantissa. -/
def ofBinary (mantissa : Nat) (exponent : Int) : Rounding :=
  let shift := exponent - 2
  let scale := Nat.pow 2 shift.toNat
  let narrow := mantissa = Nat.pow 2 52 ∧ -1074 < exponent
  { low := (4 * mantissa - if narrow then 1 else 2) * scale
    middle := 4 * mantissa * scale
    high := (4 * mantissa + 2) * scale
    denominator := Nat.pow 2 (-shift).toNat
    closed := mantissa % 2 = 0 }

/-- Whether a real, given as a numerator over the denominator scaled by `grain`, belongs to the
interval. -/
def covers (interval : Rounding) (grain point : Nat) : Bool :=
  let low := interval.low * grain
  let high := interval.high * grain
  if interval.closed then low ≤ point && point ≤ high else low < point && point < high

/-- The multiple of `10 ^ exponent` in the interval that is nearest to its number, if there is one:
one of the number's two neighbours on that grid. -/
def nearest? (interval : Rounding) (exponent : Int) : Option Nat :=
  let grain := Nat.pow 10 (-exponent).toNat
  let step := interval.denominator * Nat.pow 10 exponent.toNat
  let middle := interval.middle * grain
  let below := middle / step
  let above := below + 1
  match interval.covers grain (below * step), interval.covers grain (above * step) with
  | false, false => none
  | true, false => some below
  | false, true => some above
  | true, true =>
    let down := middle - below * step
    let up := above * step - middle
    if down < up then some below
    else if up < down then some above
    else if below % 2 = 0 then some below
    else some above

/-- The coarsest grid with a point in the interval, among those finer than `10 ^ coarsest`, and that
point; the search ends after `count` grids. -/
def shortest? (interval : Rounding) : Nat → Int → Option (Nat × Int)
  | 0, _ => none
  | count + 1, coarsest =>
    match interval.nearest? (coarsest - 1) with
    | some digits => some (digits, coarsest - 1)
    | none => interval.shortest? count (coarsest - 1)

end Rounding

/-- The shortest decimal that reads back as a finite floating-point number. No grid coarser than
`10 ^ 308` and none finer than `10 ^ (-342)` is needed. -/
def ofFloat (value : Float) : Decimal :=
  let bits := value.toBits.toNat
  let negative := decide (Nat.pow 2 63 ≤ bits)
  let biased : Nat := bits / Nat.pow 2 52 % Nat.pow 2 11
  let fraction : Nat := bits % Nat.pow 2 52
  let (mantissa, exponent) : Nat × Int :=
    if biased = 0 then (fraction, -1074) else (Nat.pow 2 52 + fraction, (biased : Int) - 1075)
  if mantissa = 0 then ⟨negative, 0, 0⟩
  else
    let (digits, exponent) :=
      ((Rounding.ofBinary mantissa exponent).shortest? 651 309).getD (mantissa, 0)
    ⟨negative, digits, exponent⟩

end Suppression.Decimal
