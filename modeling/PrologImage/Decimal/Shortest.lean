import PrologImage.Decimal.Double

/-!
Contract: floating-point numbers as the shortest decimal that reads back.

Owns: the rounding interval of a finite number, the choice of digits, and the written form of a
number of seconds.

The reals that round to a number form an interval around it, which contains its ends when the
mantissa is even; ends and decimals are compared in whole numbers. Among the decimals with the
fewest digits that lie in the interval the nearest is chosen.
-/

namespace PrologImage.Decimal

/-- A decimal number: `digits` times ten to the power `exponent`. -/
structure Scaled where
  digits : Nat
  exponent : Int
deriving DecidableEq, Repr

/-- Whether the gap below a number is half the gap above it: at a power of two. -/
def Binary.narrowBelow (number : Binary) : Bool :=
  number.mantissa = Nat.pow 2 (mantissaBits - 1) && leastExponent < number.exponent

/-- Interval ends and value as whole numbers over one unit: a quarter of the gap above, times a
power of two and a power of ten that make all of them whole. -/
structure Interval where
  lower : Nat
  value : Nat
  upper : Nat
  closed : Bool
deriving DecidableEq, Repr

/-- The interval of a number measured in units of ten to the power `exponent`, and the size of
that unit. -/
def Binary.interval (number : Binary) (exponent : Int) : Interval × Nat :=
  let quarter := number.exponent - 2
  let scale := Nat.pow 2 quarter.toNat * Nat.pow 10 (-exponent).toNat
  let unit := Nat.pow 10 exponent.toNat * Nat.pow 2 (-quarter).toNat
  let below := if number.narrowBelow then 1 else 2
  (⟨(4 * number.mantissa - below) * scale, 4 * number.mantissa * scale,
    (4 * number.mantissa + 2) * scale, number.mantissa % 2 = 0⟩, unit)

/-- Whether a multiple of the unit lies in an interval. -/
def Interval.covers (interval : Interval) (point : Nat) : Bool :=
  if interval.closed then interval.lower ≤ point && point ≤ interval.upper
  else interval.lower < point && point < interval.upper

/-- The multiple of ten to a power that lies in the interval of a number and is nearest to it, an
even multiple on a tie; none when no multiple lies in the interval. -/
def Binary.onGrid? (number : Binary) (exponent : Int) : Option Scaled :=
  let (interval, unit) := number.interval exponent
  let low := interval.value / unit
  let high := low + 1
  let lowFits := interval.covers (low * unit)
  let highFits := interval.covers (high * unit)
  let distanceLow := interval.value - low * unit
  let distanceHigh := high * unit - interval.value
  if lowFits && highFits then
    if distanceLow < distanceHigh || (distanceLow = distanceHigh && low % 2 = 0) then
      some ⟨low, exponent⟩
    else some ⟨high, exponent⟩
  else if lowFits then some ⟨low, exponent⟩
  else if highFits then some ⟨high, exponent⟩
  else none

/-- The first grid, from coarse to fine, with a multiple in the interval. -/
def Binary.firstGrid (number : Binary) (exponent : Int) : Nat → Option Scaled
  | 0 => none
  | remaining + 1 =>
      match number.onGrid? exponent with
      | some scaled => some scaled
      | none => number.firstGrid (exponent - 1) remaining

def digitCount (number : Nat) : Nat :=
  (Nat.toDigits 10 number).length

/-- A power of ten that is larger than the number: no smaller one than necessary by more than a
few steps. -/
def Binary.topExponent (number : Binary) : Int :=
  if 0 ≤ number.exponent then digitCount (number.mantissa * Nat.pow 2 number.exponent.toNat)
  else
    (digitCount (number.mantissa * Nat.pow 10 400 / Nat.pow 2 (-number.exponent).toNat) : Int) - 400

/-- The decimal with the fewest digits that reads back as the number, the nearest of those. -/
def Binary.shortest (number : Binary) : Scaled :=
  (number.firstGrid number.topExponent 40).getD ⟨0, 0⟩

/-- The digits of a number, and the place of the point after the first `point` of them. -/
structure Positioned where
  digits : List Char
  point : Int
deriving DecidableEq, Repr

/-- The digits of a decimal without zeros at the end. -/
def Scaled.positioned (scaled : Scaled) : Positioned :=
  let digits := Nat.toDigits 10 scaled.digits
  let kept := (digits.reverse.dropWhile (· = '0')).reverse
  ⟨kept, scaled.exponent + digits.length⟩

/-- The form of a number of seconds: positional when the point is at most four zeros before the
first digit and at most sixteen digits after it, with at least one digit behind the point;
otherwise one digit before the point, none of it when there is no other, and an exponent of at
least two digits with its sign. -/
def Positioned.text (positioned : Positioned) : String :=
  let digits := positioned.digits
  if -4 < positioned.point ∧ positioned.point ≤ 16 then
    if positioned.point ≤ 0 then
      String.ofList ("0.".toList ++ List.replicate (-positioned.point).toNat '0' ++ digits)
    else
      let before := positioned.point.toNat
      let whole := digits.take before ++ List.replicate (before - digits.length) '0'
      let fraction := digits.drop before
      String.ofList (whole ++ '.' :: if fraction = [] then ['0'] else fraction)
  else
    let exponent := positioned.point - 1
    let exponentDigits := Nat.toDigits 10 exponent.natAbs
    let fraction := digits.drop 1
    String.ofList (digits.take 1 ++ (if fraction = [] then [] else '.' :: fraction) ++
      ['e', if exponent < 0 then '-' else '+'] ++
      List.replicate (2 - exponentDigits.length) '0' ++ exponentDigits)

def Double.text : Double → String
  | .zero negative => if negative then "-0.0" else "0.0"
  | .infinite negative => if negative then "-inf" else "inf"
  | .notANumber => "nan"
  | .finite negative magnitude =>
      (if negative then "-" else "") ++ magnitude.shortest.positioned.text

end PrologImage.Decimal
