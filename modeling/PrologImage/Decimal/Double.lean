/-!
Contract: floating-point numbers of fifty-three bits, as exact values.

Owns: the kinds of number, the positive finite ones as a whole number times a power of two, and
rounding a quotient to the nearest of them.

A finite mantissa has at most fifty-three bits, and exactly fifty-three unless the exponent is the
least one. A quotient half-way between two numbers goes to the one with the even mantissa.
-/

namespace PrologImage.Decimal

/-- A positive finite number: `mantissa` times two to the power `exponent`. -/
structure Binary where
  mantissa : Nat
  exponent : Int
deriving DecidableEq, Repr

inductive Double where
  | zero (negative : Bool)
  | finite (negative : Bool) (magnitude : Binary)
  | infinite (negative : Bool)
  | notANumber
deriving DecidableEq, Repr

def mantissaBits : Nat := 53

def leastExponent : Int := -1074

def greatestExponent : Int := 971

/-- A quotient rounded to a whole number, half-way to the even one. -/
def roundedQuotient (numerator denominator : Nat) : Nat :=
  let quotient := numerator / denominator
  let double := 2 * (numerator % denominator)
  if double < denominator ∨ (double = denominator ∧ quotient % 2 = 0) then quotient
  else quotient + 1

/-- The greatest power of two that is at most a quotient, as an exponent. -/
def floorLog (numerator denominator : Nat) : Int :=
  let estimate : Int := (numerator.log2 : Int) - denominator.log2
  if numerator * Nat.pow 2 (-estimate).toNat < denominator * Nat.pow 2 estimate.toNat then
    estimate - 1
  else estimate

/-- The number with a sign that is nearest to a quotient. -/
def Double.nearest (negative : Bool) (numerator denominator : Nat) : Double :=
  if numerator = 0 then .zero negative
  else
    let exponent := max leastExponent (floorLog numerator denominator - (mantissaBits - 1))
    let mantissa :=
      roundedQuotient (numerator * Nat.pow 2 (-exponent).toNat)
        (denominator * Nat.pow 2 exponent.toNat)
    let carried : Binary :=
      if mantissa = Nat.pow 2 mantissaBits then ⟨Nat.pow 2 (mantissaBits - 1), exponent + 1⟩
      else ⟨mantissa, exponent⟩
    if carried.mantissa = 0 then .zero negative
    else if carried.exponent > greatestExponent then .infinite negative
    else .finite negative carried

/-- The number with a sign that is nearest to some digits times a power of ten. -/
def Double.ofScaled (negative : Bool) (digits : Nat) (exponent : Int) : Double :=
  Double.nearest negative (digits * Nat.pow 10 exponent.toNat) (Nat.pow 10 (-exponent).toNat)

end PrologImage.Decimal
