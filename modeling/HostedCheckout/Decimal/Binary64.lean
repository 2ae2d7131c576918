/-!
# Double-precision numbers

A finite double is a whole number of units of `2 ^ -1074`: a significand of at
most 53 bits, shifted left by a scale.  The representation is canonical, so
two magnitudes are equal exactly when they denote the same number.

All arithmetic is exact on rationals and rounds once, to the nearest magnitude
and on a tie to the one with an even significand.
-/

namespace HostedCheckout

/-- A finite nonnegative double, `significand * 2 ^ scale` units of `2 ^ -1074`. -/
structure Magnitude where
  significand : Nat
  scale : Nat
  significand_lt : significand < Nat.pow 2 53
  normal : scale = 0 ∨ Nat.pow 2 52 ≤ significand
  scale_le : scale ≤ 2045
  deriving DecidableEq

/-- A double-precision number.  Not-a-number carries nothing else: no output
tells two of them apart. -/
inductive Binary64 where
  | nan
  | infinite (negative : Bool)
  | finite (negative : Bool) (magnitude : Magnitude)
  deriving DecidableEq

namespace Magnitude

/-- The number of units of `2 ^ -1074`. -/
def units (magnitude : Magnitude) : Nat :=
  magnitude.significand * Nat.pow 2 magnitude.scale

/-- Zero. -/
def zero : Magnitude := ⟨0, 0, by decide, .inl rfl, by decide⟩

/-- A quotient rounded to the nearest natural number, a tie to the even one. -/
def nearestQuotient (numerator denominator : Nat) : Nat :=
  let quotient := numerator / denominator
  let twice := 2 * (numerator % denominator)
  if denominator < twice ∨ (twice = denominator ∧ quotient % 2 = 1) then quotient + 1
  else quotient

/-- The magnitude nearest to a quotient; `none` when it rounds past the
largest one.  The scale keeps 53 bits of the quotient, or all its whole units
when it is smaller; rounding up to `2 ^ 53` moves on to the next scale. -/
def ofQuotient? (numerator denominator : Nat) : Option Magnitude :=
  let units := numerator * Nat.pow 2 1074
  let scale := (units / denominator).log2 - 52
  let significand := nearestQuotient units (denominator * Nat.pow 2 scale)
  if fits : significand < Nat.pow 2 53 ∧ (scale = 0 ∨ Nat.pow 2 52 ≤ significand) ∧
      scale ≤ 2045 then
    some ⟨significand, scale, fits.1, fits.2.1, fits.2.2⟩
  else if room : scale + 1 ≤ 2045 then
    some ⟨Nat.pow 2 52, scale + 1, by decide, .inr (Nat.le_refl _), room⟩
  else none

end Magnitude

namespace Binary64

/-- Zero, with its sign. -/
def zero (negative : Bool) : Binary64 := .finite negative .zero

/-- The double nearest to a quotient, infinite when that is too large. -/
def ofQuotient (negative : Bool) (numerator denominator : Nat) : Binary64 :=
  match Magnitude.ofQuotient? numerator denominator with
  | some magnitude => .finite negative magnitude
  | none => .infinite negative

/-- The double nearest to a natural number. -/
def ofNat (number : Nat) : Binary64 :=
  ofQuotient false number 1

/-- The double nearest to an integer. -/
def ofInt (number : Int) : Binary64 :=
  ofQuotient (decide (number < 0)) number.natAbs 1

/-- The double nearest to `digits * 10 ^ exponent`.  Far outside the range of
doubles the answer is known without the power. -/
def ofDecimal (negative : Bool) (digits : Nat) (exponent : Int) : Binary64 :=
  let order := exponent + (Nat.toDigits 10 digits).length
  if digits = 0 ∨ order < -330 then zero negative
  else if 330 < order then .infinite negative
  else if 0 ≤ exponent then ofQuotient negative (digits * Nat.pow 10 exponent.toNat) 1
  else ofQuotient negative digits (Nat.pow 10 (-exponent).toNat)

/-- Neither infinite nor not-a-number. -/
def isFinite : Binary64 → Bool
  | .finite _ _ => true
  | _ => false

/-- Greater than zero. -/
def isPositive : Binary64 → Bool
  | .nan => false
  | .infinite negative => !negative
  | .finite negative magnitude => !negative && magnitude.significand != 0

/-- The number of the other sign. -/
def negate : Binary64 → Binary64
  | .nan => .nan
  | .infinite negative => .infinite !negative
  | .finite negative magnitude => .finite (!negative) magnitude

/-- A finite double times a power of ten that is itself a double. -/
def scaleUp (number : Binary64) (power : Nat) : Binary64 :=
  match number, ofDecimal false 1 power with
  | .finite negative magnitude, .finite _ factor =>
      ofQuotient negative (magnitude.units * factor.units) (Nat.pow 2 1074 * Nat.pow 2 1074)
  | other, _ => other

/-- A finite double divided by a power of ten that is itself a double. -/
def scaleDown (number : Binary64) (power : Nat) : Binary64 :=
  match number, ofDecimal false 1 power with
  | .finite negative magnitude, .finite _ factor =>
      ofQuotient negative magnitude.units factor.units
  | other, _ => other

end Binary64

end HostedCheckout
