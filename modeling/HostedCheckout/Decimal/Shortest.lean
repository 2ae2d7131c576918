import HostedCheckout.Decimal.Binary64

/-!
# The shortest decimal of a double

Every double is the nearest double to an interval of reals around it.  Its
shortest decimal is the point of the coarsest decimal grid that lies in this
interval.  On one grid only the two neighbours of the double itself need to be
tried: if any point of the grid lies in the interval, one of them does.  Of
two neighbours inside, the nearer one is taken; an exact tie is the caller's
decision.
-/

namespace HostedCheckout

/-- A nonnegative decimal, `digits * 10 ^ exponent`. -/
structure Decimal where
  digits : Nat
  exponent : Int
  deriving DecidableEq, Repr

/-- Which of two equally near decimals is taken. -/
inductive TieRule where
  | toEven
  | upward
  deriving DecidableEq

namespace Magnitude

/-- The interval of reals that round to a magnitude, in quarter units.  Its
lower half is narrower at a power of two, where the grid of doubles below is
finer; its ends belong to it when the significand is even. -/
structure Interval where
  low : Nat
  middle : Nat
  high : Nat
  closed : Bool

/-- The interval of reals that round to the magnitude. -/
def interval (magnitude : Magnitude) : Interval :=
  let quarter := Nat.pow 2 magnitude.scale
  let middle := 4 * magnitude.units
  let atPower := magnitude.significand = Nat.pow 2 52 ∧ 0 < magnitude.scale
  let below := if atPower then quarter else 2 * quarter
  ⟨middle - below, middle, middle + 2 * quarter, magnitude.significand % 2 == 0⟩

/-- The point of one grid that represents the interval.  A point `a` of the grid
stands for `a * step / weight` quarter units. -/
def gridPoint? (tie : TieRule) (interval : Interval) (step weight : Nat) : Option Nat :=
  let under := interval.middle * weight / step
  let distanceUnder := interval.middle * weight - under * step
  let distanceOver := (under + 1) * step - interval.middle * weight
  let underInside :=
    interval.low * weight < under * step
      || (interval.closed && interval.low * weight == under * step)
  let overInside :=
    (under + 1) * step < interval.high * weight
      || (interval.closed && (under + 1) * step == interval.high * weight)
  let overNearer :=
    distanceOver < distanceUnder
      || (distanceOver == distanceUnder
          && match tie with
             | .toEven => under % 2 == 1
             | .upward => true)
  if overInside && (!underInside || overNearer) then some (under + 1)
  else if underInside then some under
  else none

/-- Search the grids of step `10 ^ exponent` downwards.  The finest grid holds
every magnitude exactly, so the search ends there at the latest. -/
def coarsestPoint (tie : TieRule) (interval : Interval) : Nat → Int → Decimal
  | 0, exponent => ⟨0, exponent⟩
  | remaining + 1, exponent =>
      let found :=
        if 0 ≤ exponent then
          gridPoint? tie interval (4 * Nat.pow 2 1074 * Nat.pow 10 exponent.toNat) 1
        else
          gridPoint? tie interval (4 * Nat.pow 2 1074) (Nat.pow 10 (-exponent).toNat)
      match found with
      | some digits => ⟨digits, exponent⟩
      | none => coarsestPoint tie interval remaining (exponent - 1)

/-- The shortest decimal that reads back as the magnitude. -/
def shortest (tie : TieRule) (magnitude : Magnitude) : Decimal :=
  if magnitude.significand = 0 then ⟨0, 0⟩
  else coarsestPoint tie magnitude.interval 1400 309

end Magnitude

end HostedCheckout
