import HostedCheckout.Decimal.Shortest
import HostedCheckout.Proofs.Decimal.Rounding
import Mathlib.Logic.Basic
import Mathlib.Tactic.Ring

/-!
# How large the shortest decimal is

The shortest decimal of a double that is not zero lies within the interval of reals that
round to it.  So it is above zero, and not above the upper end of the interval.
-/

namespace HostedCheckout

/-- A decimal is at most so many quarter units. -/
def Decimal.AtMost (decimal : Decimal) (quarters : Nat) : Prop :=
  decimal.digits * (4 * Magnitude.unitsOfOne) * Nat.pow 10 decimal.exponent.toNat ≤
    quarters * Nat.pow 10 (-decimal.exponent).toNat

/-- What is left of the digits of a decimal when some are dropped, at the power of ten where
they stood, is no larger. -/
theorem Decimal.AtMost.mul_le {decimal : Decimal} {quarters significand dropped : Nat}
    (within : decimal.AtMost quarters)
    (shortened : significand * 10 ^ dropped ≤ decimal.digits)
    (upward : 0 ≤ decimal.exponent + dropped) :
    significand * Nat.pow 10 (decimal.exponent + dropped).toNat * (4 * Magnitude.unitsOfOne) ≤
      quarters := by
  have powers : (decimal.exponent + dropped).toNat + (-decimal.exponent).toNat =
      dropped + decimal.exponent.toNat := by omega
  have positive : 0 < Nat.pow 10 (-decimal.exponent).toNat := Nat.pow_pos (by decide)
  rw [Decimal.AtMost] at within
  generalize Magnitude.unitsOfOne = one at within ⊢
  simp only [Nat.pow_eq] at within positive ⊢
  refine Nat.le_of_mul_le_mul_right ?_ positive
  calc significand * 10 ^ (decimal.exponent + dropped).toNat * (4 * one) *
        10 ^ (-decimal.exponent).toNat
      = significand * 10 ^ ((decimal.exponent + dropped).toNat + (-decimal.exponent).toNat) *
          (4 * one) := by ring
    _ = significand * 10 ^ dropped * (4 * one) * 10 ^ decimal.exponent.toNat := by
        rw [powers]
        ring
    _ ≤ decimal.digits * (4 * one) * 10 ^ decimal.exponent.toNat :=
        Nat.mul_le_mul_right _ (Nat.mul_le_mul_right _ shortened)
    _ ≤ quarters * 10 ^ (-decimal.exponent).toNat := within

namespace Magnitude

variable {tie : TieRule} {interval : Interval} {step weight point : Nat}

/-! ## Points of a grid -/

/-- A point of a grid that represents an interval is one of the neighbours of its middle,
and lies on the right side of the end beyond. -/
theorem gridPoint?_cases (found : gridPoint? tie interval step weight = some point) :
    (point = interval.middle * weight / step + 1 ∧ point * step ≤ interval.high * weight) ∨
      (point = interval.middle * weight / step ∧ interval.low * weight ≤ point * step) := by
  simp only [gridPoint?] at found
  rcases ite_eq_iff.mp found with ⟨beyond, same⟩ | ⟨-, rest⟩
  · obtain rfl := Option.some.inj same
    refine .inl ⟨rfl, ?_⟩
    rw [Bool.and_eq_true] at beyond
    simp only [Bool.or_eq_true, Bool.and_eq_true, decide_eq_true_eq, beq_iff_eq] at beyond
    rcases beyond.1 with below | ⟨-, atEnd⟩
    · exact Nat.le_of_lt below
    · exact Nat.le_of_eq atEnd
  · rcases ite_eq_iff.mp rest with ⟨under, same⟩ | ⟨-, nothing⟩
    · obtain rfl := Option.some.inj same
      refine .inr ⟨rfl, ?_⟩
      simp only [Bool.or_eq_true, Bool.and_eq_true, decide_eq_true_eq, beq_iff_eq] at under
      rcases under with above | ⟨-, atEnd⟩
      · exact Nat.le_of_lt above
      · exact Nat.le_of_eq atEnd
    · exact absurd nothing.symm (Option.some_ne_none _)

theorem gridPoint?_mul_le (found : gridPoint? tie interval step weight = some point)
    (ordered : interval.middle ≤ interval.high) : point * step ≤ interval.high * weight := by
  rcases gridPoint?_cases found with ⟨-, within⟩ | ⟨rfl, -⟩
  · exact within
  · exact Nat.le_trans (Nat.div_mul_le_self _ _) (Nat.mul_le_mul_right _ ordered)

theorem gridPoint?_pos (found : gridPoint? tie interval step weight = some point)
    (positive : 0 < interval.low * weight) : 0 < point := by
  rcases gridPoint?_cases found with ⟨rfl, -⟩ | ⟨-, within⟩
  · exact Nat.succ_pos _
  · exact Nat.pos_of_mul_pos_right (Nat.lt_of_lt_of_le positive within)

/-! ## The search -/

/-- What the search comes to: a decimal within the interval, or nothing on the finest grid. -/
theorem coarsestPoint_cases (tie : TieRule) (ordered : interval.middle ≤ interval.high)
    (positive : 0 < interval.low) (remaining : Nat) (exponent : Int) :
    coarsestPoint tie interval remaining exponent = ⟨0, exponent - remaining⟩ ∨
      0 < (coarsestPoint tie interval remaining exponent).digits ∧
        (coarsestPoint tie interval remaining exponent).AtMost interval.high ∧
        exponent - remaining < (coarsestPoint tie interval remaining exponent).exponent ∧
        (coarsestPoint tie interval remaining exponent).exponent ≤ exponent := by
  induction remaining generalizing exponent with
  | zero => exact .inl (by simp [coarsestPoint])
  | succ remaining ih =>
      simp only [coarsestPoint]
      split
      · rename_i point found
        refine .inr ⟨?_, ?_, by simp only; omega, Int.le_refl _⟩
        · split at found
          · exact gridPoint?_pos found (by rwa [Nat.mul_one])
          · exact gridPoint?_pos found (Nat.mul_pos positive (Nat.pow_pos (by decide)))
        · have one : Nat.pow 10 0 = 1 := rfl
          delta Decimal.AtMost unitsOfOne
          dsimp only
          split at found
          · rename_i upward
            have within := gridPoint?_mul_le found ordered
            have flat : (-exponent).toNat = 0 := by omega
            rewrite [flat, Nat.mul_assoc, one]
            exact within
          · rename_i downward
            have within := gridPoint?_mul_le found ordered
            have flat : exponent.toNat = 0 := by omega
            rewrite [flat, one, Nat.mul_one]
            exact within
      · rcases ih (exponent - 1) with nothing | ⟨digits, within, above, below⟩
        · refine .inl (nothing.trans ?_)
          congr 1
          omega
        · exact .inr ⟨digits, within, by omega, by omega⟩

/-! ## Intervals of magnitudes -/

variable (magnitude : Magnitude)

theorem middle_le_high : magnitude.interval.middle ≤ magnitude.interval.high :=
  Nat.le_add_right _ _

theorem high_interval :
    magnitude.interval.high = (4 * magnitude.significand + 2) * Nat.pow 2 magnitude.scale := by
  simp only [interval, units]
  ring

theorem low_interval_pos {magnitude : Magnitude} (nonzero : magnitude.significand ≠ 0) :
    0 < magnitude.interval.low := by
  have positive : 1 ≤ magnitude.significand := Nat.pos_of_ne_zero nonzero
  have quarter : 0 < Nat.pow 2 magnitude.scale := Nat.two_pow_pos _
  have units : Nat.pow 2 magnitude.scale ≤ magnitude.units := by
    rw [units]
    exact Nat.le_mul_of_pos_left _ positive
  simp only [interval]
  split <;> omega

/-- One of the two largest magnitudes. -/
def IsExtreme : Prop :=
  magnitude.scale = 2045 ∧ 2 ^ 53 - 2 ≤ magnitude.significand

theorem pow_scale_cases :
    magnitude.scale = 2045 ∧ Nat.pow 2 magnitude.scale = 2 * halfStep ∨
      Nat.pow 2 magnitude.scale ≤ halfStep := by
  have step : Nat.pow 2 2044 = halfStep := by delta halfStep; rfl
  have double {power half : Nat} (stepped : Nat.pow 2 power = half)
      (scale : magnitude.scale = power + 1) : Nat.pow 2 magnitude.scale = 2 * half := by
    rw [scale, ← stepped]
    exact Nat.pow_succ'
  rcases Nat.lt_or_ge 2044 magnitude.scale with last | lower
  · have scale : magnitude.scale = 2044 + 1 := Nat.le_antisymm magnitude.scale_le last
    exact .inl ⟨scale, double step scale⟩
  · have grows {power half : Nat} (stepped : Nat.pow 2 power = half)
        (within : magnitude.scale ≤ power) : Nat.pow 2 magnitude.scale ≤ half := by
      rw [← stepped]
      exact Nat.pow_le_pow_right (by decide) within
    exact .inr (grows step lower)

theorem high_interval_le : magnitude.interval.high ≤ 2 ^ 55 * (2 * halfStep) := by
  have significand : magnitude.significand < 2 ^ 53 := magnitude.significand_lt
  have factor : 4 * magnitude.significand + 2 ≤ 2 ^ 55 := by omega
  have power : Nat.pow 2 magnitude.scale ≤ 2 * halfStep := by
    rcases magnitude.pow_scale_cases with ⟨-, last⟩ | lower <;> omega
  rw [high_interval]
  exact Nat.mul_le_mul factor power

/-- Other magnitudes stay clear of the point from which numbers are out of range. -/
theorem high_interval_le_of_not_isExtreme {magnitude : Magnitude}
    (ordinary : ¬ magnitude.IsExtreme) :
    magnitude.interval.high ≤ (2 ^ 55 - 10) * (2 * halfStep) := by
  have significand : magnitude.significand < 2 ^ 53 := magnitude.significand_lt
  rw [high_interval]
  rcases magnitude.pow_scale_cases with ⟨scale, last⟩ | lower
  · have smaller : magnitude.significand < 2 ^ 53 - 2 :=
      Nat.lt_of_not_le fun large => ordinary ⟨scale, large⟩
    rw [last]
    exact Nat.mul_le_mul_right _ (by omega)
  · calc (4 * magnitude.significand + 2) * Nat.pow 2 magnitude.scale
        ≤ 2 ^ 55 * halfStep := Nat.mul_le_mul (by omega) lower
      _ ≤ (2 ^ 55 - 10) * 2 * halfStep := Nat.mul_le_mul_right _ (by decide)
      _ = (2 ^ 55 - 10) * (2 * halfStep) := Nat.mul_assoc _ _ _

/-- The largest two magnitudes are written with 17 digits. -/
theorem shortest_of_isExtreme {magnitude : Magnitude} (extreme : magnitude.IsExtreme) :
    magnitude.shortest .toEven = ⟨17976931348623157, 292⟩ ∨
      magnitude.shortest .toEven = ⟨17976931348623155, 292⟩ := by
  obtain ⟨scale, large⟩ := extreme
  have below : magnitude.significand < 2 ^ 53 := magnitude.significand_lt
  have largest : magnitude.significand = 2 ^ 53 - 1 ∨ magnitude.significand = 2 ^ 53 - 2 := by
    omega
  rcases magnitude with ⟨significand, _, _, _, _⟩
  dsimp only at scale largest
  subst scale
  rcases largest with rfl | rfl
  · have written : shortest .toEven ⟨2 ^ 53 - 1, 2045, by decide, .inr (by decide), by decide⟩ =
        ⟨17976931348623157, 292⟩ := by decide +kernel
    exact .inl written
  · have written : shortest .toEven ⟨2 ^ 53 - 2, 2045, by decide, .inr (by decide), by decide⟩ =
        ⟨17976931348623155, 292⟩ := by decide +kernel
    exact .inr written

/-- What the shortest decimal of a magnitude can be. -/
theorem shortest_cases (tie : TieRule) :
    magnitude.shortest tie = ⟨0, 0⟩ ∨ magnitude.shortest tie = ⟨0, -1091⟩ ∨
      0 < (magnitude.shortest tie).digits ∧
        (magnitude.shortest tie).AtMost magnitude.interval.high ∧
        -1091 < (magnitude.shortest tie).exponent := by
  rw [shortest]
  split
  · exact .inl rfl
  · rename_i nonzero
    rcases coarsestPoint_cases tie magnitude.middle_le_high (low_interval_pos nonzero) 1400 309 with
      nothing | ⟨digits, within, above, -⟩
    · exact .inr (.inl nothing)
    · exact .inr (.inr ⟨digits, within, by simpa using above⟩)

/-- The leading digit of a decimal within an interval stands for less than `10 ^ 309`. -/
theorem lead_le {decimal : Decimal} (within : decimal.AtMost magnitude.interval.high)
    (positive : 0 < decimal.digits) :
    decimal.exponent + (Nat.toDigits 10 decimal.digits).length - 1 ≤ 308 := by
  obtain ⟨places, length⟩ : ∃ places, (Nat.toDigits 10 decimal.digits).length = places + 1 :=
    Nat.exists_eq_succ_of_ne_zero (Nat.ne_of_gt Nat.length_toDigits_pos)
  have leading : 1 * 10 ^ places ≤ decimal.digits := by
    rw [Nat.one_mul]
    rcases Nat.eq_zero_or_pos places with rfl | some
    · exact positive
    · refine Nat.le_of_not_lt fun shorter => ?_
      have short := (Nat.length_toDigits_le_iff (by decide) some).mpr shorter
      omega
  by_contra beyond
  have bounded := within.mul_le leading (by omega)
  rw [Nat.one_mul] at bounded
  have small := power_le_of_mul_le (Nat.le_trans bounded magnitude.high_interval_le)
  omega

end Magnitude

end HostedCheckout
