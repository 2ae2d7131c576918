import HostedCheckout.Proofs.Decimal.Ties
import Mathlib.Algebra.Field.Rat
import Mathlib.Algebra.Order.Field.Basic
import Mathlib.Algebra.Order.Ring.Rat
import Mathlib.Tactic.FieldSimp
import Mathlib.Tactic.Linarith

/-!
# Exact values

A decimal and a double stand for rational numbers.  Both rules for ties lead to the same
number, unless the double is exactly halfway between two neighbouring decimals that are as
short as any that identify it.
-/

namespace HostedCheckout

attribute [ext] Decimal

/-- The number that a decimal stands for. -/
def Decimal.value (decimal : Decimal) : ℚ :=
  decimal.digits * 10 ^ decimal.exponent

/-- The decimal above, with as many places. -/
def Decimal.next (decimal : Decimal) : Decimal :=
  ⟨decimal.digits + 1, decimal.exponent⟩

namespace Decimal

theorem value_pos (decimal : Decimal) (positive : 0 < decimal.digits) : 0 < decimal.value :=
  mul_pos (Nat.cast_pos.mpr positive) (zpow_pos (by norm_num) _)

theorem value_lt_next (decimal : Decimal) : decimal.value < decimal.next.value := by
  have power : (0 : ℚ) < 10 ^ decimal.exponent := zpow_pos (by norm_num) _
  rw [value, value, next]
  push_cast
  linarith

end Decimal

namespace Magnitude

open Decimal

/-- The number that a magnitude stands for. -/
def value (magnitude : Magnitude) : ℚ :=
  magnitude.units / unitsOfOne

/-- A double is halfway between two neighbouring decimals that are as short as any that
identify it, the lower of which is even. -/
structure TiedAt (magnitude : Magnitude) (lower : Decimal) : Prop where
  identifies : lower.Identifies magnitude
  next : lower.next.Identifies magnitude
  halfway : lower.value + lower.next.value = 2 * magnitude.value
  even : lower.digits % 2 = 0
  coarsest : ∀ decimal : Decimal, decimal.Identifies magnitude → decimal.exponent ≤ lower.exponent

/-- The quarter units of a power of ten. -/
theorem gridStep_eq (exponent : Int) :
    (gridStep exponent : ℚ) = 10 ^ exponent * gridWeight exponent * (4 * unitsOfOne) := by
  have power : (10 : ℚ) ^ exponent.toNat = 10 ^ exponent * 10 ^ (-exponent).toNat := by
    rw [← zpow_natCast, ← zpow_natCast, ← zpow_add₀ (by norm_num)]
    congr 1
    omega
  rw [gridStep, gridWeight]
  push_cast
  rw [power]
  ring

/-- A point of a grid and the one above it are as far from a magnitude as the decimals are that
they stand for. -/
theorem halfway_iff (magnitude : Magnitude) (decimal : Decimal) :
    (2 * decimal.digits + 1) * gridStep decimal.exponent =
        2 * (magnitude.interval.middle * gridWeight decimal.exponent) ↔
      decimal.value + decimal.next.value = 2 * magnitude.value := by
  have one : (unitsOfOne : ℚ) ≠ 0 := Nat.cast_ne_zero.mpr (Nat.ne_of_gt unitsOfOne_pos)
  have weight : (gridWeight decimal.exponent : ℚ) ≠ 0 :=
    Nat.cast_ne_zero.mpr (Nat.ne_of_gt (gridWeight_pos _))
  have middle : magnitude.interval.middle = 4 * magnitude.units := rfl
  rw [← @Nat.cast_inj ℚ, middle, value, Decimal.value, Decimal.value, Decimal.next]
  push_cast
  rw [gridStep_eq]
  generalize (10 : ℚ) ^ decimal.exponent = power
  field_simp
  constructor
  · intro same
    linarith
  · intro same
    linarith

variable {magnitude : Magnitude} {lower : Decimal}

theorem within_next_iff {interval : Interval} :
    lower.next.Within interval ↔
      interval.Holds ((lower.digits + 1) * gridStep lower.exponent)
        (gridWeight lower.exponent) := by
  rw [Within, Decimal.next]

/-- The decimals that a double is halfway between are the points of a grid between which the
rules decide. -/
theorem TiedAt.halfway_grid (tied : magnitude.TiedAt lower) (nonzero : magnitude.significand ≠ 0) :
    magnitude.interval.Halfway (gridStep lower.exponent) (gridWeight lower.exponent)
      lower.digits where
  lower := (identifies_iff_within nonzero).mp tied.identifies
  upper := within_next_iff.mp ((identifies_iff_within nonzero).mp tied.next)
  middle := (magnitude.halfway_iff lower).mpr tied.halfway
  even := tied.even

theorem TiedAt.of_grid (nonzero : magnitude.significand ≠ 0)
    (halfway : magnitude.interval.Halfway (gridStep lower.exponent) (gridWeight lower.exponent)
      lower.digits)
    (coarsest : ∀ decimal : Decimal, decimal.Identifies magnitude →
      decimal.exponent ≤ lower.exponent) : magnitude.TiedAt lower where
  identifies := (identifies_iff_within nonzero).mpr halfway.lower
  next := (identifies_iff_within nonzero).mpr (within_next_iff.mpr halfway.upper)
  halfway := (magnitude.halfway_iff lower).mp halfway.middle
  even := halfway.even
  coarsest := coarsest

theorem TiedAt.unique {other : Decimal} (tied : magnitude.TiedAt lower)
    (also : magnitude.TiedAt other) : lower = other := by
  have exponent : lower.exponent = other.exponent :=
    Int.le_antisymm (also.coarsest lower tied.identifies) (tied.coarsest other also.identifies)
  have power : (10 : ℚ) ^ other.exponent ≠ 0 := zpow_ne_zero _ (by norm_num)
  have same := tied.halfway.trans also.halfway.symm
  rw [Decimal.value, Decimal.value, Decimal.value, Decimal.value, Decimal.next, Decimal.next,
    exponent, ← add_mul, ← add_mul] at same
  have digits := mul_right_cancel₀ power same
  push_cast at digits
  have equal : (lower.digits : ℚ) = other.digits := by linarith
  exact Decimal.ext (Nat.cast_injective equal) exponent

theorem shortest_value_pos (nonzero : magnitude.significand ≠ 0) (tie : TieRule) :
    0 < (magnitude.shortest tie).value := by
  have within := (identifies_iff_within nonzero).mp (shortest_identifies nonzero tie)
  exact value_pos _ (within.digits_pos (low_interval_pos nonzero))

/-- Both rules for ties lead to the same decimal, or to the two that the double is halfway
between. -/
theorem shortest_rules (nonzero : magnitude.significand ≠ 0) :
    (magnitude.shortest .toEven = magnitude.shortest .upward ∧
        ∀ lower, ¬ magnitude.TiedAt lower) ∨
      (magnitude.TiedAt (magnitude.shortest .toEven) ∧
        magnitude.shortest .upward = (magnitude.shortest .toEven).next) := by
  have evenly := (shortest_found nonzero .toEven).1
  have upward := (shortest_found nonzero .upward).1
  have sameExponent : (magnitude.shortest .upward).exponent =
      (magnitude.shortest .toEven).exponent :=
    Int.le_antisymm (exponent_le_shortest nonzero .toEven (shortest_identifies nonzero .upward))
      (exponent_le_shortest nonzero .upward (shortest_identifies nonzero .toEven))
  have coarsest : ∀ decimal : Decimal, decimal.Identifies magnitude →
      decimal.exponent ≤ (magnitude.shortest .toEven).exponent := fun decimal identifies =>
    exponent_le_shortest nonzero .toEven identifies
  rw [sameExponent] at upward
  rcases gridPoint?_rules (proper_interval nonzero) (gridStep_pos _) (gridWeight_pos _)
    evenly upward with ⟨same, apart⟩ | ⟨halfway, next⟩
  · refine .inl ⟨Decimal.ext same sameExponent.symm, fun lower tied => ?_⟩
    have exponent : lower.exponent = (magnitude.shortest .toEven).exponent :=
      Int.le_antisymm (coarsest lower tied.identifies)
        (tied.coarsest _ (shortest_identifies nonzero .toEven))
    have halfway := tied.halfway_grid nonzero
    rw [exponent] at halfway
    exact apart lower.digits halfway
  · exact .inr ⟨.of_grid nonzero halfway coarsest, Decimal.ext next sameExponent⟩

end Magnitude

end HostedCheckout
