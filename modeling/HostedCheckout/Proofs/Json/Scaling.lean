import HostedCheckout.Json.Numeral
import HostedCheckout.Proofs.Decimal.Shortest

/-!
# Scaling what was written

The shortest decimal of a double is not out of range when it is read, although it is rounded
twice on the way: once as a whole number, and again when it is scaled by a power of ten.
-/

namespace HostedCheckout.Json

open Magnitude

theorem exists_scaled?_of_neg (steps : Nat) {significand : Binary64} {exponent : Int}
    (down : exponent < 0) : ∃ number, scaled? significand exponent steps = some number := by
  induction steps generalizing significand exponent with
  | zero => exact ⟨_, rfl⟩
  | succ steps ih =>
      rw [scaled?, if_neg (by omega)]
      split
      · exact ⟨_, rfl⟩
      · exact ih (by omega)

/-- A number can be scaled up unless it comes close to the largest double. -/
theorem exists_scaled? {significand : Nat} {exponent : Int}
    (bounded : 0 ≤ exponent →
      significand * Nat.pow 10 exponent.toNat * (4 * unitsOfOne) ≤
        (2 ^ 55 - 10) * (2 * halfStep)) :
    ∃ number, scaled? (.ofNat significand) exponent 4 = some number := by
  rcases Int.lt_or_le exponent 0 with down | up
  · exact exists_scaled?_of_neg 4 down
  · rw [scaled?, if_pos up]
    split
    · rename_i small
      have finite := Binary64.isFinite_scaleUp (by omega) (bounded up)
      exact ⟨_, by rw [if_pos finite]⟩
    · rename_i large
      have zero : significand = 0 := by
        by_contra nonzero
        have least := Nat.mul_le_mul_right (4 * unitsOfOne)
          (Nat.le_mul_of_pos_left (Nat.pow 10 exponent.toNat) (Nat.pos_of_ne_zero nonzero))
        have within : (2 ^ 55 - 10) * (2 * halfStep) ≤ 2 ^ 55 * (2 * halfStep) :=
          Nat.mul_le_mul_right _ (by decide)
        have small := power_le_of_mul_le (Nat.le_trans least (Nat.le_trans (bounded up) within))
        omega
      have unpositive : (Binary64.ofNat 0).isPositive = false := by decide +kernel
      rw [zero, unpositive]
      exact ⟨_, rfl⟩

/-- Whatever digits of a decimal are dropped because they do not fit 64 bits, the others can be
scaled to its size. -/
def Scales (decimal : Decimal) : Prop :=
  ∀ significand dropped : Nat, significand * 10 ^ dropped ≤ decimal.digits →
    (dropped = 0 → significand = decimal.digits) → (dropped ≠ 0 → wordLimit < decimal.digits) →
    ∃ number, scaled? (.ofNat significand) (decimal.exponent + dropped) 4 = some number

theorem scales_of_le_wordLimit {decimal : Decimal} (short : decimal.digits ≤ wordLimit)
    (scaled : ∃ number, scaled? (.ofNat decimal.digits) decimal.exponent 4 = some number) :
    Scales decimal := by
  intro significand dropped shortened kept lost
  have none : dropped = 0 := by
    by_contra some
    exact absurd (lost some) (Nat.not_lt.mpr short)
  rw [kept none, none, Int.natCast_zero, Int.add_zero]
  exact scaled

theorem scales_shortest (magnitude : Magnitude) : Scales (magnitude.shortest .toEven) := by
  by_cases extreme : magnitude.IsExtreme
  · rcases shortest_of_isExtreme extreme with written | written <;> rw [written]
    · exact scales_of_le_wordLimit (by decide)
        (Option.isSome_iff_exists.mp (by decide +kernel))
    · exact scales_of_le_wordLimit (by decide)
        (Option.isSome_iff_exists.mp (by decide +kernel))
  · rcases magnitude.shortest_cases .toEven with zero | nothing | ⟨-, within, -⟩
    · rw [zero]
      exact scales_of_le_wordLimit (by decide) (exists_scaled? (by simp))
    · rw [nothing]
      exact scales_of_le_wordLimit (by decide) (exists_scaled?_of_neg 4 (by decide))
    · intro significand dropped shortened _ _
      exact exists_scaled? fun upward =>
        Nat.le_trans (within.mul_le shortened upward)
          (high_interval_le_of_not_isExtreme extreme)

end HostedCheckout.Json
