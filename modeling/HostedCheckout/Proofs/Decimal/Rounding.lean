import HostedCheckout.Decimal.Binary64
import Mathlib.Tactic.Ring

/-!
# How far rounding goes

A quotient that lies below the largest double, or above it by less than half a unit of its
last place, is rounded to a finite one.  Where doubles have all their 53 bits, rounding up
makes a number longer by one part in `2 ^ 53` at most.
-/

namespace HostedCheckout

namespace Magnitude

/-! ## The nearest natural number -/

/-- Rounding adds no more than half of the denominator. -/
theorem two_mul_nearestQuotient_mul_le (numerator denominator : Nat) :
    2 * (nearestQuotient numerator denominator * denominator) ≤ 2 * numerator + denominator := by
  have whole : numerator / denominator * denominator + numerator % denominator = numerator :=
    Nat.div_add_mod' numerator denominator
  simp only [nearestQuotient]
  split
  · rw [Nat.add_mul, Nat.one_mul]
    omega
  · omega

theorem div_le_nearestQuotient (numerator denominator : Nat) :
    numerator / denominator ≤ nearestQuotient numerator denominator := by
  simp only [nearestQuotient]
  split <;> omega

theorem nearestQuotient_le (numerator denominator : Nat) :
    nearestQuotient numerator denominator ≤ numerator / denominator + 1 := by
  simp only [nearestQuotient]
  split <;> omega

/-! ## The scale of a quotient -/

/-- The scale at which a quotient is rounded. -/
def scaleOf (units denominator : Nat) : Nat :=
  (units / denominator).log2 - 52

variable {units denominator : Nat}

theorem scaleOf_le (bounded : units / denominator < 2 ^ 2098) :
    scaleOf units denominator ≤ 2045 := by
  by_cases zero : units / denominator = 0
  · rw [scaleOf, zero, Nat.log2_zero]
    omega
  · have log := (Nat.log2_lt zero).mpr bounded
    rw [scaleOf]
    omega

/-- A quotient of 53 bits or more keeps them at its scale. -/
theorem le_div_scaleOf (normal : 2 ^ 52 ≤ units / denominator) :
    2 ^ 52 ≤ units / denominator / 2 ^ scaleOf units denominator := by
  have nonzero : units / denominator ≠ 0 := by
    intro zero
    rw [zero] at normal
    exact absurd normal (by decide)
  have log : 52 ≤ (units / denominator).log2 := (Nat.le_log2 nonzero).mpr normal
  rw [Nat.le_div_iff_mul_le (Nat.two_pow_pos _), ← Nat.pow_add, scaleOf,
    Nat.add_sub_cancel' log]
  exact Nat.log2_self_le nonzero

theorem div_scaleOf_lt (units denominator : Nat) :
    units / denominator / 2 ^ scaleOf units denominator < 2 ^ 53 := by
  rw [Nat.div_lt_iff_lt_mul (Nat.two_pow_pos _), ← Nat.pow_add]
  exact Nat.lt_of_lt_of_le Nat.lt_log2_self
    (Nat.pow_le_pow_right (by decide) (by rw [scaleOf]; omega))

/-- The significand to which a quotient is rounded at its scale. -/
def significandOf (units denominator : Nat) : Nat :=
  nearestQuotient units (denominator * 2 ^ scaleOf units denominator)

theorem significandOf_le : significandOf units denominator ≤ 2 ^ 53 := by
  have nearest :=
    nearestQuotient_le units (denominator * 2 ^ scaleOf units denominator)
  rw [← Nat.div_div_eq_div_mul] at nearest
  have whole := div_scaleOf_lt units denominator
  rw [significandOf]
  omega

theorem le_significandOf (normal : 2 ^ 52 ≤ units / denominator) :
    2 ^ 52 ≤ significandOf units denominator := by
  have nearest :=
    div_le_nearestQuotient units (denominator * 2 ^ scaleOf units denominator)
  rw [← Nat.div_div_eq_div_mul] at nearest
  exact Nat.le_trans (le_div_scaleOf normal) nearest

theorem normal_significandOf (units denominator : Nat) :
    scaleOf units denominator = 0 ∨ 2 ^ 52 ≤ significandOf units denominator := by
  by_cases normal : 2 ^ 52 ≤ units / denominator
  · exact .inr (le_significandOf normal)
  · refine .inl ?_
    by_cases zero : units / denominator = 0
    · rw [scaleOf, zero, Nat.log2_zero]
    · have log := (Nat.log2_lt zero).mpr (Nat.lt_of_not_le normal)
      rw [scaleOf]
      omega

/-! ## Rounded quotients -/

/-- The magnitude nearest to a quotient of units. -/
def ofUnits? (units denominator : Nat) : Option Magnitude :=
  let scale := scaleOf units denominator
  let significand := significandOf units denominator
  if fits : significand < 2 ^ 53 ∧ (scale = 0 ∨ 2 ^ 52 ≤ significand) ∧ scale ≤ 2045 then
    some ⟨significand, scale, fits.1, fits.2.1, fits.2.2⟩
  else if room : scale + 1 ≤ 2045 then
    some ⟨2 ^ 52, scale + 1, by decide, .inr (Nat.le_refl _), room⟩
  else none

/-- How many units make one. -/
def unitsOfOne : Nat := Nat.pow 2 1074

theorem ofQuotient?_eq :
    ofQuotient? = fun numerator denominator => ofUnits? (numerator * unitsOfOne) denominator := by
  -- Both sides are compared as functions; at a value, the power of two would be computed.
  delta ofQuotient? ofUnits? unitsOfOne
  rfl

/-- Half a unit of the last place of the largest doubles, in units. -/
def halfStep : Nat := Nat.pow 2 2044

/-- Half a unit of the last place above the largest double, in units. -/
def roundingBound : Nat := (2 ^ 54 - 1) * halfStep

theorem unitsOfOne_pos : 0 < unitsOfOne := by
  decide +kernel

theorem halfStep_pos : 0 < halfStep := by
  decide +kernel

theorem roundingBound_le : roundingBound ≤ 2 ^ 53 * Nat.pow 2 2045 := by
  decide +kernel

/-- Powers of ten are small up to four times the bound. -/
theorem power_le_of_mul_le {power : Nat}
    (bounded : Nat.pow 10 power * (4 * unitsOfOne) ≤ 2 ^ 55 * (2 * halfStep)) : power ≤ 308 := by
  by_contra beyond
  -- The limit stays a variable until the two sides can be decided.
  obtain ⟨limit, limitEq⟩ : ∃ limit, limit = 309 := ⟨_, rfl⟩
  have large : Nat.pow 10 limit ≤ Nat.pow 10 power :=
    Nat.pow_le_pow_right (by decide) (by omega)
  have outside : ¬ Nat.pow 10 limit * (4 * unitsOfOne) ≤ 2 ^ 55 * (2 * halfStep) := by
    subst limitEq
    decide +kernel
  exact outside (Nat.le_trans (Nat.mul_le_mul_right _ large) bounded)

/-- A quotient that is less than half a unit short of the next power of two is not rounded
up to it. -/
theorem significandOf_lt {power half : Nat} (step : Nat.pow 2 power = half)
    (scale : scaleOf units denominator = power + 1)
    (bounded : units < denominator * ((2 ^ 54 - 1) * half)) :
    significandOf units denominator < 2 ^ 53 := by
  have error := two_mul_nearestQuotient_mul_le units (denominator * 2 ^ (power + 1))
  rw [Nat.pow_eq] at step
  rw [significandOf, scale]
  rw [pow_succ', step] at error ⊢
  by_contra beyond
  have carried := Nat.mul_le_mul_right (denominator * (2 * half)) (Nat.le_of_not_lt beyond)
  generalize nearestQuotient units _ = significand at error carried
  have twice : denominator * (2 * half) = 2 * (denominator * half) := by ring
  have apart : denominator * ((2 ^ 54 - 1) * half) = (2 ^ 54 - 1) * (denominator * half) := by ring
  rw [twice] at error carried
  rw [apart] at bounded
  omega

variable {magnitude : Magnitude}

/-- A quotient below the bound is rounded to a finite double. -/
theorem exists_ofUnits? (bounded : units < denominator * roundingBound) :
    ∃ magnitude, ofUnits? units denominator = some magnitude := by
  have below : units < denominator * (2 ^ 53 * Nat.pow 2 2045) :=
    Nat.lt_of_lt_of_le bounded (Nat.mul_le_mul_left _ roundingBound_le)
  have small : scaleOf units denominator ≤ 2045 :=
    scaleOf_le (Nat.lt_of_lt_of_le (Nat.div_lt_of_lt_mul below) (by decide +kernel))
  have step : Nat.pow 2 2044 = halfStep := by delta halfStep; rfl
  rw [roundingBound] at bounded
  simp only [ofUnits?]
  split
  · exact ⟨_, rfl⟩
  · rename_i unfit
    split
    · exact ⟨_, rfl⟩
    · rename_i full
      have last : scaleOf units denominator = 2044 + 1 := by omega
      exact absurd ⟨significandOf_lt step last bounded, normal_significandOf _ _, small⟩ unfit

/-- A quotient is rounded at its scale, or to the power of two above it. -/
theorem ofUnits?_cases (rounded : ofUnits? units denominator = some magnitude) :
    (magnitude.significand = significandOf units denominator ∧
        magnitude.scale = scaleOf units denominator) ∨
      (magnitude.significand = 2 ^ 52 ∧ magnitude.scale = scaleOf units denominator + 1 ∧
        significandOf units denominator = 2 ^ 53) := by
  simp only [ofUnits?] at rounded
  split at rounded
  · cases rounded
    exact .inl ⟨rfl, rfl⟩
  · rename_i unfit
    split at rounded
    · rename_i room
      cases rounded
      refine .inr ⟨rfl, rfl, ?_⟩
      by_contra other
      exact unfit ⟨Nat.lt_of_le_of_ne significandOf_le other, normal_significandOf _ _,
        Nat.le_of_succ_le room⟩
    · cases rounded

theorem units_of_ofUnits? (rounded : ofUnits? units denominator = some magnitude) :
    magnitude.units = significandOf units denominator * 2 ^ scaleOf units denominator := by
  rcases ofUnits?_cases rounded with ⟨significand, scale⟩ | ⟨significand, scale, carried⟩
  · rw [Magnitude.units, significand, scale]
    rfl
  · rw [Magnitude.units, significand, scale, carried, Nat.pow_eq, ← Nat.pow_add, ← Nat.pow_add]
    congr 1
    omega

theorem units_of_ofUnits?_zero (rounded : ofUnits? 0 denominator = some magnitude) :
    magnitude.units = 0 := by
  rw [units_of_ofUnits? rounded, significandOf, nearestQuotient]
  simp

/-- Where doubles have all their bits, rounding makes a number longer by one part in
`2 ^ 53` at most. -/
theorem units_mul_le_of_ofUnits? (rounded : ofUnits? units denominator = some magnitude)
    (normal : denominator * 2 ^ 52 ≤ units) (positive : 0 < denominator) :
    magnitude.units * denominator * 2 ^ 53 ≤ units * (2 ^ 53 + 1) := by
  have kept : 2 ^ 52 ≤ units / denominator / 2 ^ scaleOf units denominator :=
    le_div_scaleOf ((Nat.le_div_iff_mul_le positive).mpr (by rwa [Nat.mul_comm]))
  rw [Nat.div_div_eq_div_mul, Nat.le_div_iff_mul_le
    (Nat.mul_pos positive (Nat.two_pow_pos _))] at kept
  have error := two_mul_nearestQuotient_mul_le units (denominator * 2 ^ scaleOf units denominator)
  rw [units_of_ofUnits? rounded, significandOf]
  generalize nearestQuotient units _ = significand at error ⊢
  calc significand * 2 ^ scaleOf units denominator * denominator * 2 ^ 53
      = 2 * (significand * (denominator * 2 ^ scaleOf units denominator)) * 2 ^ 52 := by ring
    _ ≤ (2 * units + denominator * 2 ^ scaleOf units denominator) * 2 ^ 52 :=
        Nat.mul_le_mul_right _ error
    _ = 2 * units * 2 ^ 52 + 2 ^ 52 * (denominator * 2 ^ scaleOf units denominator) := by ring
    _ ≤ 2 * units * 2 ^ 52 + units := Nat.add_le_add_left kept _
    _ = units * (2 ^ 53 + 1) := by ring

end Magnitude

namespace Binary64

open Magnitude

/-- A rounded number, infinite when there is none. -/
def ofMagnitude? (negative : Bool) : Option Magnitude → Binary64
  | some magnitude => .finite negative magnitude
  | none => .infinite negative

theorem ofQuotient_eq :
    ofQuotient = fun negative numerator denominator =>
      ofMagnitude? negative (ofQuotient? numerator denominator) := by
  delta ofQuotient
  funext negative numerator denominator
  generalize ofQuotient? numerator denominator = rounded
  cases rounded <;> rfl

theorem ofQuotient_of_ofUnits? {numerator denominator : Nat} {magnitude : Magnitude}
    (rounded : ofUnits? (numerator * unitsOfOne) denominator = some magnitude)
    (negative : Bool) :
    ofQuotient negative numerator denominator = .finite negative magnitude := by
  rw [ofQuotient_eq, ofQuotient?_eq]
  dsimp only
  rw [rounded, ofMagnitude?]

/-- A natural number below the bound is rounded to a finite double, longer by one part in
`2 ^ 53` at most. -/
theorem exists_ofNat {number : Nat} (bounded : number * unitsOfOne < roundingBound) :
    ∃ magnitude, ofNat number = .finite false magnitude ∧
      magnitude.units * 2 ^ 53 ≤ number * unitsOfOne * (2 ^ 53 + 1) := by
  obtain ⟨magnitude, rounded⟩ : ∃ magnitude, ofUnits? (number * unitsOfOne) 1 = some magnitude :=
    exists_ofUnits? (by rwa [Nat.one_mul])
  refine ⟨magnitude, ofQuotient_of_ofUnits? rounded false, ?_⟩
  rcases Nat.eq_zero_or_pos number with rfl | positive
  · rw [Nat.zero_mul] at rounded
    rw [units_of_ofUnits?_zero rounded, Nat.zero_mul]
    exact Nat.zero_le _
  · have normal : 1 * 2 ^ 52 ≤ number * unitsOfOne :=
      Nat.le_trans (by decide +kernel) (Nat.mul_le_mul_right unitsOfOne positive)
    simpa using units_mul_le_of_ofUnits? rounded normal Nat.one_pos

/-- A power of ten that is a double is the one nearest to it. -/
theorem ofDecimal_one {power : Nat} (small : power ≤ 308) :
    ofDecimal false 1 power = ofNat (Nat.pow 10 power) := by
  have digits : (Nat.toDigits 10 1).length = 1 := by decide
  simp only [ofDecimal, digits]
  rw [if_neg (by omega), if_neg (by omega), if_pos (by omega), Nat.one_mul, Int.toNat_natCast]
  rfl

theorem exists_ofDecimal_one {power : Nat} (small : power ≤ 308) :
    ∃ magnitude, ofDecimal false 1 power = .finite false magnitude ∧
      magnitude.units * 2 ^ 53 ≤ Nat.pow 10 power * unitsOfOne * (2 ^ 53 + 1) := by
  rw [ofDecimal_one small]
  obtain ⟨limit, limitEq⟩ : ∃ limit, limit = 308 := ⟨_, rfl⟩
  have largest : Nat.pow 10 limit * unitsOfOne < roundingBound := by
    subst limitEq
    decide +kernel
  rw [← limitEq] at small
  have least : Nat.pow 10 power ≤ Nat.pow 10 limit := Nat.pow_le_pow_right (by decide) small
  exact exists_ofNat (Nat.lt_of_le_of_lt (Nat.mul_le_mul_right _ least) largest)

/-! ## Products -/

/-- The product of two doubles, rounded. -/
def times : Binary64 → Binary64 → Binary64
  | .finite negative magnitude, .finite _ factor =>
      ofQuotient negative (magnitude.units * factor.units) (unitsOfOne * unitsOfOne)
  | other, _ => other

theorem scaleUp_eq :
    scaleUp = fun number (power : Nat) => times number (ofDecimal false 1 power) := by
  delta scaleUp times unitsOfOne
  funext number power
  generalize ofDecimal false 1 (power : Int) = factor
  cases number <;> cases factor <;> rfl

/-- Two factors that were rounded do not make a product that is out of range, unless the exact
one comes close to the largest double. -/
theorem mul_lt_of_rounded {first second significand factor : Nat}
    (firstLe : first * 2 ^ 53 ≤ significand * unitsOfOne * (2 ^ 53 + 1))
    (secondLe : second * 2 ^ 53 ≤ factor * unitsOfOne * (2 ^ 53 + 1))
    (bounded : significand * factor * (4 * unitsOfOne) ≤ (2 ^ 55 - 10) * (2 * halfStep)) :
    first * second < unitsOfOne * roundingBound := by
  by_contra beyond
  have large := Nat.mul_le_mul_left (4 * 2 ^ 106) (Nat.le_of_not_lt beyond)
  have rounded := Nat.mul_le_mul_left 4 (Nat.mul_le_mul firstLe secondLe)
  have precise := Nat.mul_le_mul_right (unitsOfOne * (2 ^ 53 + 1) ^ 2) bounded
  rw [roundingBound] at large
  have positive : 0 < unitsOfOne * halfStep := Nat.mul_pos unitsOfOne_pos halfStep_pos
  generalize unitsOfOne = one at large rounded precise positive
  generalize halfStep = half at large precise positive
  have chain : (2 ^ 54 - 1) * 2 ^ 108 * (one * half) ≤
      (2 ^ 55 - 10) * 2 * (2 ^ 53 + 1) ^ 2 * (one * half) :=
    calc (2 ^ 54 - 1) * 2 ^ 108 * (one * half)
        = 4 * 2 ^ 106 * (one * ((2 ^ 54 - 1) * half)) := by ring
      _ ≤ 4 * 2 ^ 106 * (first * second) := large
      _ = 4 * (first * 2 ^ 53 * (second * 2 ^ 53)) := by ring
      _ ≤ 4 * (significand * one * (2 ^ 53 + 1) * (factor * one * (2 ^ 53 + 1))) := rounded
      _ = significand * factor * (4 * one) * (one * (2 ^ 53 + 1) ^ 2) := by ring
      _ ≤ (2 ^ 55 - 10) * (2 * half) * (one * (2 ^ 53 + 1) ^ 2) := precise
      _ = (2 ^ 55 - 10) * 2 * (2 ^ 53 + 1) ^ 2 * (one * half) := by ring
  exact absurd (Nat.le_of_mul_le_mul_right chain positive) (by decide)

/-- A product is finite, although both factors were rounded before, unless it comes close to
the largest double. -/
theorem isFinite_scaleUp {significand power : Nat} (small : power ≤ 308)
    (bounded : significand * Nat.pow 10 power * (4 * unitsOfOne) ≤ (2 ^ 55 - 10) * (2 * halfStep)) :
    ((ofNat significand).scaleUp power).isFinite = true := by
  have alone : significand * unitsOfOne < roundingBound := by
    have power : significand ≤ significand * Nat.pow 10 power :=
      Nat.le_mul_of_pos_right _ (Nat.pow_pos (by decide))
    have units := Nat.mul_le_mul_right (4 * unitsOfOne) power
    have half := halfStep_pos
    rw [roundingBound]
    have apart : significand * (4 * unitsOfOne) = 4 * (significand * unitsOfOne) := by ring
    omega
  obtain ⟨first, firstEq, firstLe⟩ := exists_ofNat alone
  obtain ⟨second, secondEq, secondLe⟩ := exists_ofDecimal_one small
  have product : first.units * second.units * unitsOfOne <
      unitsOfOne * unitsOfOne * roundingBound := by
    rw [Nat.mul_comm (first.units * second.units), Nat.mul_assoc]
    exact Nat.mul_lt_mul_of_pos_left (mul_lt_of_rounded firstLe secondLe bounded) unitsOfOne_pos
  obtain ⟨magnitude, rounded⟩ := exists_ofUnits? product
  rw [scaleUp_eq, firstEq]
  dsimp only
  rw [secondEq, times, ofQuotient_of_ofUnits? rounded]
  rfl

end Binary64

end HostedCheckout
