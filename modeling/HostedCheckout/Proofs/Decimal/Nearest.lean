import HostedCheckout.Proofs.Decimal.Shortest
import Mathlib.Tactic.Ring
import Mathlib.Tactic.SplitIfs

/-!
# What is rounded to a double

A quotient is rounded to a magnitude exactly if it lies within the interval of this magnitude.
Rounding ends within the interval; intervals of different magnitudes do not meet, as of two
neighbours that touch only the one with an even significand has its end; and whatever lies
within an interval is small enough to be rounded to a finite double.
-/

namespace HostedCheckout.Magnitude

variable {numerator denominator units : Nat} {magnitude other : Magnitude}

/-- A quotient of quarter units lies within an interval. -/
structure Interval.Holds (interval : Interval) (numerator denominator : Nat) : Prop where
  low : interval.low * denominator < numerator ∨
    (interval.closed = true ∧ interval.low * denominator = numerator)
  high : numerator < interval.high * denominator ∨
    (interval.closed = true ∧ numerator = interval.high * denominator)

/-! ## The nearest natural number -/

/-- A quotient is less than a half below the natural number that it is rounded to, or a half
if this is even. -/
theorem nearestQuotient_low (numerator : Nat) (positive : 0 < denominator) :
    2 * (nearestQuotient numerator denominator * denominator) < 2 * numerator + denominator ∨
      (nearestQuotient numerator denominator % 2 = 0 ∧
        2 * (nearestQuotient numerator denominator * denominator) =
          2 * numerator + denominator) := by
  have whole : numerator / denominator * denominator + numerator % denominator = numerator :=
    Nat.div_add_mod' numerator denominator
  simp only [nearestQuotient]
  split
  · rename_i up
    rw [Nat.add_mul, Nat.one_mul]
    rcases up with above | ⟨half, odd⟩
    · exact .inl (by omega)
    · exact .inr (by omega)
  · exact .inl (by omega)

/-- A quotient is less than a half above the natural number that it is rounded to, or a half
if this is even. -/
theorem nearestQuotient_high (numerator : Nat) (positive : 0 < denominator) :
    2 * numerator < 2 * (nearestQuotient numerator denominator * denominator) + denominator ∨
      (nearestQuotient numerator denominator % 2 = 0 ∧
        2 * numerator =
          2 * (nearestQuotient numerator denominator * denominator) + denominator) := by
  have whole : numerator / denominator * denominator + numerator % denominator = numerator :=
    Nat.div_add_mod' numerator denominator
  have remainder : numerator % denominator < denominator := Nat.mod_lt _ positive
  simp only [nearestQuotient]
  split
  · rw [Nat.add_mul, Nat.one_mul]
    exact .inl (by omega)
  · rename_i down
    rw [not_or, not_and] at down
    by_cases half : 2 * (numerator % denominator) = denominator
    · exact .inr ⟨by have even := down.2 half; omega, by omega⟩
    · exact .inl (by omega)

/-! ## The ends of intervals -/

theorem closed_interval (magnitude : Magnitude) :
    magnitude.interval.closed = true ↔ magnitude.significand % 2 = 0 := by
  simp [interval]

/-- Whether the doubles below a magnitude are closer to one another than the ones above. -/
def IsPower (magnitude : Magnitude) : Prop :=
  magnitude.significand = 2 ^ 52 ∧ 0 < magnitude.scale

/-- The distance between neighbours of a magnitude, times a denominator. -/
def step (magnitude : Magnitude) (denominator : Nat) : Nat :=
  denominator * 2 ^ magnitude.scale

theorem step_pos (magnitude : Magnitude) (positive : 0 < denominator) :
    0 < magnitude.step denominator :=
  Nat.mul_pos positive (Nat.two_pow_pos _)

theorem units_mul_eq (magnitude : Magnitude) (denominator : Nat) :
    magnitude.units * denominator = magnitude.significand * magnitude.step denominator := by
  rw [units, step, Nat.mul_assoc, Nat.mul_comm denominator]
  rfl

theorem low_interval_of_isPower (power : magnitude.IsPower) (denominator : Nat) :
    magnitude.interval.low * denominator =
      4 * (magnitude.significand * magnitude.step denominator) - magnitude.step denominator := by
  have atPower : magnitude.significand = Nat.pow 2 52 ∧ 0 < magnitude.scale := power
  simp only [interval, if_pos atPower]
  rw [Nat.sub_mul, Nat.mul_assoc, units_mul_eq, step, Nat.mul_comm denominator]
  rfl

theorem low_interval_of_not_isPower (ordinary : ¬ magnitude.IsPower) (denominator : Nat) :
    magnitude.interval.low * denominator =
      4 * (magnitude.significand * magnitude.step denominator) -
        2 * magnitude.step denominator := by
  have notPower : ¬ (magnitude.significand = Nat.pow 2 52 ∧ 0 < magnitude.scale) := ordinary
  simp only [interval, if_neg notPower]
  rw [Nat.sub_mul, Nat.mul_assoc, units_mul_eq, step, Nat.mul_assoc, Nat.mul_comm denominator]
  rfl

theorem high_interval_mul (magnitude : Magnitude) (denominator : Nat) :
    magnitude.interval.high * denominator =
      4 * (magnitude.significand * magnitude.step denominator) +
        2 * magnitude.step denominator := by
  rw [high_interval, step]
  simp only [Nat.pow_eq]
  ring

/-! ## Rounding ends within the interval -/

/-- Only a quotient of 53 bits or more has a scale. -/
theorem le_units_of_scaleOf_pos (scaled : 0 < scaleOf units denominator)
    (positive : 0 < denominator) :
    2 ^ 52 * (denominator * 2 ^ scaleOf units denominator) ≤ units := by
  have normal : 2 ^ 52 ≤ units / denominator := by
    by_contra small
    rw [scaleOf] at scaled
    by_cases zero : units / denominator = 0
    · rw [zero, Nat.log2_zero] at scaled
      omega
    · have log := (Nat.log2_lt zero).mpr (Nat.lt_of_not_le small)
      omega
  have kept := le_div_scaleOf normal
  rw [Nat.div_div_eq_div_mul] at kept
  exact (Nat.le_div_iff_mul_le (Nat.mul_pos positive (Nat.two_pow_pos _))).mp kept

theorem units_lt_scaleOf (units : Nat) (positive : 0 < denominator) :
    units < 2 ^ 53 * (denominator * 2 ^ scaleOf units denominator) := by
  have whole := div_scaleOf_lt units denominator
  rw [Nat.div_div_eq_div_mul] at whole
  exact (Nat.div_lt_iff_lt_mul (Nat.mul_pos positive (Nat.two_pow_pos _))).mp whole

/-- A quotient that is rounded at its scale lies within the interval. -/
theorem holds_of_kept (positive : 0 < denominator)
    (significand : magnitude.significand = significandOf units denominator)
    (scale : magnitude.scale = scaleOf units denominator) :
    magnitude.interval.Holds (4 * units) denominator := by
  have wide := magnitude.step_pos positive
  have lowEnd := nearestQuotient_low units wide
  have highEnd := nearestQuotient_high units wide
  have rounded : nearestQuotient units (magnitude.step denominator) = magnitude.significand := by
    rw [significand, significandOf, step, scale]
  rw [rounded] at lowEnd highEnd
  constructor
  · by_cases power : magnitude.IsPower
    · -- Below a power of two the interval is narrower, but its scale starts at this power.
      have above := le_units_of_scaleOf_pos (scale ▸ power.2) positive
      rw [← scale, ← step] at above
      rw [low_interval_of_isPower power, power.1]
      exact .inl (by omega)
    · rw [low_interval_of_not_isPower power, closed_interval]
      by_cases zero : magnitude.significand = 0
      · rw [zero]
        omega
      · have least := Nat.le_mul_of_pos_left (magnitude.step denominator)
          (Nat.pos_of_ne_zero zero)
        omega
  · rw [high_interval_mul, closed_interval]
    omega

/-- A quotient that is rounded up to the next power of two lies within its interval. -/
theorem holds_of_carried (positive : 0 < denominator) (significand : magnitude.significand = 2 ^ 52)
    (scale : magnitude.scale = scaleOf units denominator + 1)
    (carried : significandOf units denominator = 2 ^ 53) :
    magnitude.interval.Holds (4 * units) denominator := by
  have wide : 0 < denominator * 2 ^ scaleOf units denominator :=
    Nat.mul_pos positive (Nat.two_pow_pos _)
  have lowEnd := nearestQuotient_low units wide
  have below := units_lt_scaleOf units positive
  have stepEq : magnitude.step denominator =
      2 * (denominator * 2 ^ scaleOf units denominator) := by
    rw [step, scale, pow_succ]
    ring
  have power : magnitude.IsPower := ⟨significand, by omega⟩
  rw [← significandOf, carried] at lowEnd
  constructor
  · rw [low_interval_of_isPower power, closed_interval, significand, stepEq]
    omega
  · rw [high_interval_mul, significand, stepEq]
    exact .inl (by omega)

/-- A quotient lies within the interval of the magnitude that it is rounded to. -/
theorem holds_of_ofUnits? (rounded : ofUnits? units denominator = some magnitude)
    (positive : 0 < denominator) : magnitude.interval.Holds (4 * units) denominator := by
  rcases ofUnits?_cases rounded with ⟨significand, scale⟩ | ⟨significand, scale, carried⟩
  · exact holds_of_kept positive significand scale
  · exact holds_of_carried positive significand scale carried

/-! ## Intervals do not meet -/

/-- The order of magnitudes. -/
def Before (magnitude other : Magnitude) : Prop :=
  magnitude.scale < other.scale ∨
    (magnitude.scale = other.scale ∧ magnitude.significand < other.significand)

theorem before_or_before (different : magnitude ≠ other) :
    magnitude.Before other ∨ other.Before magnitude := by
  have parts : ¬ (magnitude.significand = other.significand ∧ magnitude.scale = other.scale) := by
    rintro ⟨significand, scale⟩
    apply different
    cases magnitude
    cases other
    cases significand
    cases scale
    rfl
  unfold Before
  omega

/-- The steps of a magnitude of a larger scale are at least twice as large. -/
theorem two_mul_step_le (scales : magnitude.scale < other.scale) (denominator : Nat) :
    2 * magnitude.step denominator ≤ other.step denominator := by
  have power : 2 ^ (magnitude.scale + 1) ≤ 2 ^ other.scale :=
    Nat.pow_le_pow_right (by decide) scales
  rw [pow_succ] at power
  rw [step, step]
  calc 2 * (denominator * 2 ^ magnitude.scale) = denominator * (2 ^ magnitude.scale * 2) := by ring
    _ ≤ denominator * 2 ^ other.scale := Nat.mul_le_mul_left _ power

/-- The interval of a magnitude ends where one of a larger scale begins, or before. -/
theorem high_le_low_of_scale_lt (scales : magnitude.scale < other.scale)
    (positive : 0 < denominator) :
    magnitude.interval.high * denominator < other.interval.low * denominator ∨
      (magnitude.interval.high * denominator = other.interval.low * denominator ∧
        ¬ (magnitude.interval.closed = true ∧ other.interval.closed = true)) := by
  have wide := magnitude.step_pos positive
  have steps := two_mul_step_le scales denominator
  have most : magnitude.significand < 2 ^ 53 := magnitude.significand_lt
  rw [closed_interval, closed_interval, high_interval_mul]
  by_cases power : other.IsPower
  · rw [low_interval_of_isPower power, power.1]
    by_cases last : magnitude.significand = 2 ^ 53 - 1
    · -- Only the last magnitude of a scale touches the next scale, and it is odd.
      rw [last]
      omega
    · have fewer : magnitude.significand * magnitude.step denominator ≤
          (2 ^ 53 - 2) * magnitude.step denominator := Nat.mul_le_mul_right _ (by omega)
      omega
  · have normal : 2 ^ 52 ≤ other.significand :=
      other.normal.resolve_left (Nat.ne_of_gt (Nat.zero_lt_of_lt scales))
    have beyond : (2 ^ 52 + 1) * other.step denominator ≤
        other.significand * other.step denominator := by
      apply Nat.mul_le_mul_right
      by_contra low
      exact power ⟨by omega, Nat.zero_lt_of_lt scales⟩
    have fewer : magnitude.significand * magnitude.step denominator ≤
        (2 ^ 53 - 1) * magnitude.step denominator := Nat.mul_le_mul_right _ (by omega)
    rw [low_interval_of_not_isPower power]
    exact .inl (by omega)

/-- The interval of a magnitude ends where one of its scale begins, or before. -/
theorem high_le_low_of_significand_lt (scales : magnitude.scale = other.scale)
    (significands : magnitude.significand < other.significand) (positive : 0 < denominator) :
    magnitude.interval.high * denominator < other.interval.low * denominator ∨
      (magnitude.interval.high * denominator = other.interval.low * denominator ∧
        ¬ (magnitude.interval.closed = true ∧ other.interval.closed = true)) := by
  have wide := magnitude.step_pos positive
  have steps : magnitude.step denominator = other.step denominator := by rw [step, step, scales]
  have apart := Nat.mul_le_mul_right (magnitude.step denominator) significands
  rw [Nat.succ_mul] at apart
  rw [closed_interval, closed_interval, high_interval_mul]
  by_cases power : other.IsPower
  · rw [low_interval_of_isPower power, ← steps]
    omega
  · rw [low_interval_of_not_isPower power, ← steps]
    by_cases next : other.significand = magnitude.significand + 1
    · -- Neighbours touch, and one of them is odd.
      have following : other.significand * magnitude.step denominator =
          magnitude.significand * magnitude.step denominator + magnitude.step denominator := by
        rw [next, Nat.succ_mul]
      omega
    · have further : (magnitude.significand + 2) * magnitude.step denominator ≤
          other.significand * magnitude.step denominator :=
        Nat.mul_le_mul_right _ (by omega)
      rw [Nat.add_mul] at further
      omega

/-- The interval of a magnitude ends where the next one begins, and only one of them has this
end. -/
theorem Before.high_le_low (before : magnitude.Before other) (positive : 0 < denominator) :
    magnitude.interval.high * denominator < other.interval.low * denominator ∨
      (magnitude.interval.high * denominator = other.interval.low * denominator ∧
        ¬ (magnitude.interval.closed = true ∧ other.interval.closed = true)) := by
  rcases before with scales | ⟨scales, significands⟩
  · exact high_le_low_of_scale_lt scales positive
  · exact high_le_low_of_significand_lt scales significands positive

/-- A quotient lies within the interval of one magnitude only. -/
theorem Interval.Holds.unique (holds : magnitude.interval.Holds numerator denominator)
    (also : other.interval.Holds numerator denominator) (positive : 0 < denominator) :
    magnitude = other := by
  by_contra different
  have apart {first second : Magnitude} (before : first.Before second)
      (below : first.interval.Holds numerator denominator)
      (above : second.interval.Holds numerator denominator) : False := by
    have ends := before.high_le_low positive
    have high := below.high
    have low := above.low
    generalize first.interval.high * denominator = firstEnd at ends high
    generalize second.interval.low * denominator = secondEnd at ends low
    have under : numerator ≤ firstEnd := by
      rcases high with less | ⟨-, atEnd⟩ <;> omega
    have beyond : secondEnd ≤ numerator := by
      rcases low with more | ⟨-, atEnd⟩ <;> omega
    rcases ends with gap | ⟨touching, onlyOne⟩
    · omega
    · exact onlyOne ⟨(high.resolve_left (by omega)).1, (low.resolve_left (by omega)).1⟩
  rcases before_or_before different with before | before
  · exact apart before holds also
  · exact apart before also holds

/-! ## Within an interval -/

/-- What lies within an interval is not out of range. -/
theorem Interval.Holds.lt_roundingBound
    (holds : magnitude.interval.Holds (4 * units) denominator) (positive : 0 < denominator) :
    units < denominator * roundingBound := by
  have high := holds.high
  rw [closed_interval, high_interval_mul] at high
  have most : magnitude.significand < 2 ^ 53 := magnitude.significand_lt
  have half : 0 < denominator * halfStep := Nat.mul_pos positive halfStep_pos
  have bound : denominator * roundingBound = (2 ^ 54 - 1) * (denominator * halfStep) := by
    rw [roundingBound]
    ring
  have steps : magnitude.step denominator ≤ 2 * (denominator * halfStep) := by
    rcases magnitude.pow_scale_cases with ⟨-, last⟩ | lower
    · rw [step, show 2 ^ magnitude.scale = 2 * halfStep from last]
      exact Nat.le_of_eq (by ring)
    · rw [step]
      have wide := Nat.mul_le_mul_left denominator lower
      simp only [Nat.pow_eq] at wide
      omega
  rw [bound]
  by_cases last : magnitude.significand = 2 ^ 53 - 1
  · rw [last] at high
    omega
  · have fewer : magnitude.significand * magnitude.step denominator ≤
        (2 ^ 53 - 2) * magnitude.step denominator := Nat.mul_le_mul_right _ (by omega)
    omega

/-- A quotient of units is rounded to a magnitude exactly if it lies within its interval. -/
theorem ofUnits?_eq_some_iff (positive : 0 < denominator) :
    ofUnits? units denominator = some magnitude ↔
      magnitude.interval.Holds (4 * units) denominator := by
  constructor
  · intro rounded
    exact holds_of_ofUnits? rounded positive
  · intro holds
    obtain ⟨nearest, rounded⟩ := exists_ofUnits? (holds.lt_roundingBound positive)
    rw [rounded, (holds_of_ofUnits? rounded positive).unique holds positive]

end HostedCheckout.Magnitude

namespace HostedCheckout.Decimal

open Magnitude Binary64

variable {decimal : Decimal} {magnitude : Magnitude} {interval : Interval}

/-! ## Decimals within an interval -/

/-- How many quarter units a power of ten is, if it is one, times `gridWeight`. -/
def gridStep (exponent : Int) : Nat :=
  4 * unitsOfOne * 10 ^ exponent.toNat

/-- What quarter units are divided by for a power of ten that is less than one. -/
def gridWeight (exponent : Int) : Nat :=
  10 ^ (-exponent).toNat

/-- A decimal lies within an interval. -/
def Within (decimal : Decimal) (interval : Interval) : Prop :=
  interval.Holds (decimal.digits * gridStep decimal.exponent) (gridWeight decimal.exponent)

theorem gridWeight_pos (exponent : Int) : 0 < gridWeight exponent :=
  Nat.pow_pos (by decide)

theorem gridStep_pos (exponent : Int) : 0 < gridStep exponent :=
  Nat.mul_pos (Nat.mul_pos (by decide) unitsOfOne_pos) (Nat.pow_pos (by decide))

theorem Within.digits_pos (within : decimal.Within interval) (positive : 0 < interval.low) :
    0 < decimal.digits := by
  by_contra zero
  have low := within.low
  rw [Nat.eq_zero_of_not_pos zero, Nat.zero_mul] at low
  have above := Nat.mul_pos positive (gridWeight_pos decimal.exponent)
  omega

theorem Within.atMost (within : decimal.Within interval) : decimal.AtMost interval.high := by
  have high : decimal.digits * gridStep decimal.exponent ≤
      interval.high * gridWeight decimal.exponent := by
    rcases within.high with less | ⟨-, atEnd⟩ <;> omega
  rw [gridStep, ← Nat.mul_assoc] at high
  exact high

/-- Quarter units are small beside the powers of ten that no double reaches. -/
theorem quarters_lt {power : Nat} (large : 331 ≤ power) : 4 * unitsOfOne < 10 ^ power := by
  -- The limit stays a variable until the two sides can be decided.
  obtain ⟨limit, limitEq⟩ : ∃ limit, limit = 331 := ⟨_, rfl⟩
  have least : 4 * unitsOfOne < Nat.pow 10 limit := by
    subst limitEq
    decide +kernel
  exact Nat.lt_of_lt_of_le least (Nat.pow_le_pow_right (by decide) (by omega))

/-- A decimal that is not below a quarter unit has no smaller order than doubles have. -/
theorem Within.le_order (within : decimal.Within interval) (positive : 0 < interval.low) :
    -330 ≤ decimal.exponent + (Nat.toDigits 10 decimal.digits).length := by
  by_contra tiny
  have length : 0 < (Nat.toDigits 10 decimal.digits).length := Nat.length_toDigits_pos
  have digits : decimal.digits < 10 ^ (Nat.toDigits 10 decimal.digits).length :=
    (Nat.length_toDigits_le_iff (by decide) length).mp (Nat.le_refl _)
  generalize (Nat.toDigits 10 decimal.digits).length = places at tiny length digits
  have low : gridWeight decimal.exponent ≤ decimal.digits * gridStep decimal.exponent := by
    have least := Nat.le_mul_of_pos_left (gridWeight decimal.exponent) positive
    rcases within.low with more | ⟨-, atEnd⟩ <;> omega
  have down : decimal.exponent.toNat = 0 := by omega
  obtain ⟨power, powers, large⟩ : ∃ power, (-decimal.exponent).toNat = places + power ∧
      331 ≤ power := ⟨(-decimal.exponent).toNat - places, by omega, by omega⟩
  rw [gridStep, gridWeight, down, powers, pow_zero, pow_add] at low
  have small := quarters_lt large
  generalize 4 * unitsOfOne = quarters at low small
  rw [Nat.mul_one] at low
  exact absurd (Nat.mul_lt_mul'' digits small) (Nat.not_lt.mpr low)

/-- A decimal that is not above the interval of a double has no larger order than doubles
have. -/
theorem Within.order_le (within : decimal.Within magnitude.interval)
    (positive : 0 < magnitude.interval.low) :
    decimal.exponent + (Nat.toDigits 10 decimal.digits).length - 1 ≤ 308 :=
  magnitude.lead_le within.atMost (within.digits_pos positive)

/-- A decimal identifies a double if it is read back as it: as the nearest double, and where two
are equally near, as the one with the even significand. -/
def Identifies (decimal : Decimal) (magnitude : Magnitude) : Prop :=
  ofDecimal false decimal.digits decimal.exponent = .finite false magnitude

theorem ofQuotient_eq_finite_iff {numerator denominator : Nat} (positive : 0 < denominator) :
    ofQuotient false numerator denominator = .finite false magnitude ↔
      magnitude.interval.Holds (4 * (numerator * unitsOfOne)) denominator := by
  rw [← ofUnits?_eq_some_iff positive, ofQuotient_eq, ofQuotient?_eq]
  dsimp only
  cases ofUnits? (numerator * unitsOfOne) denominator with
  | none => simp [ofMagnitude?]
  | some nearest => simp [ofMagnitude?]

/-- A decimal identifies a double exactly if it lies within its interval. -/
theorem identifies_iff_within (nonzero : magnitude.significand ≠ 0) :
    decimal.Identifies magnitude ↔ decimal.Within magnitude.interval := by
  have positive := low_interval_pos nonzero
  have unzero : Binary64.zero false ≠ .finite false magnitude := by
    rintro ⟨⟩
    exact nonzero rfl
  rw [Identifies, ofDecimal]
  split_ifs with small large upward
  · refine iff_of_false unzero fun within => ?_
    rcases small with none | tiny
    · exact Nat.ne_of_gt (within.digits_pos positive) none
    · exact absurd (within.le_order positive) (Int.not_le.mpr tiny)
  · refine iff_of_false (by simp) fun within => ?_
    have bound := within.order_le positive
    omega
  · have flat : (-decimal.exponent).toNat = 0 := by omega
    have quarters : 4 * (decimal.digits * Nat.pow 10 decimal.exponent.toNat * unitsOfOne) =
        decimal.digits * gridStep decimal.exponent := by
      rw [gridStep]
      simp only [Nat.pow_eq]
      ring
    rw [ofQuotient_eq_finite_iff Nat.one_pos, quarters, Within, gridWeight, flat, pow_zero]
  · have flat : decimal.exponent.toNat = 0 := by omega
    have quarters : 4 * (decimal.digits * unitsOfOne) =
        decimal.digits * gridStep decimal.exponent := by
      rw [gridStep, flat, pow_zero]
      ring
    have positive : 0 < Nat.pow 10 (-decimal.exponent).toNat :=
      gridWeight_pos decimal.exponent
    rw [ofQuotient_eq_finite_iff positive, quarters]
    exact Iff.rfl

end HostedCheckout.Decimal
