import HostedCheckout.Proofs.Decimal.Nearest

/-!
# When the shortest decimals differ

The search for a shortest decimal finds the coarsest grid that has a point within the interval
of a double, and on it the nearer one of two neighbours.  How a tie is settled matters only if
both neighbours lie within the interval and the double is exactly in the middle; then one rule
takes the even one and the other rule the upper one.
-/

namespace HostedCheckout.Magnitude

open Decimal

/-! ## Points of one grid -/

/-- An interval with its middle inside. -/
structure Interval.Proper (interval : Interval) : Prop where
  low : interval.low < interval.middle
  high : interval.middle < interval.high

theorem proper_interval {magnitude : Magnitude} (nonzero : magnitude.significand ≠ 0) :
    magnitude.interval.Proper := by
  have positive : 0 < magnitude.units :=
    Nat.mul_pos (Nat.pos_of_ne_zero nonzero) (Nat.two_pow_pos _)
  have quarter : 0 < Nat.pow 2 magnitude.scale := Nat.two_pow_pos _
  constructor
  · simp only [interval]
    split <;> omega
  · simp only [interval]
    omega

instance (interval : Interval) (numerator denominator : Nat) :
    Decidable (interval.Holds numerator denominator) :=
  decidable_of_iff
    ((interval.low * denominator < numerator ∨
        (interval.closed = true ∧ interval.low * denominator = numerator)) ∧
      (numerator < interval.high * denominator ∨
        (interval.closed = true ∧ numerator = interval.high * denominator)))
    ⟨fun ends => ⟨ends.1, ends.2⟩, fun holds => ⟨holds.low, holds.high⟩⟩

variable {tie : TieRule} {interval : Interval} {step weight point : Nat}

/-- The point of a grid below the middle of an interval. -/
def under (interval : Interval) (step weight : Nat) : Nat :=
  interval.middle * weight / step

theorem under_mul_le (interval : Interval) (step weight : Nat) :
    under interval step weight * step ≤ interval.middle * weight :=
  Nat.div_mul_le_self _ _

theorem lt_over_mul (interval : Interval) (weight : Nat) (stepPos : 0 < step) :
    interval.middle * weight < (under interval step weight + 1) * step := by
  rw [Nat.mul_comm _ step]
  exact Nat.lt_mul_div_succ _ stepPos

/-- A point below the middle lies within the interval if it is above the lower end. -/
theorem holds_under_iff (proper : interval.Proper) (weightPos : 0 < weight) {value : Nat}
    (below : value ≤ interval.middle * weight) :
    interval.Holds value weight ↔
      interval.low * weight < value ∨
        (interval.closed = true ∧ interval.low * weight = value) := by
  have high : interval.middle * weight < interval.high * weight :=
    Nat.mul_lt_mul_of_pos_right proper.high weightPos
  constructor
  · exact Interval.Holds.low
  · intro low
    exact ⟨low, .inl (Nat.lt_of_le_of_lt below high)⟩

/-- A point above the middle lies within the interval if it is below the upper end. -/
theorem holds_over_iff (proper : interval.Proper) (weightPos : 0 < weight) {value : Nat}
    (above : interval.middle * weight < value) :
    interval.Holds value weight ↔
      value < interval.high * weight ∨
        (interval.closed = true ∧ value = interval.high * weight) := by
  have low : interval.low * weight < interval.middle * weight :=
    Nat.mul_lt_mul_of_pos_right proper.low weightPos
  constructor
  · exact Interval.Holds.high
  · intro high
    exact ⟨.inl (Nat.lt_trans low above), high⟩

/-- Whether the point above the middle is taken when both neighbours are inside. -/
def OverNearer (tie : TieRule) (middle step point : Nat) : Prop :=
  (2 * point + 1) * step < 2 * middle ∨
    ((2 * point + 1) * step = 2 * middle ∧ (tie = .upward ∨ point % 2 = 1))

instance (tie : TieRule) (middle step point : Nat) : Decidable (OverNearer tie middle step point) :=
  inferInstanceAs (Decidable (_ ∨ _))

/-- Whether the point above another one is taken: it lies within the interval, and the other
one does not, or is not nearer. -/
def TakesOver (tie : TieRule) (interval : Interval) (step weight point : Nat) : Prop :=
  interval.Holds ((point + 1) * step) weight ∧
    (¬ interval.Holds (point * step) weight ∨
      OverNearer tie (interval.middle * weight) step point)

instance (tie : TieRule) (interval : Interval) (step weight point : Nat) :
    Decidable (TakesOver tie interval step weight point) :=
  inferInstanceAs (Decidable (_ ∧ _))

/-- The point of a grid that represents an interval is a neighbour of its middle that lies
within the interval. -/
theorem gridPoint?_eq (proper : interval.Proper) (stepPos : 0 < step) (weightPos : 0 < weight) :
    gridPoint? tie interval step weight =
      if TakesOver tie interval step weight (under interval step weight) then
        some (under interval step weight + 1)
      else if interval.Holds (under interval step weight * step) weight then
        some (under interval step weight)
      else none := by
  have below := under_mul_le interval step weight
  have above := lt_over_mul interval weight stepPos
  rw [under] at below above ⊢
  simp only [gridPoint?]
  generalize interval.middle * weight / step = point at below above ⊢
  have whole : (point + 1) * step = point * step + step := Nat.succ_mul _ _
  have twice : (2 * point + 1) * step = 2 * (point * step) + step := by ring
  have nearer : (point + 1) * step - interval.middle * weight <
      interval.middle * weight - point * step ↔
        (2 * point + 1) * step < 2 * (interval.middle * weight) := by omega
  have asNear : (point + 1) * step - interval.middle * weight =
      interval.middle * weight - point * step ↔
        (2 * point + 1) * step = 2 * (interval.middle * weight) := by omega
  refine if_congr ?_ rfl (if_congr ?_ rfl rfl)
  · rw [TakesOver, holds_over_iff proper weightPos above, holds_under_iff proper weightPos below,
      OverNearer, ← nearer, ← asNear]
    cases tie <;> cases interval.closed <;> simp
  · rw [holds_under_iff proper weightPos below]
    simp

section Grid

variable (proper : interval.Proper) (stepPos : 0 < step) (weightPos : 0 < weight)

include proper stepPos weightPos

theorem holds_of_gridPoint? (found : gridPoint? tie interval step weight = some point) :
    interval.Holds (point * step) weight := by
  rw [gridPoint?_eq proper stepPos weightPos] at found
  split_ifs at found with upper below
  · obtain rfl := Option.some.inj found
    exact upper.1
  · obtain rfl := Option.some.inj found
    exact below

/-- If no point represents an interval, no point of the grid lies within it. -/
theorem not_holds_of_gridPoint?_eq_none (nothing : gridPoint? tie interval step weight = none)
    (point : Nat) : ¬ interval.Holds (point * step) weight := by
  intro holds
  have below := under_mul_le interval step weight
  have above := lt_over_mul interval weight stepPos
  rw [gridPoint?_eq proper stepPos weightPos] at nothing
  split_ifs at nothing with upper inside
  rcases Nat.lt_or_ge (under interval step weight) point with beyond | within
  · have further : (under interval step weight + 1) * step ≤ point * step :=
      Nat.mul_le_mul_right _ beyond
    have overInside : interval.Holds ((under interval step weight + 1) * step) weight := by
      rw [holds_over_iff proper weightPos above]
      rcases holds.high with less | ⟨closed, atEnd⟩
      · exact .inl (Nat.lt_of_le_of_lt further less)
      · rcases Nat.lt_or_eq_of_le further with less | same
        · exact .inl (atEnd ▸ less)
        · exact .inr ⟨closed, same.trans atEnd⟩
    exact upper ⟨overInside, .inl inside⟩
  · have nearer : point * step ≤ under interval step weight * step :=
      Nat.mul_le_mul_right _ within
    apply inside
    rw [holds_under_iff proper weightPos below]
    rcases holds.low with more | ⟨closed, atEnd⟩
    · exact .inl (Nat.lt_of_lt_of_le more nearer)
    · rcases Nat.lt_or_eq_of_le nearer with more | same
      · exact .inl (atEnd ▸ more)
      · exact .inr ⟨closed, atEnd.trans same⟩

end Grid

/-- Two neighbours on a grid between which the rules decide: both lie within the interval, its
middle is halfway between them, and the lower one is even. -/
structure Interval.Halfway (interval : Interval) (step weight point : Nat) : Prop where
  lower : interval.Holds (point * step) weight
  upper : interval.Holds ((point + 1) * step) weight
  middle : (2 * point + 1) * step = 2 * (interval.middle * weight)
  even : point % 2 = 0

theorem Interval.Halfway.eq_under (halfway : interval.Halfway step weight point)
    (stepPos : 0 < step) : point = under interval step weight := by
  have middle := halfway.middle
  have twice : (2 * point + 1) * step = 2 * (point * step) + step := by ring
  have next : (point + 1) * step = point * step + step := Nat.succ_mul _ _
  have above := (Nat.le_div_iff_mul_le stepPos).mpr
    (by omega : point * step ≤ interval.middle * weight)
  have below := (Nat.div_lt_iff_lt_mul stepPos).mpr
    (by omega : interval.middle * weight < (point + 1) * step)
  rw [under]
  omega

/-- Unless they decide between two neighbours, the rules agree. -/
theorem takesOver_rules (untied : ¬ interval.Halfway step weight point) :
    TakesOver .toEven interval step weight point ↔
      TakesOver .upward interval step weight point := by
  constructor
  · rintro ⟨upper, outside | less | ⟨same, -⟩⟩
    · exact ⟨upper, .inl outside⟩
    · exact ⟨upper, .inr (.inl less)⟩
    · exact ⟨upper, .inr (.inr ⟨same, .inl rfl⟩)⟩
  · rintro ⟨upper, outside | less | ⟨same, -⟩⟩
    · exact ⟨upper, .inl outside⟩
    · exact ⟨upper, .inr (.inl less)⟩
    · by_cases lower : interval.Holds (point * step) weight
      · refine ⟨upper, .inr (.inr ⟨same, .inr ?_⟩)⟩
        by_contra even
        exact untied ⟨lower, upper, same, by omega⟩
      · exact ⟨upper, .inl lower⟩

/-- Between two neighbours, rounding upward takes the upper one. -/
theorem Interval.Halfway.takesOver (halfway : interval.Halfway step weight point) :
    TakesOver .upward interval step weight point :=
  ⟨halfway.upper, .inr (.inr ⟨halfway.middle, .inl rfl⟩)⟩

/-- Between two neighbours, rounding to even takes the lower one. -/
theorem Interval.Halfway.not_takesOver (halfway : interval.Halfway step weight point) :
    ¬ TakesOver .toEven interval step weight point := by
  rintro ⟨-, outside | less | ⟨-, rule | odd⟩⟩
  · exact outside halfway.lower
  · exact absurd halfway.middle (Nat.ne_of_lt less)
  · cases rule
  · exact absurd halfway.even (by omega)

/-- Both rules find the same point, or the two neighbours between which they decide. -/
theorem gridPoint?_rules (proper : interval.Proper) (stepPos : 0 < step) (weightPos : 0 < weight)
    {evenly upward : Nat} (first : gridPoint? .toEven interval step weight = some evenly)
    (second : gridPoint? .upward interval step weight = some upward) :
    (evenly = upward ∧ ∀ point, ¬ interval.Halfway step weight point) ∨
      (interval.Halfway step weight evenly ∧ upward = evenly + 1) := by
  rw [gridPoint?_eq proper stepPos weightPos] at first second
  by_cases tied : interval.Halfway step weight (under interval step weight)
  · rw [if_neg tied.not_takesOver, if_pos tied.lower] at first
    rw [if_pos tied.takesOver] at second
    obtain rfl := Option.some.inj first
    exact .inr ⟨tied, (Option.some.inj second).symm⟩
  · rw [if_congr (takesOver_rules tied) rfl rfl] at first
    exact .inl ⟨Option.some.inj (first.symm.trans second),
      fun point halfway => tied (halfway.eq_under stepPos ▸ halfway)⟩

/-! ## The search -/

theorem coarsestPoint_succ (tie : TieRule) (interval : Interval) (remaining : Nat)
    (exponent : Int) :
    coarsestPoint tie interval (remaining + 1) exponent =
      match gridPoint? tie interval (gridStep exponent) (gridWeight exponent) with
      | some digits => ⟨digits, exponent⟩
      | none => coarsestPoint tie interval remaining (exponent - 1) := by
  have grid : (if 0 ≤ exponent then
        gridPoint? tie interval (4 * Nat.pow 2 1074 * Nat.pow 10 exponent.toNat) 1
      else gridPoint? tie interval (4 * Nat.pow 2 1074) (Nat.pow 10 (-exponent).toNat)) =
      gridPoint? tie interval (gridStep exponent) (gridWeight exponent) := by
    delta gridStep gridWeight unitsOfOne
    generalize Nat.pow 2 1074 = one
    split
    · have flat : (-exponent).toNat = 0 := by omega
      rw [flat]
      rfl
    · have flat : exponent.toNat = 0 := by omega
      rw [flat, pow_zero, Nat.mul_one]
      rfl
  cases found : gridPoint? tie interval (gridStep exponent) (gridWeight exponent) with
  | some digits => simp only [coarsestPoint, grid, found]
  | none => simp only [coarsestPoint, grid, found]

/-- The search ends at the coarsest grid that has a point. -/
theorem coarsestPoint_spec {tie : TieRule} {interval : Interval} {stop : Int}
    (found : gridPoint? tie interval (gridStep stop) (gridWeight stop) ≠ none)
    {remaining : Nat} {start : Int} (below : stop ≤ start) (above : start < stop + remaining) :
    gridPoint? tie interval
          (gridStep (coarsestPoint tie interval remaining start).exponent)
          (gridWeight (coarsestPoint tie interval remaining start).exponent) =
        some (coarsestPoint tie interval remaining start).digits ∧
      ∀ exponent, (coarsestPoint tie interval remaining start).exponent < exponent →
        exponent ≤ start →
          gridPoint? tie interval (gridStep exponent) (gridWeight exponent) = none := by
  induction remaining generalizing start with
  | zero => omega
  | succ remaining ih =>
      rw [coarsestPoint_succ]
      cases outcome : gridPoint? tie interval (gridStep start) (gridWeight start) with
      | some digits => exact ⟨outcome, fun exponent beyond within => by dsimp only at beyond; omega⟩
      | none =>
          have further : stop ≤ start - 1 := by
            rcases Int.lt_or_eq_of_le below with less | rfl
            · omega
            · exact absurd outcome found
          obtain ⟨here, higher⟩ := ih further (by omega)
          refine ⟨here, fun exponent beyond within => ?_⟩
          rcases Int.lt_or_eq_of_le within with less | rfl
          · exact higher exponent beyond (by omega)
          · exact outcome

/-- The grid that is as fine as the units holds every magnitude. -/
theorem gridPoint?_finest {interval : Interval} (proper : interval.Proper) {quarters power : Nat}
    (middle : interval.middle = 4 * quarters) (units : Nat.pow 2 power = unitsOfOne)
    (tie : TieRule) :
    gridPoint? tie interval (gridStep (-power)) (gridWeight (-power)) ≠ none := by
  intro nothing
  have weight : gridWeight (-power) = 5 ^ power * unitsOfOne := by
    rw [gridWeight, Int.neg_neg, Int.toNat_natCast, ← units]
    exact Nat.mul_pow 5 2 power
  have step : gridStep (-power) = 4 * unitsOfOne := by
    have flat : (-(power : Int)).toNat = 0 := by omega
    rw [gridStep, flat]
    generalize unitsOfOne = one
    rw [pow_zero, Nat.mul_one]
  have exact : quarters * 5 ^ power * gridStep (-power) =
      interval.middle * gridWeight (-power) := by
    rw [middle, weight, step]
    generalize unitsOfOne = one
    ring
  apply not_holds_of_gridPoint?_eq_none proper (gridStep_pos _) (gridWeight_pos _) nothing
    (quarters * 5 ^ power)
  rw [exact, holds_under_iff proper (gridWeight_pos _) (Nat.le_refl _)]
  exact .inl (Nat.mul_lt_mul_of_pos_right proper.low (gridWeight_pos _))

section Shortest

variable {magnitude : Magnitude} (nonzero : magnitude.significand ≠ 0)

include nonzero

theorem shortest_found (tie : TieRule) :
    gridPoint? tie magnitude.interval (gridStep (magnitude.shortest tie).exponent)
          (gridWeight (magnitude.shortest tie).exponent) =
        some (magnitude.shortest tie).digits ∧
      ∀ exponent, (magnitude.shortest tie).exponent < exponent → exponent ≤ 309 →
        gridPoint? tie magnitude.interval (gridStep exponent) (gridWeight exponent) = none := by
  have units : Nat.pow 2 1074 = unitsOfOne := by
    delta unitsOfOne
    rfl
  have finest := gridPoint?_finest (proper_interval nonzero) rfl units tie
  rw [shortest, if_neg nonzero]
  exact coarsestPoint_spec finest (by omega) (by omega)

/-- The shortest decimal identifies the double. -/
theorem shortest_identifies (tie : TieRule) : (magnitude.shortest tie).Identifies magnitude := by
  rw [identifies_iff_within nonzero]
  exact holds_of_gridPoint? (proper_interval nonzero) (gridStep_pos _) (gridWeight_pos _)
    (shortest_found nonzero tie).1

/-- No coarser decimal identifies the double. -/
theorem exponent_le_shortest (tie : TieRule) {decimal : Decimal}
    (identifies : decimal.Identifies magnitude) :
    decimal.exponent ≤ (magnitude.shortest tie).exponent := by
  rw [identifies_iff_within nonzero] at identifies
  by_contra coarser
  have positive := low_interval_pos nonzero
  have length : 0 < (Nat.toDigits 10 decimal.digits).length := Nat.length_toDigits_pos
  have order := identifies.order_le positive
  have nothing := (shortest_found nonzero tie).2 decimal.exponent (by omega) (by omega)
  exact not_holds_of_gridPoint?_eq_none (proper_interval nonzero) (gridStep_pos _)
    (gridWeight_pos _) nothing decimal.digits identifies

end Shortest

end HostedCheckout.Magnitude
