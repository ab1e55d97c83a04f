import Mathlib.Data.Rat.Floor

/-! Floating-point numbers as rationals that an unspecified rounding maps to. The bounds
that a computation keeps follow from two properties that every rounding mode has. -/

namespace Bintrade.System

/-- Rounding to a `double`: it keeps the order, and integers that fit into the significand
are not changed. -/
structure Rounding where
  round : ℚ → ℚ
  monotone : Monotone round
  exact : ∀ value : ℤ, |value| ≤ 2 ^ 53 → round value = value

/-- The conversion to an integer type, which drops the fraction. -/
def truncate (value : ℚ) : ℤ := value.num.tdiv value.den

theorem truncate_of_nonneg {value : ℚ} (nonnegative : 0 ≤ value) : truncate value = ⌊value⌋ := by
  rw [truncate, Int.tdiv_eq_ediv_of_nonneg (Rat.num_nonneg.mpr nonnegative)]
  exact Rat.floor_def'.symm

namespace Rounding

/-- Exact arithmetic. -/
def identity : Rounding where
  round := id
  monotone := monotone_id
  exact _ _ := rfl

variable (rounding : Rounding) {value : ℚ} {low high : ℤ}

theorem le_round (inside : |low| ≤ 2 ^ 53) (above : low ≤ value) : low ≤ rounding.round value := by
  rw [← rounding.exact low inside]
  exact rounding.monotone above

theorem round_le (inside : |high| ≤ 2 ^ 53) (below : value ≤ high) :
    rounding.round value ≤ high := by
  rw [← rounding.exact high inside]
  exact rounding.monotone below

/-- A rounded and truncated value stays between the integers that its exact value is
between. -/
theorem truncate_bounds (nonnegative : 0 ≤ low) (ordered : low ≤ high) (fits : high ≤ 2 ^ 53)
    (above : low ≤ value) (below : value ≤ high) :
    low ≤ truncate (rounding.round value) ∧ truncate (rounding.round value) ≤ high := by
  have lowInside : |low| ≤ 2 ^ 53 := by
    rw [abs_of_nonneg nonnegative]
    exact ordered.trans fits
  have highInside : |high| ≤ 2 ^ 53 := by
    rw [abs_of_nonneg (nonnegative.trans ordered)]
    exact fits
  have lower := rounding.le_round lowInside above
  have upper := rounding.round_le highInside below
  have positive : 0 ≤ rounding.round value := le_trans (Int.cast_nonneg nonnegative) lower
  rw [truncate_of_nonneg positive]
  exact ⟨Int.le_floor.mpr lower, Int.cast_le.mp ((Int.floor_le _).trans upper)⟩

end Rounding

end Bintrade.System
