import Bintrade.System.Fault
import Mathlib.Algebra.Ring.Int.Defs

/-! Signed 64-bit integers as C++ has them. Division truncates toward zero, and an operation
whose exact result does not fit is undefined. -/

namespace Bintrade.System.Signed

/-- The value can be represented in 64 bits. -/
def Fits (value : Int) : Prop := -2 ^ 63 ≤ value ∧ value < 2 ^ 63

instance (value : Int) : Decidable (Fits value) := inferInstanceAs (Decidable (_ ∧ _))

section Operations

variable {ε : Type}

/-- An operation with the given exact result. -/
def exactly (value : Int) : Except (Fault ε) Int64 :=
  if Fits value then .ok (Int64.ofInt value) else .error .undefined

def add (left right : Int64) : Except (Fault ε) Int64 := exactly (left.toInt + right.toInt)

def mul (left right : Int64) : Except (Fault ε) Int64 := exactly (left.toInt * right.toInt)

def div (left right : Int64) : Except (Fault ε) Int64 :=
  if right.toInt = 0 then .error .undefined else exactly (left.toInt.tdiv right.toInt)

/-- The remainder is undefined where the quotient is. -/
def mod (left right : Int64) : Except (Fault ε) Int64 := do
  let _ ← div left right
  exactly (left.toInt.tmod right.toInt)

theorem fits_toInt (value : Int64) : Fits value.toInt := ⟨value.le_toInt, value.toInt_lt⟩

theorem exists_toInt {value : Int} (fits : Fits value) : ∃ result : Int64, result.toInt = value :=
  ⟨Int64.ofInt value, Int64.toInt_ofInt_of_le fits.1 fits.2⟩

theorem exactly_eq_ok {value : Int} {result : Int64} :
    (exactly value : Except (Fault ε) Int64) = .ok result ↔ Fits value ∧ result.toInt = value := by
  unfold exactly
  by_cases fits : Fits value
  · rw [if_pos fits, Except.ok.injEq]
    constructor
    · rintro rfl
      exact ⟨fits, Int64.toInt_ofInt_of_le fits.1 fits.2⟩
    · rintro ⟨-, same⟩
      rw [← same, Int64.ofInt_toInt]
  · rw [if_neg fits]
    refine iff_of_false ?_ (fun both => fits both.1)
    intro impossible
    cases impossible

theorem div_eq_ok {left right result : Int64} :
    (div left right : Except (Fault ε) Int64) = .ok result ↔
      right.toInt ≠ 0 ∧ Fits (left.toInt.tdiv right.toInt) ∧
        result.toInt = left.toInt.tdiv right.toInt := by
  unfold div
  by_cases zero : right.toInt = 0
  · rw [if_pos zero]
    refine iff_of_false ?_ (fun both => both.1 zero)
    intro impossible
    cases impossible
  · rw [if_neg zero, exactly_eq_ok]
    exact (and_iff_right zero).symm

theorem mod_eq_ok {left right result : Int64} :
    (mod left right : Except (Fault ε) Int64) = .ok result ↔
      (right.toInt ≠ 0 ∧ Fits (left.toInt.tdiv right.toInt)) ∧
        Fits (left.toInt.tmod right.toInt) ∧ result.toInt = left.toInt.tmod right.toInt := by
  unfold mod
  rw [bind_eq_ok]
  constructor
  · rintro ⟨quotient, divided, rest⟩
    obtain ⟨nonzero, fits, -⟩ := div_eq_ok.mp divided
    exact ⟨⟨nonzero, fits⟩, exactly_eq_ok.mp rest⟩
  · rintro ⟨⟨nonzero, fits⟩, rest⟩
    obtain ⟨quotient, exact⟩ := exists_toInt fits
    exact ⟨quotient, div_eq_ok.mpr ⟨nonzero, fits, exact⟩, exactly_eq_ok.mpr rest⟩

end Operations

section Truncation

variable {dividend divisor factor : Int}

theorem tdiv_mul_of_nonneg (nonneg : 0 ≤ dividend) (positive : 0 < divisor)
    (scales : 0 ≤ factor) :
    (dividend * factor).tdiv divisor =
      dividend.tdiv divisor * factor + (dividend.tmod divisor * factor).tdiv divisor := by
  have remainder := Int.emod_nonneg dividend (Int.ne_of_gt positive)
  rw [Int.tdiv_eq_ediv_of_nonneg (Int.mul_nonneg nonneg scales), Int.tdiv_eq_ediv_of_nonneg nonneg,
    Int.tmod_eq_emod_of_nonneg nonneg,
    Int.tdiv_eq_ediv_of_nonneg (Int.mul_nonneg remainder scales)]
  have split : dividend * factor =
      dividend % divisor * factor + divisor * (dividend / divisor * factor) := by
    calc dividend * factor
        = (dividend % divisor + divisor * (dividend / divisor)) * factor := by
          rw [Int.emod_add_mul_ediv]
      _ = dividend % divisor * factor + divisor * (dividend / divisor * factor) := by
          rw [Int.add_mul, Int.mul_assoc]
  rw [split, Int.add_mul_ediv_left _ _ (Int.ne_of_gt positive), Int.add_comm]

/-- A scaled quotient, by the scaled quotient and remainder. -/
theorem tdiv_mul (positive : 0 < divisor) (scales : 0 ≤ factor) :
    (dividend * factor).tdiv divisor =
      dividend.tdiv divisor * factor + (dividend.tmod divisor * factor).tdiv divisor := by
  rcases Int.le_total 0 dividend with nonneg | nonpos
  · exact tdiv_mul_of_nonneg nonneg positive scales
  · have mirrored :=
      tdiv_mul_of_nonneg (Int.neg_nonneg_of_nonpos nonpos) positive scales
    rw [Int.neg_mul, Int.neg_tdiv, Int.neg_tdiv, Int.neg_tmod, Int.neg_mul, Int.neg_mul,
      Int.neg_tdiv, ← Int.neg_add] at mirrored
    exact Int.neg_inj.mp mirrored

theorem tdiv_mul_parts_nonneg (nonneg : 0 ≤ dividend) (positive : 0 < divisor)
    (scales : 0 ≤ factor) :
    0 ≤ dividend.tdiv divisor * factor ∧ 0 ≤ (dividend.tmod divisor * factor).tdiv divisor := by
  have forward := Int.le_of_lt positive
  refine ⟨Int.mul_nonneg (Int.tdiv_nonneg nonneg forward) scales, ?_⟩
  exact Int.tdiv_nonneg (Int.mul_nonneg (Int.tmod_nonneg divisor nonneg) scales) forward

/-- Both parts lie between zero and the scaled quotient that they add up to. -/
theorem fits_tdiv_mul_parts (positive : 0 < divisor) (scales : 0 ≤ factor)
    (fits : Fits ((dividend * factor).tdiv divisor)) :
    Fits (dividend.tdiv divisor * factor) ∧
      Fits ((dividend.tmod divisor * factor).tdiv divisor) := by
  rw [tdiv_mul positive scales] at fits
  unfold Fits at fits ⊢
  rcases Int.le_total 0 dividend with nonneg | nonpos
  · obtain ⟨quotient, remainder⟩ := tdiv_mul_parts_nonneg nonneg positive scales
    omega
  · obtain ⟨quotient, remainder⟩ :=
      tdiv_mul_parts_nonneg (Int.neg_nonneg_of_nonpos nonpos) positive scales
    rw [Int.neg_tdiv, Int.neg_mul] at quotient
    rw [Int.neg_tmod, Int.neg_mul, Int.neg_tdiv] at remainder
    omega

end Truncation

end Bintrade.System.Signed
