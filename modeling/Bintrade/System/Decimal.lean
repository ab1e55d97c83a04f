import Mathlib.Algebra.Order.Field.Rat
import Mathlib.Tactic.Positivity
import Mathlib.Tactic.Ring

/-! Non-negative decimal numbers in fixed notation. A text denotes an exact rational
number, whatever the number of its digits. -/

namespace Bintrade.System

/-- The quotient to the nearest integer, a tie to the even one. -/
def roundedQuotient (value divisor : Nat) : Nat :=
  let quotient := value / divisor
  let rest := value % divisor
  if 2 * rest < divisor then quotient
  else if divisor < 2 * rest then quotient + 1
  else quotient + quotient % 2

/-- Rounding changes nothing exactly if there is nothing to round. -/
theorem roundedQuotient_mul_eq_iff {value divisor : Nat} (positive : 0 < divisor) :
    roundedQuotient value divisor * divisor = value ↔ divisor ∣ value := by
  constructor
  · intro exact
    exact ⟨_, (Nat.mul_comm _ _).trans exact |>.symm⟩
  · rintro ⟨quotient, rfl⟩
    have rounded : roundedQuotient (divisor * quotient) divisor = quotient := by
      simp [roundedQuotient, positive]
    rw [rounded, Nat.mul_comm]

/-- The last digits of a number, with the zeros in front of them. -/
def lastDigits : Nat → Nat → List Char
  | 0, _ => []
  | count + 1, value => lastDigits count (value / 10) ++ [(value % 10).digitChar]

@[simp]
theorem length_lastDigits (count value : Nat) : (lastDigits count value).length = count := by
  induction count generalizing value with
  | zero => rfl
  | succ count ih => simp [lastDigits, ih]

theorem isDigit_digitChar {digit : Nat} (small : digit < 10) : digit.digitChar.isDigit = true := by
  apply Nat.isDigit_of_mem_toDigits (b := 10) (n := digit) (by decide) (by decide)
  simp [Nat.toDigits_of_lt_base small]

theorem isDigit_of_mem_lastDigits {count value : Nat} {digit : Char}
    (member : digit ∈ lastDigits count value) : digit.isDigit = true := by
  induction count generalizing value with
  | zero => cases member
  | succ count ih =>
    rcases List.mem_append.mp member with earlier | last
    · exact ih earlier
    · rw [List.mem_singleton.mp last]
      exact isDigit_digitChar (Nat.mod_lt _ (by decide))

theorem ofDigitChars_digitChar {digit : Nat} (small : digit < 10) (value : Nat) :
    Nat.ofDigitChars 10 [digit.digitChar] value = 10 * value + digit := by
  have single : Nat.ofDigitChars 10 (Nat.toDigits 10 digit) 0 = digit :=
    Nat.ofDigitChars_toDigits (by decide) (by decide)
  rw [Nat.toDigits_of_lt_base small, Nat.ofDigitChars_cons] at single
  rw [Nat.ofDigitChars_cons]
  simp only [Nat.ofDigitChars, List.foldl_nil] at single ⊢
  omega

/-- Reading digits on after a number appends them to it. -/
theorem ofDigitChars_lastDigits (count value leading : Nat) :
    Nat.ofDigitChars 10 (lastDigits count value) leading =
      leading * 10 ^ count + value % 10 ^ count := by
  induction count generalizing value with
  | zero => simp [lastDigits, Nat.ofDigitChars, Nat.mod_one]
  | succ count ih =>
    rw [lastDigits, Nat.ofDigitChars_append, ih,
      ofDigitChars_digitChar (Nat.mod_lt _ (by decide)), Nat.pow_succ', Nat.mod_mul]
    ring

/-- The number that a text of digits denotes. -/
def readNumber (text : String) : Option Nat :=
  if text.toList ≠ [] ∧ text.toList.all Char.isDigit then
    some (Nat.ofDigitChars 10 text.toList 0)
  else none

@[simp]
theorem readNumber_toString (number : Nat) : readNumber (toString number) = some number := by
  have text : (toString number).toList = Nat.toDigits 10 number := Nat.toList_repr
  have digital : (Nat.toDigits 10 number).all Char.isDigit = true :=
    List.all_eq_true.mpr fun _ => Nat.isDigit_of_mem_toDigits (by decide) (by decide)
  rw [readNumber, text, if_pos ⟨by simp, digital⟩,
    Nat.ofDigitChars_toDigits (by decide) (by decide)]

/-- A number of units of `10 ^ -places`, with its `places` fractional digits. -/
def fixedText (places units : Nat) : String :=
  String.ofList (Nat.toDigits 10 (units / 10 ^ places) ++ '.' :: lastDigits places units)

/-- The number that a text of digits denotes, with or without a fraction. -/
def readDecimal (text : String) : Option ℚ :=
  let whole := text.toList.takeWhile Char.isDigit
  match text.toList.dropWhile Char.isDigit with
  | [] => if whole.isEmpty then none else some (Nat.ofDigitChars 10 whole 0 : ℚ)
  | point :: fraction =>
    if point = '.' ∧ ¬ whole.isEmpty ∧ ¬ fraction.isEmpty ∧ fraction.all Char.isDigit then
      some ((Nat.ofDigitChars 10 (whole ++ fraction) 0 : ℚ) / 10 ^ fraction.length)
    else none

theorem takeWhile_digits_point (whole fraction : List Char)
    (digits : ∀ digit ∈ whole, digit.isDigit = true) :
    (whole ++ '.' :: fraction).takeWhile Char.isDigit = whole := by
  rw [List.takeWhile_append_of_pos digits]
  simp

theorem dropWhile_digits_point (whole fraction : List Char)
    (digits : ∀ digit ∈ whole, digit.isDigit = true) :
    (whole ++ '.' :: fraction).dropWhile Char.isDigit = '.' :: fraction := by
  rw [List.dropWhile_append_of_pos digits]
  simp

/-- Fixed notation is read back exactly. -/
theorem readDecimal_fixedText {places : Nat} (fractional : 0 < places) (units : Nat) :
    readDecimal (fixedText places units) = some ((units : ℚ) / 10 ^ places) := by
  have wholeDigits : ∀ digit ∈ Nat.toDigits 10 (units / 10 ^ places), digit.isDigit = true :=
    fun digit => Nat.isDigit_of_mem_toDigits (by decide) (by decide)
  have wholePresent : (Nat.toDigits 10 (units / 10 ^ places)).isEmpty = false := by
    simp
  have fractionPresent : (lastDigits places units).isEmpty = false := by
    rw [List.isEmpty_eq_false_iff, ← List.length_pos_iff, length_lastDigits]
    exact fractional
  have fractionDigits : (lastDigits places units).all Char.isDigit = true :=
    List.all_eq_true.mpr fun digit => isDigit_of_mem_lastDigits
  have value : Nat.ofDigitChars 10
      (Nat.toDigits 10 (units / 10 ^ places) ++ lastDigits places units) 0 = units := by
    rw [Nat.ofDigitChars_append, Nat.ofDigitChars_toDigits (by decide) (by decide),
      ofDigitChars_lastDigits, Nat.mul_comm, Nat.div_add_mod]
  unfold readDecimal fixedText
  simp only [String.toList_ofList, takeWhile_digits_point _ _ wholeDigits,
    dropWhile_digits_point _ _ wholeDigits]
  rw [if_pos (by simp [wholePresent, fractionPresent, fractionDigits]), value, length_lastDigits]

/-- A number with more digits than are written keeps its value exactly if the digits
left out are zeros. -/
theorem readDecimal_rounded_iff {places : Nat} (fractional : 0 < places) (omitted units : Nat) :
    readDecimal (fixedText places (roundedQuotient units (10 ^ omitted))) =
      some ((units : ℚ) / 10 ^ (places + omitted)) ↔ 10 ^ omitted ∣ units := by
  have scale : (0 : ℚ) < 10 ^ places := by positivity
  have dropped : (0 : ℚ) < 10 ^ omitted := by positivity
  rw [readDecimal_fixedText fractional, Option.some_inj, pow_add, ← div_div, div_right_comm,
    div_left_inj' scale.ne', eq_div_iff dropped.ne',
    ← roundedQuotient_mul_eq_iff (Nat.pow_pos (by decide))]
  norm_cast

end Bintrade.System
