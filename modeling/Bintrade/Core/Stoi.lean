import Mathlib.Algebra.Ring.Int.Defs
import Mathlib.Data.List.TakeWhile
import Bintrade.Core.Error

/-! `std::stoi`: white space, a sign and the digits that follow. Whatever comes after the
digits is ignored. -/

namespace Bintrade.Core

/-- `std::isspace` in the C locale. -/
def isSpace (char : Char) : Bool := char = ' ' || (9 ≤ char.toNat && char.toNat ≤ 13)

/-- The sign, if there is one, and the rest. -/
def splitSign : List Char → Bool × List Char
  | '-' :: rest => (true, rest)
  | '+' :: rest => (false, rest)
  | rest => (false, rest)

/-- The range of `int`. -/
def FitsInt (value : Int) : Prop := -2 ^ 31 ≤ value ∧ value < 2 ^ 31

instance (value : Int) : Decidable (FitsInt value) := inferInstanceAs (Decidable (_ ∧ _))

def stoi (text : String) : Except NumeralError Int :=
  let (negative, rest) := splitSign (text.toList.dropWhile isSpace)
  let digits := rest.takeWhile Char.isDigit
  let magnitude : Int := Nat.ofDigitChars 10 digits 0
  let value := if negative then -magnitude else magnitude
  if digits.isEmpty then .error .invalidArgument
  else if FitsInt value then .ok value
  else .error .outOfRange

section Digits

variable {digits : List Char}

theorem not_isSpace_of_isDigit {char : Char} (digit : char.isDigit = true) :
    isSpace char = false := by
  have above : 48 ≤ char.toNat := by
    simp only [Char.isDigit, Bool.and_eq_true, decide_eq_true_eq] at digit
    exact digit.1
  have visible : char ≠ ' ' := by
    rintro rfl
    cases digit
  simp only [isSpace, visible, decide_false, Bool.false_or, Bool.and_eq_false_iff,
    decide_eq_false_iff_not]
  omega

theorem splitSign_digits (digital : ∀ char ∈ digits, char.isDigit = true) :
    splitSign digits = (false, digits) := by
  unfold splitSign
  split
  · cases digital _ List.mem_cons_self
  · cases digital _ List.mem_cons_self
  · rfl

theorem dropWhile_isSpace (digital : ∀ char ∈ digits, char.isDigit = true) :
    digits.dropWhile isSpace = digits := by
  cases digits with
  | nil => rfl
  | cons first rest =>
    rw [List.dropWhile_cons_of_neg]
    rw [not_isSpace_of_isDigit (digital first List.mem_cons_self)]
    decide

end Digits

theorem isDigit_toDigits (number : Nat) :
    ∀ char ∈ Nat.toDigits 10 number, char.isDigit = true :=
  fun _ => Nat.isDigit_of_mem_toDigits (by decide) (by decide)

/-- A number in the range of `int` is read back from its decimal text. -/
theorem stoi_toString {value : Int} (fits : FitsInt value) : stoi (toString value) = .ok value := by
  cases value with
  | ofNat number =>
    have text : (toString (Int.ofNat number)).toList = Nat.toDigits 10 number :=
      Nat.toList_repr
    have digital := isDigit_toDigits number
    unfold stoi
    simp only [text, dropWhile_isSpace digital, splitSign_digits digital,
      List.takeWhile_eq_self_iff.mpr digital,
      Nat.ofDigitChars_toDigits (by decide : 1 < 10) (by decide)]
    rw [if_neg (by simp)]
    exact if_pos fits
  | negSucc number =>
    have text : (toString (Int.negSucc number)).toList = '-' :: Nat.toDigits 10 (number + 1) := by
      rw [show toString (Int.negSucc number) = "-" ++ (number + 1).repr from rfl,
        String.toList_append, Nat.toList_repr]
      rfl
    have digital := isDigit_toDigits (number + 1)
    have kept : ('-' :: Nat.toDigits 10 (number + 1)).dropWhile isSpace =
        '-' :: Nat.toDigits 10 (number + 1) := rfl
    unfold stoi
    simp only [text, kept, splitSign, List.takeWhile_eq_self_iff.mpr digital,
      Nat.ofDigitChars_toDigits (by decide : 1 < 10) (by decide)]
    rw [if_neg (by simp)]
    exact if_pos fits

end Bintrade.Core
