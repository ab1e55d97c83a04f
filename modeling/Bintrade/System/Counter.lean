import Mathlib.Data.Nat.ModEq

/-! Free-running counters of fixed width, compared by wrapping subtraction and
reduced to ring indices by a power-of-two mask. The unbounded count behind a
counter is a natural number. -/

namespace Bintrade.System.Counter

variable {width : Nat}

/-- The value a counter of the given width shows after `count` increments. -/
def shown (width count : Nat) : BitVec width := BitVec.ofNat width count

theorem shown_succ (count : Nat) : shown width count + 1 = shown width (count + 1) := by
  simp [shown, BitVec.ofNat_add]

theorem shown_add (count extra : Nat) :
    shown width count + BitVec.ofNat width extra = shown width (count + extra) := by
  simp [shown, BitVec.ofNat_add]

/-- Wrapping subtraction recovers the true distance of two counts, however often
both counters have wrapped. -/
theorem distance_toNat {low high : Nat} (ordered : low ≤ high)
    (near : high - low < 2 ^ width) :
    (shown width high - shown width low).toNat = high - low := by
  obtain ⟨gap, rfl⟩ := Nat.exists_eq_add_of_le ordered
  have split : shown width (low + gap) - shown width low = BitVec.ofNat width gap := by
    rw [← shown_add, BitVec.add_comm]
    exact BitVec.add_sub_cancel _ _
  rw [Nat.add_sub_cancel_left] at near ⊢
  rw [split, BitVec.toNat_ofNat, Nat.mod_eq_of_lt near]

/-- The distance from a counter to one that is ahead of it comes round from the other
side. -/
theorem distance_toNat_of_le {low high : Nat} (ordered : low ≤ high) :
    (shown width low - shown width high).toNat =
      (2 ^ width - (high - low) % 2 ^ width) % 2 ^ width := by
  obtain ⟨gap, rfl⟩ := Nat.exists_eq_add_of_le ordered
  have split : shown width low - shown width (low + gap) = - BitVec.ofNat width gap := by
    rw [← shown_add, ← BitVec.sub_sub, BitVec.sub_self, BitVec.zero_sub]
  rw [split, BitVec.toNat_neg, BitVec.toNat_ofNat, Nat.add_sub_cancel_left]

/-- Counters within half the range show the same value only for equal counts. -/
theorem shown_eq_iff {low high : Nat} (ordered : low ≤ high) (near : high - low < 2 ^ width) :
    shown width low = shown width high ↔ low = high := by
  constructor
  · intro same
    have distance := distance_toNat ordered near
    rw [same, BitVec.sub_self] at distance
    simp at distance
    omega
  · rintro rfl
    rfl

/-- Masking a counter with one less than a power of two is reduction of the
count modulo that power. -/
theorem masked_toNat {exponent : Nat} (fits : exponent ≤ width) (count : Nat) :
    (shown width count &&& BitVec.ofNat width (2 ^ exponent - 1)).toNat =
      count % 2 ^ exponent := by
  have bound : 2 ^ exponent ≤ 2 ^ width := Nat.pow_le_pow_right (by decide) fits
  have positive : 0 < 2 ^ exponent := Nat.two_pow_pos exponent
  have mask : (2 ^ exponent - 1) % 2 ^ width = 2 ^ exponent - 1 :=
    Nat.mod_eq_of_lt (by omega)
  rw [BitVec.toNat_and, shown, BitVec.toNat_ofNat, BitVec.toNat_ofNat, mask,
    Nat.and_two_pow_sub_one_eq_mod, Nat.mod_mod_of_dvd _ (Nat.pow_dvd_pow 2 fits)]

/-- Counts that lie less than one ring size apart occupy different slots. -/
theorem slot_injective {size first second : Nat} (ordered : first ≤ second)
    (near : second < first + size) (same : first % size = second % size) :
    first = second := by
  have divides : size ∣ second - first := (Nat.modEq_iff_dvd' ordered).mp same
  have small : second - first < size := by omega
  have zero : second - first = 0 := Nat.eq_zero_of_dvd_of_lt divides small
  omega

end Bintrade.System.Counter
