import Bintrade.System.Signed

/-! The monotonic clock of `platform/clock.hpp`. A count of ticks is turned into nanoseconds
by whole seconds and the rest, so that no product leaves 64 bits. -/

namespace Bintrade.Core.Clock

open Bintrade.System Bintrade.System.Signed

def ticksToNs (ticks freq : Int64) : Except (Fault Empty) Int64 := do
  let wholeSeconds ← div ticks freq
  let remainderTicks ← mod ticks freq
  let wholeNs ← mul wholeSeconds 1000000000
  let remainderNs ← mul remainderTicks 1000000000
  add wholeNs (← div remainderNs freq)

/-- What the platform reports: the performance counter and its frequency, which is read once,
or the time of `CLOCK_MONOTONIC`. -/
inductive Reading where
  | performanceCounter (counter freq : Int64)
  | timespec (tvSec tvNsec : Int64)

def monotonicNowNs : Reading → Except (Fault Empty) Int64
  | .performanceCounter counter freq => ticksToNs counter freq
  | .timespec tvSec tvNsec => do
    let wholeNs ← mul tvSec 1000000000
    add wholeNs tvNsec

/-- The time of a count of ticks, truncated to nanoseconds. -/
def exactNs (ticks freq : Int64) : Int := (ticks.toInt * 1000000000).tdiv freq.toInt

/-- No operation of `ticks_to_ns` overflows. -/
structure NoOverflow (ticks freq : Int64) : Prop where
  wholeNs : Fits (ticks.toInt.tdiv freq.toInt * 1000000000)
  remainderNs : Fits (ticks.toInt.tmod freq.toInt * 1000000000)
  sum : Fits (ticks.toInt.tdiv freq.toInt * 1000000000 +
    (ticks.toInt.tmod freq.toInt * 1000000000).tdiv freq.toInt)

section Conversion

variable {ticks freq : Int64}

theorem exactNs_eq (positive : 0 < freq.toInt) :
    exactNs ticks freq = ticks.toInt.tdiv freq.toInt * 1000000000 +
      (ticks.toInt.tmod freq.toInt * 1000000000).tdiv freq.toInt :=
  tdiv_mul positive (by decide)

theorem noOverflow (positive : 0 < freq.toInt) (bounded : freq.toInt ≤ 9223372037)
    (fits : Fits (exactNs ticks freq)) : NoOverflow ticks freq where
  wholeNs := (fits_tdiv_mul_parts positive (by decide) fits).1
  remainderNs := by
    have below := Int.tmod_lt_of_pos ticks.toInt positive
    have above := Int.lt_tmod_of_pos ticks.toInt positive
    unfold Fits
    omega
  sum := by
    rw [← exactNs_eq positive]
    exact fits

theorem toInt_second : (1000000000 : Int64).toInt = 1000000000 := by decide

/-- Without an overflow, `ticks_to_ns` returns the exact time. -/
theorem NoOverflow.returns (safe : NoOverflow ticks freq) (positive : 0 < freq.toInt) {ns : Int64}
    (exact : ns.toInt = exactNs ticks freq) : ticksToNs ticks freq = .ok ns := by
  have nonzero : freq.toInt ≠ 0 := Int.ne_of_gt positive
  have fits : Fits (exactNs ticks freq) := exact ▸ fits_toInt ns
  have wholeFits : Fits (ticks.toInt.tdiv freq.toInt) := by
    have scaled := safe.wholeNs
    unfold Fits at scaled ⊢
    omega
  have remainderFits : Fits (ticks.toInt.tmod freq.toInt) := by
    have scaled := safe.remainderNs
    unfold Fits at scaled ⊢
    omega
  have partFits := (fits_tdiv_mul_parts positive (by decide) fits).2
  obtain ⟨whole, wholeIs⟩ := exists_toInt wholeFits
  obtain ⟨remainder, remainderIs⟩ := exists_toInt remainderFits
  obtain ⟨wholeNs, wholeNsIs⟩ := exists_toInt safe.wholeNs
  obtain ⟨remainderNs, remainderNsIs⟩ := exists_toInt safe.remainderNs
  obtain ⟨part, partIs⟩ := exists_toInt partFits
  unfold ticksToNs
  refine bind_eq_ok.mpr ⟨whole, div_eq_ok.mpr ⟨nonzero, wholeFits, wholeIs⟩, ?_⟩
  refine bind_eq_ok.mpr ⟨remainder, mod_eq_ok.mpr ⟨⟨nonzero, wholeFits⟩, remainderFits,
    remainderIs⟩, ?_⟩
  refine bind_eq_ok.mpr ⟨wholeNs, exactly_eq_ok.mpr ?_, ?_⟩
  · rw [wholeIs, toInt_second]
    exact ⟨safe.wholeNs, wholeNsIs⟩
  refine bind_eq_ok.mpr ⟨remainderNs, exactly_eq_ok.mpr ?_, ?_⟩
  · rw [remainderIs, toInt_second]
    exact ⟨safe.remainderNs, remainderNsIs⟩
  refine bind_eq_ok.mpr ⟨part, div_eq_ok.mpr ?_, exactly_eq_ok.mpr ?_⟩
  · rw [remainderNsIs]
    exact ⟨nonzero, partFits, partIs⟩
  · rw [wholeNsIs, partIs, exact]
    exact ⟨safe.sum, exactNs_eq positive⟩

/-- `ticks_to_ns` is defined exactly if none of its operations overflows, and then exact. -/
theorem ticksToNs_eq_ok (positive : 0 < freq.toInt) {ns : Int64} :
    ticksToNs ticks freq = .ok ns ↔ NoOverflow ticks freq ∧ ns.toInt = exactNs ticks freq := by
  constructor
  · intro returned
    unfold ticksToNs at returned
    obtain ⟨whole, divided, returned⟩ := bind_eq_ok.mp returned
    obtain ⟨remainder, rest, returned⟩ := bind_eq_ok.mp returned
    obtain ⟨wholeNs, wholeScaled, returned⟩ := bind_eq_ok.mp returned
    obtain ⟨remainderNs, remainderScaled, returned⟩ := bind_eq_ok.mp returned
    obtain ⟨partNs, part, returned⟩ := bind_eq_ok.mp returned
    obtain ⟨-, -, wholeIs⟩ := div_eq_ok.mp divided
    obtain ⟨-, -, remainderIs⟩ := mod_eq_ok.mp rest
    obtain ⟨wholeFits, wholeNsIs⟩ := exactly_eq_ok.mp wholeScaled
    obtain ⟨remainderFits, remainderNsIs⟩ := exactly_eq_ok.mp remainderScaled
    obtain ⟨-, -, partIs⟩ := div_eq_ok.mp part
    obtain ⟨sumFits, sumIs⟩ := exactly_eq_ok.mp returned
    rw [wholeIs, toInt_second] at wholeFits wholeNsIs
    rw [remainderIs, toInt_second] at remainderFits remainderNsIs
    rw [remainderNsIs] at partIs
    rw [wholeNsIs, partIs] at sumFits sumIs
    rw [exactNs_eq positive]
    exact ⟨⟨wholeFits, remainderFits, sumFits⟩, sumIs⟩
  · rintro ⟨safe, exact⟩
    exact safe.returns positive exact

theorem exactNs_mono (positive : 0 < freq.toInt) {later : Int64}
    (ordered : ticks.toInt ≤ later.toInt) : exactNs ticks freq ≤ exactNs later freq :=
  Int.tdiv_le_tdiv positive (Int.mul_le_mul_of_nonneg_right ordered (by decide))

end Conversion

/-- Two readings of one clock, in their order. -/
inductive Reading.Precedes : Reading → Reading → Prop where
  | performanceCounter {counter later freq : Int64} (positive : 0 < freq.toInt)
      (ordered : counter ≤ later) :
      Precedes (.performanceCounter counter freq) (.performanceCounter later freq)
  | sameSecond {tvSec tvNsec later : Int64} (ordered : tvNsec ≤ later) :
      Precedes (.timespec tvSec tvNsec) (.timespec tvSec later)
  | laterSecond {tvSec tvNsec laterSec laterNsec : Int64} (ordered : tvSec < laterSec)
      (carried : tvNsec.toInt < 1000000000) (counted : 0 ≤ laterNsec.toInt) :
      Precedes (.timespec tvSec tvNsec) (.timespec laterSec laterNsec)

section Readings

variable {tvSec tvNsec ns laterNs : Int64} {earlier later : Reading}

theorem timespec_eq_ok (returned : monotonicNowNs (.timespec tvSec tvNsec) = .ok ns) :
    ns.toInt = tvSec.toInt * 1000000000 + tvNsec.toInt := by
  obtain ⟨wholeNs, scaled, returned⟩ := bind_eq_ok.mp returned
  obtain ⟨-, wholeIs⟩ := exactly_eq_ok.mp scaled
  obtain ⟨-, sumIs⟩ := exactly_eq_ok.mp returned
  rw [sumIs, wholeIs, toInt_second]

theorem Reading.Precedes.le (precedes : earlier.Precedes later)
    (returned : monotonicNowNs earlier = .ok ns)
    (laterReturned : monotonicNowNs later = .ok laterNs) :
    ns ≤ laterNs := by
  rw [Int64.le_iff_toInt_le]
  cases precedes with
  | performanceCounter positive ordered =>
    obtain ⟨-, exact⟩ := (ticksToNs_eq_ok positive).mp returned
    obtain ⟨-, laterExact⟩ := (ticksToNs_eq_ok positive).mp laterReturned
    rw [exact, laterExact]
    exact exactNs_mono positive (Int64.le_iff_toInt_le.mp ordered)
  | sameSecond ordered =>
    rw [timespec_eq_ok returned, timespec_eq_ok laterReturned]
    have nanoseconds := Int64.le_iff_toInt_le.mp ordered
    omega
  | laterSecond ordered carried counted =>
    rw [timespec_eq_ok returned, timespec_eq_ok laterReturned]
    have seconds := Int64.lt_iff_toInt_lt.mp ordered
    omega

/-- However often it is called, the clock never goes back. -/
theorem monotonicNowNs_sorted {readings : List Reading} {times : List Int64}
    (ordered : readings.Pairwise Reading.Precedes)
    (returned : readings.mapM monotonicNowNs = .ok times) : times.Pairwise (· ≤ ·) := by
  induction readings generalizing times with
  | nil =>
    cases returned
    exact .nil
  | cons reading rest ih =>
    rw [List.mapM_cons] at returned
    obtain ⟨time, read, returned⟩ := bind_eq_ok.mp returned
    obtain ⟨others, restRead, ⟨⟩⟩ := bind_eq_ok.mp returned
    obtain ⟨first, restOrdered⟩ := List.pairwise_cons.mp ordered
    refine List.pairwise_cons.mpr ⟨?_, ih restOrdered restRead⟩
    intro later member
    obtain ⟨laterReading, among, laterRead⟩ := exists_of_mem_mapM restRead later member
    exact (first laterReading among).le read laterRead

end Readings

/-- For every frequency up to 9223372037 ticks a second, and every count of ticks whose time in
nanoseconds fits, negative ones included: no operation overflows, the result is exact, and it
does not decrease with the count. -/
theorem ticks_to_ns_exact {freq : Int64} (least : 1 ≤ freq.toInt)
    (most : freq.toInt ≤ 9223372037) :
    (∀ ticks, Fits (exactNs ticks freq) → NoOverflow ticks freq ∧
      ∃ ns, ticksToNs ticks freq = .ok ns ∧ ns.toInt = exactNs ticks freq) ∧
    ∀ ticks later ns laterNs, ticks ≤ later → ticksToNs ticks freq = .ok ns →
      ticksToNs later freq = .ok laterNs → ns ≤ laterNs := by
  have positive : 0 < freq.toInt := by omega
  refine ⟨?_, ?_⟩
  · intro ticks fits
    have safe := noOverflow positive most fits
    obtain ⟨ns, exact⟩ := exists_toInt fits
    exact ⟨safe, ns, safe.returns positive exact, exact⟩
  · intro ticks later ns laterNs ordered returned laterReturned
    exact (Reading.Precedes.performanceCounter positive ordered).le returned laterReturned

/-- The smallest count of ticks at the largest frequency. -/
theorem ticks_to_ns_exact_limits :
    ticksToNs Int64.minValue 9223372037 = .ok (-999999999984254761) ∧
      NoOverflow Int64.minValue 9223372037 :=
  ⟨by decide, ((ticks_to_ns_exact (by decide) (by decide)).1 Int64.minValue (by decide)).1⟩

end Bintrade.Core.Clock
