import Bintrade.Core.SpscInvariant

/-! `size_approx`, called from one more thread while the producer and the consumer run. It
loads the head before the tail, so the consumer may go past the head that it loaded. -/

namespace Bintrade.Core.SpscQueue

open Bintrade.System

universe u

variable {T : Type u} {exponent : Nat} {element : Element T}

/-- Where one `size_approx` call stands: the head it loaded, and how many values had been
accepted by then. -/
inductive Sizer where
  | idle
  | loadedHead (head : SizeT) (accepted : Nat)

/-- The queue with one more thread, and what its `size_approx` calls returned. -/
structure Sized (T : Type u) where
  queue : State T
  sizer : Sizer
  sizes : List SizeT

inductive SizedLabel (T : Type u) where
  | queue (label : Label T)
  | sizeLoadHead
  | sizeLoadTail

def Sized.initial (element : Element T) : Sized T where
  queue := SpscQueue.initial element
  sizer := .idle
  sizes := []

def Sized.step (exponent : Nat) (element : Element T) (state : Sized T) :
    SizedLabel T → Option (Sized T)
  | .queue label =>
    match SpscQueue.step exponent element state.queue label with
    | some queue => some { state with queue := queue }
    | none => none
  | .sizeLoadHead =>
    match state.sizer with
    | .idle =>
      some { state with sizer := .loadedHead state.queue.head state.queue.accepted.length }
    | .loadedHead _ _ => none
  | .sizeLoadTail =>
    match state.sizer with
    | .idle => none
    | .loadedHead head _ =>
      some { state with sizer := .idle, sizes := state.sizes ++ [head - state.queue.tail] }

def Sized.machine (exponent : Nat) (element : Element T) : Machine (Sized T) (SizedLabel T) where
  step := Sized.step exponent element

/-- How many values that the consumer got were accepted after the head load. -/
def overtaken (accepted : Nat) (queue : State T) : Nat := queue.returned.length - accepted

/-- The consumer has not gone past the head that was loaded, or so far that its counter
came round to it again. -/
def withinReach (exponent : Nat) (state : Sized T) : SizedLabel T → Bool
  | .sizeLoadTail =>
    match state.sizer with
    | .idle => true
    | .loadedHead _ accepted =>
      overtaken accepted state.queue % 2 ^ 64 = 0 ||
        2 ^ 64 - 2 ^ exponent ≤ overtaken accepted state.queue % 2 ^ 64
  | _ => true

def notOvertaken (exponent : Nat) (state : Sized T) (label : SizedLabel T) : Prop :=
  withinReach exponent state label = true

instance (exponent : Nat) (state : Sized T) (label : SizedLabel T) :
    Decidable (notOvertaken exponent state label) :=
  inferInstanceAs (Decidable (withinReach exponent state label = true))

/-- The head that a call has loaded was shown at most one capacity ahead of the consumer. -/
structure SizedInvariant (exponent : Nat) (state : Sized T) : Prop where
  queueHolds : Invariant exponent state.queue
  snapshot : ∀ head accepted, state.sizer = .loadedHead head accepted →
    head = Counter.shown 64 accepted ∧
      accepted ≤ state.queue.returned.length + 2 ^ exponent

section Sized

variable {state after : Sized T} {label : SizedLabel T}

theorem returned_length_le {queue later : State T} {label : Label T}
    (taken : (SpscQueue.machine exponent element).step queue label = some later) :
    queue.returned.length ≤ later.returned.length := by
  cases transition_of_step taken with
  | popEmpty loaded empty => simp [State.returned]
  | popStoreTail moved => simp [State.returned]
  | _ => exact Nat.le_refl _

theorem SizedInvariant.initial : SizedInvariant exponent (Sized.initial element) where
  queueHolds := initial_invariant
  snapshot := nofun

theorem SizedInvariant.step (holds : SizedInvariant exponent state) (fits : exponent ≤ 63)
    (taken : (Sized.machine exponent element).step state label = some after) :
    SizedInvariant exponent after := by
  cases label with
  | queue label =>
    simp only [Sized.machine, Sized.step] at taken
    split at taken
    · rename_i queue moved
      cases taken
      refine ⟨holds.queueHolds.step fits moved, ?_⟩
      intro head accepted loaded
      obtain ⟨shown, near⟩ := holds.snapshot head accepted loaded
      exact ⟨shown, near.trans (Nat.add_le_add_right (returned_length_le moved) _)⟩
    · cases taken
  | sizeLoadHead =>
    simp only [Sized.machine, Sized.step] at taken
    split at taken
    · cases taken
      refine ⟨holds.queueHolds, ?_⟩
      intro head accepted loaded
      cases loaded
      exact ⟨holds.queueHolds.headShown, holds.queueHolds.occupancy⟩
    · cases taken
  | sizeLoadTail =>
    simp only [Sized.machine, Sized.step] at taken
    split at taken
    · cases taken
    · cases taken
      exact ⟨holds.queueHolds, nofun⟩

/-- What a call returns at its tail load. -/
theorem SizedInvariant.size_le_iff (holds : SizedInvariant exponent state) (fits : exponent ≤ 63)
    {head : SizeT} {accepted : Nat} (loaded : state.sizer = .loadedHead head accepted) :
    (head - state.queue.tail).toNat ≤ 2 ^ exponent ↔
      notOvertaken exponent state .sizeLoadTail := by
  obtain ⟨shown, near⟩ := holds.snapshot head accepted loaded
  have small : 2 ^ exponent ≤ 2 ^ 63 := Nat.pow_le_pow_right (by decide) fits
  have positive : 0 < 2 ^ exponent := Nat.two_pow_pos exponent
  simp only [notOvertaken, withinReach, loaded, Bool.or_eq_true, decide_eq_true_eq]
  rw [shown, holds.queueHolds.tailShown, overtaken]
  by_cases ahead : state.queue.returned.length ≤ accepted
  · rw [Counter.distance_toNat ahead (by omega)]
    omega
  · rw [Counter.distance_toNat_of_le (by omega)]
    have wrapped : (state.queue.returned.length - accepted) % 2 ^ 64 < 2 ^ 64 :=
      Nat.mod_lt _ (by decide)
    omega

/-- A size out of range is returned by the step that is not permitted, and stays. -/
theorem SizedInvariant.bad_step (holds : SizedInvariant exponent state) (fits : exponent ≤ 63)
    (taken : (Sized.machine exponent element).step state label = some after) :
    (∃ size ∈ after.sizes, 2 ^ exponent < size.toNat) ↔
      (∃ size ∈ state.sizes, 2 ^ exponent < size.toNat) ∨ ¬ notOvertaken exponent state label := by
  cases label with
  | queue label =>
    simp only [Sized.machine, Sized.step] at taken
    split at taken
    · cases taken
      exact (or_iff_left (not_not_intro rfl)).symm
    · cases taken
  | sizeLoadHead =>
    simp only [Sized.machine, Sized.step] at taken
    split at taken
    · cases taken
      exact (or_iff_left (not_not_intro rfl)).symm
    · cases taken
  | sizeLoadTail =>
    simp only [Sized.machine, Sized.step] at taken
    split at taken
    · cases taken
    · rename_i head accepted loaded
      cases taken
      rw [← holds.size_le_iff fits loaded, Nat.not_le]
      constructor
      · rintro ⟨size, member, beyond⟩
        rcases List.mem_append.mp member with earlier | last
        · exact .inl ⟨size, earlier, beyond⟩
        · rw [List.mem_singleton.mp last] at beyond
          exact .inr beyond
      · rintro (⟨size, member, beyond⟩ | beyond)
        · exact ⟨size, List.mem_append_left _ member, beyond⟩
        · exact ⟨_, List.mem_append_right _ (List.mem_singleton_self _), beyond⟩

end Sized

/-- In every interleaving, the sizes returned are all within the capacity exactly if the
run is one in which no call finds, at its tail load, that the consumer went past the head
that it loaded. -/
theorem size_in_range_iff (fits : exponent ≤ 63) {state : Sized T}
    (reached : (Sized.machine exponent element).Reachable Machine.anyStep (Sized.initial element)
      state) :
    (∀ size ∈ state.sizes, size.toNat ≤ 2 ^ exponent) ↔
      (Sized.machine exponent element).Reachable (notOvertaken exponent) (Sized.initial element)
        state := by
  have invariant {reachedState : Sized T}
      (run : (Sized.machine exponent element).Reachable Machine.anyStep (Sized.initial element)
        reachedState) : SizedInvariant exponent reachedState :=
    run.invariant SizedInvariant.initial fun holds _ taken => holds.step fits taken
  have good : ¬ (∃ size ∈ state.sizes, 2 ^ exponent < size.toNat) ↔
      (Sized.machine exponent element).Reachable (notOvertaken exponent) (Sized.initial element)
        state := by
    apply Machine.Reachable.good_iff reached
    · rintro ⟨size, member, -⟩
      cases member
    · intro before after label run taken
      exact (invariant run).bad_step fits taken
  rw [← good]
  constructor
  · rintro within ⟨size, member, beyond⟩
    have bound := within size member
    omega
  · intro none size member
    by_contra beyond
    exact none ⟨size, member, by omega⟩

/-- The steps of one `try_push` and one `try_pop`. -/
def pushThenPop : List (SizedLabel Nat) :=
  [.queue (.pushLoadHead 7), .queue .pushLoadTail, .queue .pushWriteSlot, .queue .pushStoreHead,
    .queue .popLoadTail, .queue .popLoadHead, .queue .popReadSlot, .queue .popStoreTail]

/-- A call that sees the tail of an emptied queue after the head of a queue with one
value. -/
theorem size_in_range_stale :
    ∃ state : Sized Nat,
      (Sized.machine 2 ⟨0, fun _ => 0⟩).Reachable Machine.anyStep
        (Sized.initial ⟨0, fun _ => 0⟩) state ∧
        state.sizes = [0] ∧ ∀ size ∈ state.sizes, size.toNat ≤ 2 ^ 2 := by
  have stale : ∃ state : Sized Nat,
      (Sized.machine 2 ⟨0, fun _ => 0⟩).Reachable (notOvertaken 2)
        (Sized.initial ⟨0, fun _ => 0⟩) state ∧ state.sizes = [0] :=
    Machine.exists_reachable_of_run
      (pushThenPop.take 4 ++ [.sizeLoadHead] ++ pushThenPop.drop 4 ++ [.sizeLoadTail]) (by decide)
  obtain ⟨state, reached, sizes⟩ := stale
  exact ⟨state, reached.free, sizes, (size_in_range_iff (by decide) reached.free).mpr reached⟩

/-- Between the two loads a value is pushed and popped: the difference wraps around. -/
theorem size_wraps_around :
    ∃ state : Sized Nat,
      (Sized.machine 2 ⟨0, fun _ => 0⟩).Reachable Machine.anyStep
        (Sized.initial ⟨0, fun _ => 0⟩) state ∧
        (state.sizes = [-1] ∧
          ¬ ∀ size ∈ state.sizes, size.toNat ≤ 2 ^ 2) :=
  Machine.exists_reachable_of_run ([.sizeLoadHead] ++ pushThenPop ++ [.sizeLoadTail])
    (by decide +kernel)

end Bintrade.Core.SpscQueue
