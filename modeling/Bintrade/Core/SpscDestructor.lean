import Bintrade.Core.SpscFifo

/-! The destructor of the ring buffer pops until nothing comes back. It ends, takes out
what was left in order, and leaves no slot with a value of its own. -/

namespace Bintrade.Core.SpscQueue

open Bintrade.System

universe u

variable {T : Type u} {exponent : Nat} {element : Element T} {state after : State T}

def Consumer.isIdle : Consumer T → Bool
  | .idle => true
  | _ => false

theorem Consumer.isIdle_iff {consumer : Consumer T} :
    consumer.isIdle = true ↔ consumer = .idle := by
  cases consumer <;> simp [Consumer.isIdle]

/-- A `try_pop` call that no other thread interrupts. -/
def tryPop (exponent : Nat) (element : Element T) (state : State T) : State T × Option T :=
  if state.tail = state.head then ({ state with pops := state.pops ++ [none] }, none)
  else
    let index := slot exponent state.tail
    let result := state.buffer index
    ({ state with
        tail := state.tail + 1
        buffer := Function.update state.buffer index (element.movedFrom result)
        pops := state.pops ++ [some result] }, some result)

/-- `~SpscQueue`, with a bound on the number of rounds of its loop. -/
def destroy (exponent : Nat) (element : Element T) : Nat → State T → Option (State T)
  | 0, _ => none
  | fuel + 1, state =>
    match tryPop exponent element state with
    | (after, some _) => destroy exponent element fuel after
    | (after, none) => some after

section Uninterrupted

variable (exponent : Nat) (element : Element T) (state : State T)

theorem tryPop_consumer : (tryPop exponent element state).1.consumer = state.consumer := by
  unfold tryPop
  split <;> rfl

theorem tryPop_producer : (tryPop exponent element state).1.producer = state.producer := by
  unfold tryPop
  split <;> rfl

theorem tryPop_pushes : (tryPop exponent element state).1.pushes = state.pushes := by
  unfold tryPop
  split <;> rfl

theorem tryPop_pops :
    (tryPop exponent element state).1.pops =
      state.pops ++ [(tryPop exponent element state).2] := by
  unfold tryPop
  split <;> rfl

/-- The uninterrupted call is its shared accesses one after the other. -/
theorem tryPop_reachable (idle : state.consumer = .idle) :
    (machine exponent element).Reachable Machine.anyStep state
      (tryPop exponent element state).1 := by
  by_cases empty : state.tail = state.head
  · have evaluated : (machine exponent element).run Machine.anyStep state
        [.popLoadTail, .popLoadHead] = some (tryPop exponent element state).1 := by
      simp [Machine.run, Machine.anyStep, machine, step, tryPop, idle, empty]
    exact Machine.reachable_of_run evaluated
  · have evaluated : (machine exponent element).run Machine.anyStep state
        [.popLoadTail, .popLoadHead, .popReadSlot, .popStoreTail] =
          some (tryPop exponent element state).1 := by
      simp [Machine.run, Machine.anyStep, machine, step, tryPop, idle, empty]
    exact Machine.reachable_of_run evaluated

end Uninterrupted

/-- The call returns the oldest unread value, and nothing only when there is none. -/
theorem Invariant.tryPop (holds : Invariant exponent state) (element : Element T)
    (fits : exponent ≤ 63) (idle : state.consumer = .idle) {rest : List T}
    (split : state.accepted = state.returned ++ rest) :
    (tryPop exponent element state).2 = rest.head? := by
  have free : state.consumer.held = 0 := by rw [idle]; rfl
  have lengths : state.accepted.length = state.returned.length + rest.length := by
    rw [split, List.length_append]
  unfold SpscQueue.tryPop
  cases rest with
  | nil =>
    rw [if_pos ((holds.empty_iff fits).mpr (by simpa using lengths.symm))]
    rfl
  | cons value rest =>
    have nonempty : state.returned.length < state.accepted.length := by
      rw [lengths]
      simp
    rw [if_neg ((holds.empty_iff fits).not.mpr nonempty.ne)]
    have stored := holds.unreadStored state.returned.length (by omega) nonempty
    rw [← holds.slot_tail fits, split, List.getElem?_append_right (Nat.le_refl _), Nat.sub_self,
      List.getElem?_cons_zero] at stored
    exact stored.symm

/-- What is unread after a call that returned a value. -/
theorem accepted_tryPop {value : T} {rest : List T}
    (split : state.accepted = state.returned ++ value :: rest)
    (popped : (tryPop exponent element state).2 = some value) :
    (tryPop exponent element state).1.accepted =
      (tryPop exponent element state).1.returned ++ rest := by
  have grown : (tryPop exponent element state).1.returned = state.returned ++ [value] := by
    unfold State.returned
    rw [tryPop_pops, popped, returnedBy_append_some]
  have same : (tryPop exponent element state).1.accepted = state.accepted := by
    unfold State.accepted
    rw [tryPop_pushes]
  rw [grown, same, split, List.append_assoc]
  rfl

/-- The loop of the destructor takes out the unread values one by one and stops at the
first call that returns nothing. -/
theorem Invariant.destroy (holds : Invariant exponent state) (fits : exponent ≤ 63)
    (element : Element T) (idle : state.consumer = .idle) {rest : List T}
    (split : state.accepted = state.returned ++ rest) {fuel : Nat} (enough : rest.length < fuel) :
    ∃ after, destroy exponent element fuel state = some after ∧
      (machine exponent element).Reachable Machine.anyStep state after ∧
      after.consumer = .idle ∧ after.producer = state.producer ∧ after.pushes = state.pushes ∧
      after.pops = state.pops ++ rest.map some ++ [none] := by
  induction fuel generalizing state rest with
  | zero => omega
  | succ fuel ih =>
    have reached := tryPop_reachable exponent element state idle
    have popped := holds.tryPop element fits idle split
    have noted := tryPop_pops exponent element state
    cases rest with
    | nil =>
      have shape : SpscQueue.tryPop exponent element state = (_, none) := Prod.ext rfl popped
      refine ⟨(SpscQueue.tryPop exponent element state).1, ?_, reached, ?_, ?_, ?_, ?_⟩
      · rw [SpscQueue.destroy, shape]
      · rw [tryPop_consumer, idle]
      · rw [tryPop_producer]
      · rw [tryPop_pushes]
      · rw [noted, popped]
        simp
    | cons value rest =>
      have shape : SpscQueue.tryPop exponent element state = (_, some value) :=
        Prod.ext rfl popped
      obtain ⟨after, destroyed, onward, idleAfter, sameProducer, samePushes, drained⟩ :=
        ih (reachable_invariant reached fits holds)
          (by rw [tryPop_consumer, idle]) (accepted_tryPop split popped) (by simpa using enough)
      refine ⟨after, ?_, reached.trans onward, idleAfter, ?_, ?_, ?_⟩
      · rw [SpscQueue.destroy, shape]
        exact destroyed
      · rw [sameProducer, tryPop_producer]
      · rw [samePushes, tryPop_pushes]
      · rw [drained, noted, popped]
        simp

/-- A slot without a value of its own: never filled, or moved from. -/
def Vacated (element : Element T) (value : T) : Prop :=
  value = element.initial ∨ ∃ moved, value = element.movedFrom moved

/-- One when a `try_push` call has filled its slot and not yet stored the head. -/
def Producer.filled : Producer T → Nat
  | .written _ _ => 1
  | _ => 0

/-- Every slot with a value of its own belongs to a value not yet moved out. -/
def Accounted (exponent : Nat) (element : Element T) (state : State T) : Prop :=
  ∀ index, Vacated element (state.buffer index) ∨
    ∃ position, state.returned.length + state.consumer.held ≤ position ∧
      position < state.accepted.length + state.producer.filled ∧ position % 2 ^ exponent = index

theorem initial_accounted : Accounted exponent element (initial element) :=
  fun _ => .inl (.inl rfl)

/-- A step that touches no slot and publishes or returns nothing of its own. -/
theorem Accounted.settle (accounted : Accounted exponent element state)
    (buffer : after.buffer = state.buffer)
    (lower : after.returned.length + after.consumer.held =
      state.returned.length + state.consumer.held)
    (upper : after.accepted.length + after.producer.filled =
      state.accepted.length + state.producer.filled) :
    Accounted exponent element after := by
  unfold Accounted
  rw [buffer, lower, upper]
  exact accounted

theorem Accounted.writeSlot (accounted : Accounted exponent element state)
    (holds : Invariant exponent state) (fits : exponent ≤ 63) {value : T} {head : SizeT}
    (passed : state.producer = .checked value head) :
    Accounted exponent element { state with
      buffer := Function.update state.buffer (slot exponent head) value
      producer := .written value head } := by
  have checked := holds.producerHolds
  simp only [ProducerHolds, passed] at checked
  obtain ⟨current, -⟩ := checked
  have target : slot exponent head = state.accepted.length % 2 ^ exponent := by
    rw [current]
    exact holds.slot_head fits
  have bounded : state.returned.length + state.consumer.held ≤ state.accepted.length := by
    have pending := holds.consumerHolds
    have ordered := holds.inOrder.length_le
    cases place : state.consumer with
    | taken tail result =>
      simp only [ConsumerHolds, place] at pending
      exact (List.getElem?_eq_some_iff.mp pending.2).1
    | _ => exact ordered
  intro index
  by_cases same : index = slot exponent head
  · exact .inr ⟨state.accepted.length, bounded, Nat.lt_succ_self _, by rw [same, target]⟩
  · rcases accounted index with vacated | ⟨position, lower, upper, here⟩
    · exact .inl (by simpa [Function.update_of_ne same] using vacated)
    · rw [passed] at upper
      exact .inr ⟨position, lower, Nat.lt_succ_of_lt upper, here⟩

theorem Accounted.readSlot (accounted : Accounted exponent element state)
    (holds : Invariant exponent state) (fits : exponent ≤ 63) {tail : SizeT}
    (passed : state.consumer = .checked tail) :
    Accounted exponent element { state with
      buffer := Function.update state.buffer (slot exponent tail)
        (element.movedFrom (state.buffer (slot exponent tail)))
      consumer := .taken tail (state.buffer (slot exponent tail)) } := by
  have checked := holds.consumerHolds
  simp only [ConsumerHolds, passed] at checked
  obtain ⟨current, -⟩ := checked
  have target : slot exponent tail = state.returned.length % 2 ^ exponent := by
    rw [current]
    exact holds.slot_tail fits
  intro index
  by_cases same : index = slot exponent tail
  · refine .inl (.inr ⟨state.buffer (slot exponent tail), ?_⟩)
    simp only [same, Function.update_self]
  · rcases accounted index with vacated | ⟨position, lower, upper, here⟩
    · exact .inl (by simpa [Function.update_of_ne same] using vacated)
    · -- The oldest unread value sits in the slot that was read.
      have later : position ≠ state.returned.length := by
        rintro rfl
        exact same (here.symm.trans target.symm)
      rw [passed] at lower
      exact .inr ⟨position, Nat.lt_of_le_of_ne lower later.symm, upper, here⟩

theorem Accounted.step (accounted : Accounted exponent element state)
    (holds : Invariant exponent state) (fits : exponent ≤ 63) {label : Label T}
    (taken : (machine exponent element).step state label = some after) :
    Accounted exponent element after := by
  cases transition_of_step taken with
  | pushLoadHead value idle => exact accounted.settle rfl rfl (by rw [idle]; rfl)
  | pushFull loaded full =>
    refine accounted.settle rfl rfl ?_
    simp [State.accepted, loaded, Producer.filled]
  | pushChecked loaded room => exact accounted.settle rfl rfl (by rw [loaded]; rfl)
  | pushWriteSlot passed => exact accounted.writeSlot holds fits passed
  | pushStoreHead filled =>
    refine accounted.settle rfl rfl ?_
    simp [State.accepted, filled, Producer.filled]
  | popLoadTail idle => exact accounted.settle rfl (by rw [idle]; rfl) rfl
  | popEmpty loaded empty =>
    refine accounted.settle rfl ?_ rfl
    simp [State.returned, loaded, Consumer.held]
  | popChecked loaded nonempty => exact accounted.settle rfl (by rw [loaded]; rfl) rfl
  | popReadSlot passed => exact accounted.readSlot holds fits passed
  | popStoreTail moved =>
    refine accounted.settle rfl ?_ rfl
    simp [State.returned, moved, Consumer.held]

theorem reachable_accounted (fits : exponent ≤ 63)
    (reached : (machine exponent element).Reachable Machine.anyStep (initial element) state) :
    Accounted exponent element state := by
  induction reached with
  | start => exact initial_accounted
  | next earlier _ taken ih =>
    exact ih.step (reachable_invariant earlier fits initial_invariant) fits taken

/-- Once both threads are out of their calls, the destructor's loop ends after one call for
each unread value and one more. The values come out oldest first, every value ever accepted
has then been returned exactly once, and no slot keeps a value of its own. -/
theorem destructor_drains (fits : exponent ≤ 63)
    (reached : (machine exponent element).Reachable Machine.anyStep (initial element) state)
    (producerIdle : state.producer = .idle) (consumerIdle : state.consumer = .idle) {fuel : Nat}
    (enough : 2 ^ exponent < fuel) :
    ∃ after, destroy exponent element fuel state = some after ∧
      after.pops = state.pops ++ (unread exponent state).map some ++ [none] ∧
      after.returned = state.accepted ∧
      ∀ index, Vacated element (after.buffer index) := by
  have holds := reachable_invariant reached fits initial_invariant
  have whole := holds.accepted_eq_unread fits
  have few : (unread exponent state).length ≤ 2 ^ exponent := by
    have occupancy := holds.occupancy
    rw [whole, List.length_append] at occupancy
    omega
  obtain ⟨after, destroyed, onward, idleAfter, sameProducer, samePushes, drained⟩ :=
    holds.destroy fits element consumerIdle whole (few.trans_lt enough)
  have all : after.returned = state.accepted := by
    rw [whole, State.returned, drained, returnedBy_append_none]
    simp [returnedBy, State.returned, List.filterMap_append]
  have emptied : after.accepted = after.returned := by
    rw [all, State.accepted, samePushes, State.accepted]
  refine ⟨after, destroyed, drained, all, fun index => ?_⟩
  rcases reachable_accounted fits (reached.trans onward) index with vacated | ⟨_, lower, upper, -⟩
  · exact vacated
  · rw [idleAfter, emptied, sameProducer, producerIdle] at *
    simp only [Consumer.held, Producer.filled] at lower upper
    omega

/-- Two pointers are inside and one was returned when the queue is destroyed. -/
theorem destructor_drains_pointers :
    ∃ state : State (Option Nat),
      (machine 1 uniquePtr).Reachable Machine.anyStep (initial uniquePtr) state ∧
        (state.producer.isIdle ∧ state.consumer.isIdle ∧ unread 1 state = [some 8, some 9]) ∧
          ∃ after, destroy 1 uniquePtr 3 state = some after ∧
            after.pops = state.pops ++ (unread 1 state).map some ++ [none] ∧
            after.returned = state.accepted ∧
            ∀ index, Vacated uniquePtr (after.buffer index) := by
  have filled : ∃ state : State (Option Nat),
      (machine 1 uniquePtr).Reachable Machine.anyStep (initial uniquePtr) state ∧
        (state.producer.isIdle ∧ state.consumer.isIdle ∧ unread 1 state = [some 8, some 9]) :=
    Machine.exists_reachable_of_run
      [.pushLoadHead (some 7), .pushLoadTail, .pushWriteSlot, .pushStoreHead,
        .popLoadTail, .popLoadHead, .popReadSlot, .popStoreTail,
        .pushLoadHead (some 8), .pushLoadTail, .pushWriteSlot, .pushStoreHead,
        .pushLoadHead (some 9), .pushLoadTail, .pushWriteSlot, .pushStoreHead] (by decide)
  obtain ⟨state, reached, producerIdle, consumerIdle, inside⟩ := filled
  exact ⟨state, reached, ⟨producerIdle, consumerIdle, inside⟩, destructor_drains (by decide) reached
    (Producer.isIdle_iff.mp producerIdle) (Consumer.isIdle_iff.mp consumerIdle) (by decide)⟩

end Bintrade.Core.SpscQueue
