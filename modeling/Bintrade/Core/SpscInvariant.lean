import Bintrade.Core.SpscQueue

/-! The counters of the ring buffer show how many values were accepted and
returned, and every accepted value that is still unread sits in its slot. -/

namespace Bintrade.Core.SpscQueue

open Bintrade.System

universe u

variable {T : Type u} {exponent : Nat} {element : Element T} {state after : State T}

/-- One when a `try_pop` call has moved its value out of the slot and not yet
stored the tail. -/
def Consumer.held : Consumer T → Nat
  | .taken _ _ => 1
  | _ => 0

def ProducerHolds (exponent : Nat) (state : State T) : Prop :=
  match state.producer with
  | .idle => True
  | .loadedHead _ head => head = state.head
  | .checked _ head =>
    head = state.head ∧ state.accepted.length < state.returned.length + 2 ^ exponent
  | .written value head =>
    head = state.head ∧ state.accepted.length < state.returned.length + 2 ^ exponent ∧
      state.buffer (state.accepted.length % 2 ^ exponent) = value

def ConsumerHolds (state : State T) : Prop :=
  match state.consumer with
  | .idle => True
  | .loadedTail tail => tail = state.tail
  | .checked tail => tail = state.tail ∧ state.returned.length < state.accepted.length
  | .taken tail result =>
    tail = state.tail ∧ state.accepted[state.returned.length]? = some result

structure Invariant (exponent : Nat) (state : State T) : Prop where
  headShown : state.head = Counter.shown 64 state.accepted.length
  tailShown : state.tail = Counter.shown 64 state.returned.length
  inOrder : state.returned <+: state.accepted
  occupancy : state.accepted.length ≤ state.returned.length + 2 ^ exponent
  unreadStored : ∀ index, state.returned.length + state.consumer.held ≤ index →
    index < state.accepted.length →
    state.accepted[index]? = some (state.buffer (index % 2 ^ exponent))
  producerHolds : ProducerHolds exponent state
  consumerHolds : ConsumerHolds state

theorem capacity_toNat (fits : exponent ≤ 63) : (capacity exponent).toNat = 2 ^ exponent := by
  have small : 2 ^ exponent < 2 ^ 64 := Nat.pow_lt_pow_right (by decide) (by omega)
  simp only [capacity, BitVec.toNat_ofNat]
  exact Nat.mod_eq_of_lt small

theorem kMask_eq (exponent : Nat) : kMask exponent = BitVec.ofNat 64 (2 ^ exponent - 1) := by
  have positive : 0 < 2 ^ exponent := Nat.two_pow_pos exponent
  have split : BitVec.ofNat 64 (2 ^ exponent) = BitVec.ofNat 64 (2 ^ exponent - 1) + 1 := by
    rw [show (1 : BitVec 64) = BitVec.ofNat 64 1 from rfl, ← BitVec.ofNat_add,
      Nat.sub_add_cancel positive]
  rw [kMask, capacity, split]
  exact BitVec.add_sub_cancel _ _

theorem slot_shown (fits : exponent ≤ 63) (count : Nat) :
    slot exponent (Counter.shown 64 count) = count % 2 ^ exponent := by
  rw [slot, kMask_eq]
  exact Counter.masked_toNat (by omega) count

theorem initial_invariant : Invariant exponent (initial element) where
  headShown := rfl
  tailShown := rfl
  inOrder := List.prefix_refl _
  occupancy := by simp [initial, State.accepted, acceptedBy]
  unreadStored := by simp [initial, State.accepted, acceptedBy]
  producerHolds := trivial
  consumerHolds := trivial

/-- The wrapping distance of the two counters is the number of unread values. -/
theorem Invariant.distance (holds : Invariant exponent state) (fits : exponent ≤ 63) :
    (state.head - state.tail).toNat = state.accepted.length - state.returned.length := by
  have small : 2 ^ exponent < 2 ^ 64 := Nat.pow_lt_pow_right (by decide) (by omega)
  have occupancy := holds.occupancy
  rw [holds.headShown, holds.tailShown]
  exact Counter.distance_toNat holds.inOrder.length_le (by omega)

theorem Invariant.full_iff (holds : Invariant exponent state) (fits : exponent ≤ 63) :
    state.head - state.tail ≥ capacity exponent ↔
      state.accepted.length = state.returned.length + 2 ^ exponent := by
  have occupancy := holds.occupancy
  have ordered := holds.inOrder.length_le
  rw [ge_iff_le, BitVec.le_def, capacity_toNat fits, holds.distance fits]
  omega

theorem Invariant.empty_iff (holds : Invariant exponent state) (fits : exponent ≤ 63) :
    state.tail = state.head ↔ state.returned.length = state.accepted.length := by
  have small : 2 ^ exponent < 2 ^ 64 := Nat.pow_lt_pow_right (by decide) (by omega)
  have occupancy := holds.occupancy
  rw [holds.headShown, holds.tailShown]
  exact Counter.shown_eq_iff holds.inOrder.length_le (by omega)

theorem Invariant.slot_head (holds : Invariant exponent state) (fits : exponent ≤ 63) :
    slot exponent state.head = state.accepted.length % 2 ^ exponent := by
  rw [holds.headShown]
  exact slot_shown fits _

theorem Invariant.slot_tail (holds : Invariant exponent state) (fits : exponent ≤ 63) :
    slot exponent state.tail = state.returned.length % 2 ^ exponent := by
  rw [holds.tailShown]
  exact slot_shown fits _

/-- Writing the slot of the head leaves every unread value where it is. -/
theorem Invariant.writeSlot (holds : Invariant exponent state) (fits : exponent ≤ 63)
    {value : T} {head : SizeT} (passed : state.producer = .checked value head) :
    Invariant exponent { state with
      buffer := Function.update state.buffer (slot exponent head) value
      producer := .written value head } := by
  have checked := holds.producerHolds
  simp only [ProducerHolds, passed] at checked
  obtain ⟨current, room⟩ := checked
  have target : slot exponent head = state.accepted.length % 2 ^ exponent := by
    rw [current]
    exact holds.slot_head fits
  refine ⟨holds.headShown, holds.tailShown, holds.inOrder, holds.occupancy, ?_, ?_, ?_⟩
  · intro index (unread : state.returned.length + state.consumer.held ≤ index)
      (written : index < state.accepted.length)
    have elsewhere : index % 2 ^ exponent ≠ state.accepted.length % 2 ^ exponent := by
      intro same
      exact written.ne (Counter.slot_injective written.le (by omega) same)
    simp only [target, Function.update_of_ne elsewhere]
    exact holds.unreadStored index unread written
  · refine ⟨current, room, ?_⟩
    show Function.update state.buffer (slot exponent head) value
      (state.accepted.length % 2 ^ exponent) = value
    rw [target, Function.update_self]
  · exact holds.consumerHolds

/-- Storing the head publishes exactly the value written to its slot. -/
theorem Invariant.storeHead (holds : Invariant exponent state) {value : T} {head : SizeT}
    (filled : state.producer = .written value head) :
    Invariant exponent { state with
      head := head + 1, producer := .idle, pushes := state.pushes ++ [(value, true)] } := by
  have written := holds.producerHolds
  simp only [ProducerHolds, filled] at written
  obtain ⟨current, room, stored⟩ := written
  have grown : State.accepted { state with
      head := head + 1, producer := .idle, pushes := state.pushes ++ [(value, true)] } =
        state.accepted ++ [value] := acceptedBy_append_true _ _
  refine ⟨?_, holds.tailShown, ?_, ?_, ?_, trivial, ?_⟩
  · rw [grown, List.length_append, List.length_singleton, ← Counter.shown_succ,
      ← holds.headShown, ← current]
  · rw [grown]
    exact holds.inOrder.trans (List.prefix_append _ _)
  · rw [grown, List.length_append, List.length_singleton]
    exact room
  · rw [grown]
    intro index unread published
    by_cases old : index < state.accepted.length
    · rw [List.getElem?_append_left old]
      exact holds.unreadStored index unread old
    · rw [List.length_append, List.length_singleton] at published
      obtain rfl : index = state.accepted.length := by omega
      rw [List.getElem?_concat_length, stored]
  · have pending := holds.consumerHolds
    simp only [ConsumerHolds, grown] at pending ⊢
    split at pending
    · trivial
    · exact pending
    · refine ⟨pending.1, ?_⟩
      rw [List.length_append]
      exact Nat.lt_add_right _ pending.2
    · refine ⟨pending.1, ?_⟩
      have present := (List.getElem?_eq_some_iff.mp pending.2).1
      exact (List.getElem?_append_left present).trans pending.2

/-- Moving a value out of the slot of the tail disturbs no later value and no
slot the producer is filling. -/
theorem Invariant.readSlot (holds : Invariant exponent state) (fits : exponent ≤ 63)
    {tail : SizeT} (passed : state.consumer = .checked tail) :
    Invariant exponent { state with
      buffer := Function.update state.buffer (slot exponent tail)
        (element.movedFrom (state.buffer (slot exponent tail)))
      consumer := .taken tail (state.buffer (slot exponent tail)) } := by
  have checked := holds.consumerHolds
  simp only [ConsumerHolds, passed] at checked
  obtain ⟨current, nonempty⟩ := checked
  have target : slot exponent tail = state.returned.length % 2 ^ exponent := by
    rw [current]
    exact holds.slot_tail fits
  have free : state.consumer.held = 0 := by rw [passed]; rfl
  have occupancy := holds.occupancy
  refine ⟨holds.headShown, holds.tailShown, holds.inOrder, holds.occupancy, ?_, ?_, ?_⟩
  · intro index (unread : state.returned.length + 1 ≤ index)
      (written : index < state.accepted.length)
    have elsewhere : index % 2 ^ exponent ≠ state.returned.length % 2 ^ exponent := by
      intro same
      have reused := Counter.slot_injective (by omega) (by omega) same.symm
      omega
    simp only [target, Function.update_of_ne elsewhere]
    exact holds.unreadStored index (by omega) written
  · have pending := holds.producerHolds
    simp only [ProducerHolds] at pending ⊢
    split at pending
    · trivial
    · exact pending
    · exact pending
    · obtain ⟨same, room, stored⟩ := pending
      have elsewhere : state.accepted.length % 2 ^ exponent ≠
          state.returned.length % 2 ^ exponent := by
        intro shared
        have reused := Counter.slot_injective nonempty.le room shared.symm
        omega
      refine ⟨same, room, ?_⟩
      show Function.update state.buffer (slot exponent tail) _
        (state.accepted.length % 2 ^ exponent) = _
      rw [target, Function.update_of_ne elsewhere]
      exact stored
  · refine ⟨current, ?_⟩
    show state.accepted[state.returned.length]? = some (state.buffer (slot exponent tail))
    rw [target]
    exact holds.unreadStored _ (by omega) nonempty

/-- Storing the tail returns exactly the next accepted value. -/
theorem Invariant.storeTail (holds : Invariant exponent state) {result : T} {tail : SizeT}
    (moved : state.consumer = .taken tail result) :
    Invariant exponent { state with
      tail := tail + 1, consumer := .idle, pops := state.pops ++ [some result] } := by
  have held := holds.consumerHolds
  simp only [ConsumerHolds, moved] at held
  obtain ⟨current, next⟩ := held
  have grown : State.returned { state with
      tail := tail + 1, consumer := .idle, pops := state.pops ++ [some result] } =
        state.returned ++ [result] := returnedBy_append_some _ _
  have pending : state.consumer.held = 1 := by rw [moved]; rfl
  refine ⟨holds.headShown, ?_, ?_, ?_, ?_, ?_, trivial⟩
  · rw [grown, List.length_append, List.length_singleton, ← Counter.shown_succ,
      ← holds.tailShown, ← current]
  · rw [grown]
    obtain ⟨rest, split⟩ := holds.inOrder
    show state.returned ++ [result] <+: state.accepted
    rw [← split, List.getElem?_append_right (Nat.le_refl _), Nat.sub_self] at next
    cases rest with
    | nil => cases next
    | cons head rest =>
      cases next
      exact ⟨rest, by simpa using split⟩
  · rw [grown, List.length_append]
    exact holds.occupancy.trans (by omega)
  · rw [grown]
    intro index unread written
    rw [List.length_append, List.length_singleton] at unread
    exact holds.unreadStored index (by rw [pending]; exact unread) written
  · have filling := holds.producerHolds
    simp only [ProducerHolds, grown, List.length_append] at filling ⊢
    split at filling
    · trivial
    · exact filling
    · exact ⟨filling.1, by have room := filling.2; show state.accepted.length < _; omega⟩
    · exact ⟨filling.1, by have room := filling.2.1; show state.accepted.length < _; omega,
        filling.2.2⟩

/-- A step that moves no counter and no slot, and completes at most a call that
had no effect, only has to place its own thread. -/
theorem Invariant.settle (holds : Invariant exponent state) {producer : Producer T}
    {consumer : Consumer T} {pushes : List (T × Bool)} {pops : List (Option T)}
    (accepted : acceptedBy pushes = state.accepted) (returned : returnedBy pops = state.returned)
    (held : consumer.held = state.consumer.held)
    (producerHolds : ProducerHolds exponent { state with producer := producer })
    (consumerHolds : ConsumerHolds { state with consumer := consumer }) :
    Invariant exponent { state with
      producer := producer, consumer := consumer, pushes := pushes, pops := pops } := by
  have sameAccepted : State.accepted { state with
      producer := producer, consumer := consumer, pushes := pushes, pops := pops } =
        state.accepted := accepted
  have sameReturned : State.returned { state with
      producer := producer, consumer := consumer, pushes := pushes, pops := pops } =
        state.returned := returned
  refine ⟨?_, ?_, ?_, ?_, ?_, ?_, ?_⟩
  · rw [sameAccepted]
    exact holds.headShown
  · rw [sameReturned]
    exact holds.tailShown
  · rw [sameAccepted, sameReturned]
    exact holds.inOrder
  · rw [sameAccepted, sameReturned]
    exact holds.occupancy
  · rw [sameAccepted, sameReturned, held]
    exact holds.unreadStored
  · simp only [ProducerHolds, sameAccepted, sameReturned]
    exact producerHolds
  · simp only [ConsumerHolds, sameAccepted, sameReturned]
    exact consumerHolds

theorem Invariant.step {label : Label T} (holds : Invariant exponent state)
    (fits : exponent ≤ 63)
    (taken : (machine exponent element).step state label = some after) :
    Invariant exponent after := by
  cases transition_of_step taken with
  | pushLoadHead value idle => exact holds.settle rfl rfl rfl rfl holds.consumerHolds
  | pushFull loaded full =>
    exact holds.settle (acceptedBy_append_false _ _) rfl rfl trivial holds.consumerHolds
  | pushChecked loaded room =>
    have current := holds.producerHolds
    simp only [ProducerHolds, loaded] at current
    have notFull := (holds.full_iff fits).not.mp (by rw [← current]; exact room)
    exact holds.settle rfl rfl rfl ⟨current, holds.occupancy.lt_of_ne notFull⟩
      holds.consumerHolds
  | pushWriteSlot passed => exact holds.writeSlot fits passed
  | pushStoreHead filled => exact holds.storeHead filled
  | popLoadTail idle =>
    exact holds.settle rfl rfl (by rw [idle]; rfl) holds.producerHolds rfl
  | popEmpty loaded empty =>
    exact holds.settle rfl (returnedBy_append_none _) (by rw [loaded]; rfl)
      holds.producerHolds trivial
  | popChecked loaded nonempty =>
    have current := holds.consumerHolds
    simp only [ConsumerHolds, loaded] at current
    have notEmpty := (holds.empty_iff fits).not.mp (by rw [← current]; exact nonempty)
    exact holds.settle rfl rfl (by rw [loaded]; rfl) holds.producerHolds
      ⟨current, holds.inOrder.length_le.lt_of_ne notEmpty⟩
  | popReadSlot passed => exact holds.readSlot fits passed
  | popStoreTail moved => exact holds.storeTail moved

theorem reachable_invariant {start : State T} {permitted : State T → Label T → Prop}
    (reached : (machine exponent element).Reachable permitted start state)
    (fits : exponent ≤ 63) (initially : Invariant exponent start) :
    Invariant exponent state :=
  reached.invariant initially (fun holds _ taken => holds.step fits taken)

/-- The slot of a `try_push` call between its full check and its head store. -/
def Producer.slot? (exponent : Nat) : Producer T → Option Nat
  | .checked _ head => some (slot exponent head)
  | .written _ head => some (slot exponent head)
  | _ => none

/-- The slot of a `try_pop` call between its empty check and its tail store. -/
def Consumer.slot? (exponent : Nat) : Consumer T → Option Nat
  | .checked tail => some (slot exponent tail)
  | .taken tail _ => some (slot exponent tail)
  | _ => none

theorem Invariant.producer_slot (holds : Invariant exponent state) (fits : exponent ≤ 63)
    {index : Nat} (filling : state.producer.slot? exponent = some index) :
    index = state.accepted.length % 2 ^ exponent ∧
      state.accepted.length < state.returned.length + 2 ^ exponent := by
  have checked := holds.producerHolds
  cases location : state.producer with
  | idle | loadedHead value head =>
    rw [location] at filling
    cases filling
  | checked value head =>
    rw [location] at filling
    simp only [ProducerHolds, location] at checked
    obtain ⟨current, room⟩ := checked
    cases filling
    rw [current, holds.slot_head fits]
    exact ⟨rfl, room⟩
  | written value head =>
    rw [location] at filling
    simp only [ProducerHolds, location] at checked
    obtain ⟨current, room, -⟩ := checked
    cases filling
    rw [current, holds.slot_head fits]
    exact ⟨rfl, room⟩

theorem Invariant.consumer_slot (holds : Invariant exponent state) (fits : exponent ≤ 63)
    {index : Nat} (reading : state.consumer.slot? exponent = some index) :
    index = state.returned.length % 2 ^ exponent ∧
      state.returned.length < state.accepted.length := by
  have checked := holds.consumerHolds
  cases location : state.consumer with
  | idle | loadedTail tail =>
    rw [location] at reading
    cases reading
  | checked tail =>
    rw [location] at reading
    simp only [ConsumerHolds, location] at checked
    obtain ⟨current, nonempty⟩ := checked
    cases reading
    rw [current, holds.slot_tail fits]
    exact ⟨rfl, nonempty⟩
  | taken tail result =>
    rw [location] at reading
    simp only [ConsumerHolds, location] at checked
    obtain ⟨current, next⟩ := checked
    cases reading
    rw [current, holds.slot_tail fits]
    exact ⟨rfl, (List.getElem?_eq_some_iff.mp next).1⟩

/-- In every interleaving, at every capacity and across counter wraps, a `try_push` call
that has found room and a `try_pop` call that has found a value work on different slots. -/
theorem slots_never_shared (fits : exponent ≤ 63)
    (reached : (machine exponent element).Reachable Machine.anyStep (initial element) state) :
    ¬ ∃ index, state.producer.slot? exponent = some index ∧
      state.consumer.slot? exponent = some index := by
  rintro ⟨index, filling, reading⟩
  have holds := reachable_invariant reached fits initial_invariant
  obtain ⟨written, room⟩ := holds.producer_slot fits filling
  obtain ⟨read, nonempty⟩ := holds.consumer_slot fits reading
  have same := Counter.slot_injective nonempty.le room (read.symm.trans written)
  omega

/-- A queue of two slots, one filled and one being filled, whose first value is being
taken out. -/
theorem slots_apart_while_filling :
    ∃ state : State Nat,
      (machine 1 ⟨0, fun _ => 0⟩).Reachable Machine.anyStep (initial ⟨0, fun _ => 0⟩) state ∧
        (state.producer.slot? 1 = some 1 ∧ state.consumer.slot? 1 = some 0) ∧
          ¬ ∃ index, state.producer.slot? 1 = some index ∧
            state.consumer.slot? 1 = some index := by
  have busy : ∃ state : State Nat,
      (machine 1 ⟨0, fun _ => 0⟩).Reachable Machine.anyStep (initial ⟨0, fun _ => 0⟩) state ∧
        (state.producer.slot? 1 = some 1 ∧ state.consumer.slot? 1 = some 0) :=
    Machine.exists_reachable_of_run
      [.pushLoadHead 7, .pushLoadTail, .pushWriteSlot, .pushStoreHead, .pushLoadHead 8,
        .pushLoadTail, .popLoadTail, .popLoadHead] (by decide)
  obtain ⟨state, reached, slots⟩ := busy
  exact ⟨state, reached, slots, slots_never_shared (by decide) reached⟩

end Bintrade.Core.SpscQueue
