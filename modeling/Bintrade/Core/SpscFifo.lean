import Bintrade.Core.SpscInvariant

/-! The ring buffer is a lossless first-in first-out channel: what the consumer
got, followed by what is still unread, is what the producer was told it sent. -/

namespace Bintrade.Core.SpscQueue

open Bintrade.System

universe u

variable {T : Type u} {exponent : Nat} {element : Element T} {state after : State T}

/-- The slots `tail_ .. head_ - 1` masked by `k_mask`, read in order. -/
def contents (exponent : Nat) (state : State T) : List T :=
  (List.range (state.head - state.tail).toNat).map fun offset =>
    state.buffer (slot exponent (state.tail + BitVec.ofNat 64 offset))

/-- The unread values. While a `try_pop` call has moved its value out of the
first slot and not yet stored the tail, that value is in the call's result. -/
def unread (exponent : Nat) (state : State T) : List T :=
  match state.consumer with
  | .taken _ result => result :: (contents exponent state).tail
  | _ => contents exponent state

theorem Invariant.contents_length (holds : Invariant exponent state) (fits : exponent ≤ 63) :
    (contents exponent state).length = state.accepted.length - state.returned.length := by
  rw [contents, List.length_map, List.length_range]
  exact holds.distance fits

theorem Invariant.contents_get (holds : Invariant exponent state) (fits : exponent ≤ 63)
    {offset : Nat} (present : state.returned.length + offset < state.accepted.length) :
    (contents exponent state)[offset]? =
      some (state.buffer ((state.returned.length + offset) % 2 ^ exponent)) := by
  have inside : offset < (state.head - state.tail).toNat := by
    rw [holds.distance fits]
    omega
  rw [contents, List.getElem?_map, List.getElem?_range inside, Option.map_some,
    holds.tailShown, Counter.shown_add, slot_shown fits]

/-- Position by position, the slots hold the accepted values that were not
returned, apart from one that was moved out. -/
theorem Invariant.contents_agree (holds : Invariant exponent state) (fits : exponent ≤ 63)
    {rest : List T} (split : state.returned ++ rest = state.accepted) {offset : Nat}
    (stored : state.consumer.held ≤ offset) :
    (contents exponent state)[offset]? = rest[offset]? := by
  by_cases present : state.returned.length + offset < state.accepted.length
  · have inSlot := holds.unreadStored (state.returned.length + offset) (by omega) present
    rw [holds.contents_get fits present, ← inSlot, ← split,
      List.getElem?_append_right (Nat.le_add_right _ _), Nat.add_sub_cancel_left]
  · have restLength : state.returned.length + rest.length = state.accepted.length := by
      rw [← split, List.length_append]
    rw [List.getElem?_eq_none, List.getElem?_eq_none]
    · omega
    · rw [holds.contents_length fits]
      omega

/-- Outside the window between a slot read and its tail store, the raw slots are
the accepted values that were not returned. -/
theorem Invariant.accepted_eq_contents (holds : Invariant exponent state) (fits : exponent ≤ 63)
    (free : state.consumer.held = 0) :
    state.accepted = state.returned ++ contents exponent state := by
  obtain ⟨rest, split⟩ := holds.inOrder
  have same : contents exponent state = rest := by
    apply List.ext_getElem?
    intro offset
    exact holds.contents_agree fits split (by omega)
  rw [same, split]

theorem Invariant.accepted_eq_unread (holds : Invariant exponent state) (fits : exponent ≤ 63) :
    state.accepted = state.returned ++ unread exponent state := by
  unfold unread
  split
  · rename_i tail result moved
    have taken := holds.consumerHolds
    simp only [ConsumerHolds, moved] at taken
    obtain ⟨-, next⟩ := taken
    have held : state.consumer.held = 1 := by rw [moved]; rfl
    obtain ⟨rest, split⟩ := holds.inOrder
    have same : result :: (contents exponent state).tail = rest := by
      apply List.ext_getElem?
      intro offset
      cases offset with
      | zero =>
        rw [← split, List.getElem?_append_right (Nat.le_refl _), Nat.sub_self] at next
        exact next.symm
      | succ offset =>
        rw [List.getElem?_cons_succ, List.getElem?_tail]
        exact holds.contents_agree fits split (by omega)
    rw [same, split]
  · rename_i notTaken
    apply holds.accepted_eq_contents fits
    cases moved : state.consumer with
    | taken tail result => exact absurd moved (notTaken tail result)
    | _ => rfl

/-- A call that returns false found the capacity used up by unread values at its
tail load. -/
theorem Invariant.push_refused (holds : Invariant exponent state) (fits : exponent ≤ 63)
    {label : Label T} {value : T}
    (taken : (machine exponent element).step state label = some after)
    (refused : after.pushes = state.pushes ++ [(value, false)]) :
    label = .pushLoadTail ∧ state.accepted.length = state.returned.length + 2 ^ exponent := by
  cases transition_of_step taken with
  | pushFull loaded full =>
    have current := holds.producerHolds
    simp only [ProducerHolds, loaded] at current
    exact ⟨rfl, (holds.full_iff fits).mp (by rw [← current]; exact full)⟩
  | pushStoreHead filled =>
    simp at refused
  | _ => simp at refused

/-- A call that returns `std::nullopt` found nothing unread at its head load. -/
theorem Invariant.pop_empty (holds : Invariant exponent state) (fits : exponent ≤ 63)
    {label : Label T}
    (taken : (machine exponent element).step state label = some after)
    (nothing : after.pops = state.pops ++ [none]) :
    label = .popLoadHead ∧ state.accepted = state.returned := by
  cases transition_of_step taken with
  | popEmpty loaded empty =>
    have current := holds.consumerHolds
    simp only [ConsumerHolds, loaded] at current
    have drained := (holds.empty_iff fits).mp (by rw [← current]; exact empty)
    exact ⟨rfl, (holds.inOrder.eq_of_length drained).symm⟩
  | popStoreTail moved =>
    simp at nothing
  | _ => simp at nothing

/-- In every interleaving, at every capacity and across counter wraps, the queue
neither loses, duplicates nor reorders a value, never holds more than its
capacity, and refuses a call only when it is full or empty. -/
theorem lossless_fifo (fits : exponent ≤ 63)
    (reached : (machine exponent element).Reachable Machine.anyStep (initial element) state) :
    state.returned <+: state.accepted ∧
      state.accepted = state.returned ++ unread exponent state ∧
      (state.consumer.held = 0 → unread exponent state = contents exponent state) ∧
      (state.head - state.tail).toNat ≤ 2 ^ exponent ∧
      (∀ label after value, (machine exponent element).step state label = some after →
        after.pushes = state.pushes ++ [(value, false)] →
        label = .pushLoadTail ∧ (unread exponent state).length = 2 ^ exponent) ∧
      (∀ label after, (machine exponent element).step state label = some after →
        after.pops = state.pops ++ [none] →
        label = .popLoadHead ∧ unread exponent state = []) := by
  have holds := reachable_invariant reached fits initial_invariant
  have whole := holds.accepted_eq_unread fits
  refine ⟨holds.inOrder, whole, ?_, ?_, ?_, ?_⟩
  · intro free
    exact List.append_cancel_left (whole.symm.trans (holds.accepted_eq_contents fits free))
  · rw [holds.distance fits]
    exact Nat.sub_le_iff_le_add'.mpr holds.occupancy
  · intro label after value taken refused
    obtain ⟨atTail, full⟩ := holds.push_refused fits taken refused
    rw [whole, List.length_append] at full
    exact ⟨atTail, by omega⟩
  · intro label after taken nothing
    obtain ⟨atHead, drained⟩ := holds.pop_empty fits taken nothing
    rw [whole] at drained
    exact ⟨atHead, by simpa using drained⟩

/-- The values of all calls so far: the completed ones, then the one in progress. -/
def attempted (state : State T) : List T :=
  state.pushes.map Prod.fst ++
    match state.producer with
    | .idle => []
    | .loadedHead value _ | .checked value _ | .written value _ => [value]

/-- The shared accesses of a `try_push` call. -/
def Label.isPush : Label T → Bool
  | .pushLoadHead _ | .pushLoadTail | .pushWriteSlot | .pushStoreHead => true
  | .popLoadTail | .popLoadHead | .popReadSlot | .popStoreTail => false

theorem push_keeps_consumer {label : Label T} (pushes : label.isPush = true)
    (taken : (machine exponent element).step state label = some after) :
    after.consumer = state.consumer ∧ after.pops = state.pops := by
  cases transition_of_step taken <;> first | exact ⟨rfl, rfl⟩ | cases pushes

theorem pop_keeps_producer {label : Label T} (pops : label.isPush = false)
    (taken : (machine exponent element).step state label = some after) :
    after.producer = state.producer ∧ after.pushes = state.pushes := by
  cases transition_of_step taken <;> first | exact ⟨rfl, rfl⟩ | cases pops

/-- Only the head load that begins a call adds a value to the calls made. -/
theorem attempted_step {label : Label T} (continues : ∀ value, label ≠ .pushLoadHead value)
    (taken : (machine exponent element).step state label = some after) :
    attempted after = attempted state := by
  cases transition_of_step taken with
  | pushLoadHead value idle => exact absurd rfl (continues value)
  | pushFull loaded full => simp [attempted, loaded]
  | pushChecked loaded room => simp [attempted, loaded]
  | pushWriteSlot passed => simp [attempted, passed]
  | pushStoreHead filled => simp [attempted, filled]
  | _ => rfl

theorem attempted_begin {value : T}
    (taken : (machine exponent element).step state (.pushLoadHead value) = some after) :
    attempted after = attempted state ++ [value] := by
  cases transition_of_step taken with
  | pushLoadHead value idle => simp [attempted, idle]

/-- `std::unique_ptr<int>`: a move leaves the null pointer behind. -/
def uniquePtr : Element (Option Nat) where
  initial := none
  movedFrom := fun _ => none

/-- Each of two `try_push` calls overlaps the `try_pop` call that takes the value before. -/
theorem lossless_fifo_overlapping :
    ∃ state : State (Option Nat),
      (machine 1 uniquePtr).Reachable Machine.anyStep (initial uniquePtr) state ∧
        state.returned = [some 7, some 8] ∧ state.returned <+: state.accepted ∧
          unread 1 state = [some 9] := by
  obtain ⟨state, reached, returned, accepted⟩ : ∃ state : State (Option Nat),
      (machine 1 uniquePtr).Reachable Machine.anyStep (initial uniquePtr) state ∧
        (state.returned = [some 7, some 8] ∧ state.accepted = [some 7, some 8, some 9]) :=
    Machine.exists_reachable_of_run
      [.pushLoadHead (some 7), .pushLoadTail, .pushWriteSlot, .pushStoreHead,
        .popLoadTail, .pushLoadHead (some 8), .popLoadHead, .pushLoadTail, .popReadSlot,
        .pushWriteSlot, .pushStoreHead, .popStoreTail,
        .pushLoadHead (some 9), .popLoadTail, .pushLoadTail, .popLoadHead, .pushWriteSlot,
        .popReadSlot, .popStoreTail, .pushStoreHead] (by decide)
  obtain ⟨inOrder, whole, -⟩ := lossless_fifo (by decide) reached
  rw [returned, accepted] at whole
  have left : [some 7, some 8] ++ [some 9] = [some 7, some 8] ++ unread 1 state := whole
  exact ⟨state, reached, returned, inOrder, (List.append_cancel_left left).symm⟩

/-- Between its slot read and its tail store, a `try_pop` call has already moved
the value out: the slot holds a null pointer and not the accepted value. -/
theorem slot_moved_out :
    ∃ state : State (Option Nat),
      (machine 2 uniquePtr).Reachable Machine.anyStep (initial uniquePtr) state ∧
        state.accepted ≠ state.returned ++ contents 2 state :=
  Machine.exists_reachable_of_run
    [.pushLoadHead (some 99), .pushLoadTail, .pushWriteSlot, .pushStoreHead,
      .popLoadTail, .popLoadHead, .popReadSlot] (by decide)

end Bintrade.Core.SpscQueue
