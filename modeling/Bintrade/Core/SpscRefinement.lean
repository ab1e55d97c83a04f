import Bintrade.Core.SpscFifo
import Bintrade.System.Refinement
import Bintrade.System.AtomicQueue

/-! The ring buffer is an atomic bounded queue. A call takes effect at its last access to what
the threads share: the counter store of a call that moves a value, the load of the other
thread's counter of a call that is refused. It may return later. -/

namespace Bintrade.Core.SpscQueue

open Bintrade.System

universe u

variable {T : Type u} {exponent : Nat} {element : Element T} {state after : State T}

/-- The call that makes its last shared access at a step, if one does. -/
def lastAccess (exponent : Nat) (state : State T) : Label T → Option (AtomicQueue.Call T)
  | .pushLoadTail =>
    match state.producer with
    | .loadedHead value head =>
      if head - state.tail ≥ capacity exponent then some (.push value) else none
    | _ => none
  | .pushStoreHead =>
    match state.producer with
    | .written value _ => some (.push value)
    | _ => none
  | .popLoadHead =>
    match state.consumer with
    | .loadedTail tail => if tail = state.head then some .pop else none
    | _ => none
  | .popStoreTail =>
    match state.consumer with
    | .taken _ _ => some .pop
    | _ => none
  | _ => none

/-- An atomic queue with the same unread values and the same results. -/
structure Represents (exponent : Nat) (state : State T) (queue : AtomicQueue.State T) : Prop where
  holds : Invariant exponent state
  unreadInside : state.accepted = state.returned ++ queue.contents
  samePushes : queue.pushes = state.pushes
  samePops : queue.pops = state.pops

variable {queue : AtomicQueue.State T}

theorem initial_represents :
    Represents exponent (initial element) AtomicQueue.initial where
  holds := initial_invariant
  unreadInside := rfl
  samePushes := rfl
  samePops := rfl

/-- A step at which no call takes effect leaves the atomic queue as it is. -/
theorem Represents.silent (represents : Represents exponent state queue) (fits : exponent ≤ 63)
    {label : Label T} (taken : (machine exponent element).step state label = some after)
    (continues : lastAccess exponent state label = none) :
    Represents exponent after queue := by
  have holds := represents.holds.step fits taken
  cases transition_of_step taken with
  | pushFull loaded full => simp [lastAccess, loaded, full] at continues
  | pushStoreHead filled => simp [lastAccess, filled] at continues
  | popEmpty loaded empty => simp [lastAccess, loaded, empty] at continues
  | popStoreTail moved => simp [lastAccess, moved] at continues
  | _ => exact ⟨holds, represents.unreadInside, represents.samePushes, represents.samePops⟩

theorem Represents.pushRefused (represents : Represents exponent state queue)
    (fits : exponent ≤ 63) {value : T} {head : SizeT}
    (loaded : state.producer = .loadedHead value head)
    (full : head - state.tail ≥ capacity exponent) :
    AtomicQueue.perform (2 ^ exponent) queue (.push value) =
      { queue with pushes := queue.pushes ++ [(value, false)] } := by
  have current := represents.holds.producerHolds
  simp only [ProducerHolds, loaded] at current
  have used := (represents.holds.full_iff fits).mp (by rw [← current]; exact full)
  rw [represents.unreadInside, List.length_append] at used
  rw [AtomicQueue.perform, if_neg (by omega)]

theorem Represents.pushAccepted (represents : Represents exponent state queue)
    {value : T} {head : SizeT} (filled : state.producer = .written value head) :
    AtomicQueue.perform (2 ^ exponent) queue (.push value) =
      { queue with
        contents := queue.contents ++ [value], pushes := queue.pushes ++ [(value, true)] } := by
  have written := represents.holds.producerHolds
  simp only [ProducerHolds, filled] at written
  obtain ⟨-, room, -⟩ := written
  rw [represents.unreadInside, List.length_append] at room
  rw [AtomicQueue.perform, if_pos (by omega)]

theorem Represents.empty (represents : Represents exponent state queue) (fits : exponent ≤ 63)
    {tail : SizeT} (loaded : state.consumer = .loadedTail tail) (empty : tail = state.head) :
    queue.contents = [] := by
  have current := represents.holds.consumerHolds
  simp only [ConsumerHolds, loaded] at current
  have drained := (represents.holds.empty_iff fits).mp (by rw [← current]; exact empty)
  rw [represents.unreadInside, List.length_append] at drained
  exact List.eq_nil_of_length_eq_zero (by omega)

/-- The value in the hands of a `try_pop` call is the oldest one. -/
theorem Represents.oldest (represents : Represents exponent state queue)
    {tail : SizeT} {result : T} (moved : state.consumer = .taken tail result) :
    ∃ rest, queue.contents = result :: rest := by
  have held := represents.holds.consumerHolds
  simp only [ConsumerHolds, moved] at held
  obtain ⟨-, next⟩ := held
  rw [represents.unreadInside, List.getElem?_append_right (Nat.le_refl _), Nat.sub_self] at next
  cases inside : queue.contents with
  | nil => simp [inside] at next
  | cons value rest =>
    simp only [inside, List.getElem?_cons_zero, Option.some.injEq] at next
    exact ⟨rest, by rw [next]⟩

/-- A call that takes effect has done to the atomic queue what it will report. -/
theorem Represents.visible (represents : Represents exponent state queue) (fits : exponent ≤ 63)
    {label : Label T} {call : AtomicQueue.Call T}
    (taken : (machine exponent element).step state label = some after)
    (effect : lastAccess exponent state label = some call) :
    Represents exponent after (AtomicQueue.perform (2 ^ exponent) queue call) := by
  have holds := represents.holds.step fits taken
  have inside := represents.unreadInside
  cases transition_of_step taken with
  | pushFull loaded full =>
    simp only [lastAccess, loaded, if_pos full, Option.some.injEq] at effect
    subst effect
    rw [represents.pushRefused fits loaded full]
    refine ⟨holds, ?_, ?_, represents.samePops⟩
    · exact (acceptedBy_append_false _ _).trans inside
    · simp [represents.samePushes]
  | pushStoreHead filled =>
    simp only [lastAccess, filled, Option.some.injEq] at effect
    subst effect
    rw [represents.pushAccepted filled]
    refine ⟨holds, ?_, ?_, represents.samePops⟩
    · refine (acceptedBy_append_true _ _).trans ?_
      show state.accepted ++ _ = state.returned ++ _
      rw [inside, List.append_assoc]
    · simp [represents.samePushes]
  | popEmpty loaded empty =>
    simp only [lastAccess, loaded, if_pos empty, Option.some.injEq] at effect
    subst effect
    have drained := represents.empty fits loaded empty
    simp only [AtomicQueue.perform, drained]
    refine ⟨holds, ?_, represents.samePushes, ?_⟩
    · show state.accepted = returnedBy _ ++ []
      rw [returnedBy_append_none, ← drained]
      exact inside
    · simp [represents.samePops]
  | popStoreTail moved =>
    simp only [lastAccess, moved, Option.some.injEq] at effect
    subst effect
    obtain ⟨rest, oldest⟩ := represents.oldest moved
    simp only [AtomicQueue.perform, oldest]
    refine ⟨holds, ?_, represents.samePushes, ?_⟩
    · show state.accepted = returnedBy _ ++ rest
      rw [returnedBy_append_some, inside, oldest, List.append_assoc]
      rfl
    · simp [represents.samePops]
  | pushLoadHead value idle => cases effect
  | pushChecked loaded room => simp [lastAccess, loaded, room] at effect
  | pushWriteSlot passed => cases effect
  | popLoadTail idle => cases effect
  | popChecked loaded nonempty => simp [lastAccess, loaded, nonempty] at effect
  | popReadSlot passed => cases effect

def linearization {element : Element T} (fits : exponent ≤ 63) :
    (machine exponent element).Refinement (AtomicQueue.machine (T := T) (2 ^ exponent)) where
  shows := lastAccess exponent
  Relates := Represents exponent
  silent represents taken continues := represents.silent fits taken continues
  visible represents taken effect := ⟨_, rfl, represents.visible fits taken effect⟩

/-- In every interleaving, at every capacity and across counter wraps, the calls that have made
their last shared access, in the order of these accesses, are a run of the atomic queue: it gives
each of them the same result and ends with the values that are unread. -/
theorem ring_buffer_linearizable (fits : exponent ≤ 63) {calls : List (AtomicQueue.Call T)}
    (reached : ((machine exponent element).observe
      (Machine.noteShown (lastAccess exponent))).Reachable Machine.anyStep
        (initial element, []) (state, calls)) :
    ∃ queue, (AtomicQueue.machine (2 ^ exponent)).run Machine.anyStep AtomicQueue.initial calls =
        some queue ∧
      queue.contents = unread exponent state ∧ queue.pushes = state.pushes ∧
        queue.pops = state.pops := by
  obtain ⟨queue, performed, represents⟩ := (linearization fits).run reached initial_represents
  refine ⟨queue, performed, ?_, represents.samePushes, represents.samePops⟩
  have whole := represents.holds.accepted_eq_unread fits
  exact List.append_cancel_left (represents.unreadInside.symm.trans whole)

/-- A `try_pop` call overtaken by a `try_push` call between its two loads returns what
was pushed meanwhile. -/
theorem ring_buffer_linearizable_overtaken :
    ∃ observed : State Nat × List (AtomicQueue.Call Nat),
      ((machine 1 ⟨0, fun _ => 0⟩).observe (Machine.noteShown (lastAccess 1))).Reachable
        Machine.anyStep (initial ⟨0, fun _ => 0⟩, []) observed ∧
      observed.1.pops = [some 7] ∧
      ∃ queue, (AtomicQueue.machine (2 ^ 1)).run Machine.anyStep AtomicQueue.initial observed.2 =
          some queue ∧
        queue.contents = unread 1 observed.1 ∧ queue.pushes = observed.1.pushes ∧
          queue.pops = observed.1.pops := by
  have overtaken : ∃ observed : State Nat × List (AtomicQueue.Call Nat),
      ((machine 1 ⟨0, fun _ => 0⟩).observe (Machine.noteShown (lastAccess 1))).Reachable
        Machine.anyStep (initial ⟨0, fun _ => 0⟩, []) observed ∧
      observed.1.pops = [some 7] :=
    Machine.exists_reachable_of_run
      [.popLoadTail, .pushLoadHead 7, .pushLoadTail, .pushWriteSlot, .pushStoreHead,
        .popLoadHead, .popReadSlot, .popStoreTail] (by decide)
  obtain ⟨observed, reached, popped⟩ := overtaken
  exact ⟨observed, reached, popped, ring_buffer_linearizable (by decide) reached⟩

end Bintrade.Core.SpscQueue
