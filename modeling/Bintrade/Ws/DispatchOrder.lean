import Bintrade.Ws.DispatchInvariant

/-! Queued dispatch hands messages on in the order they were accepted, and a
shutdown that no delivery overlaps leaves nothing behind. -/

namespace Bintrade.Ws.QueuedDispatch

open Bintrade.System Bintrade.Core

universe u

variable {Message : Type u} {element : SpscQueue.Element Message} {state after : State Message}

theorem dispatched_of_finished (holds : Invariant state) (ended : state.consumer = .finished) :
    state.dispatched = state.queue.returned := by
  rw [holds.handedOn, ended]
  simp [ConsumerThread.pending]

/-- The ended consumer left no accepted message in the queue. -/
def Drained (state : State Message) : Prop :=
  state.consumer = .finished → state.queue.accepted = state.queue.returned

theorem PushContinues.keeps_accepted {label : Label Message}
    {lowerLabel : SpscQueue.Label Message} {queue lower : SpscQueue.State Message}
    (continues : PushContinues label lowerLabel) (unstored : label ≠ .pushStoreHead)
    (taken : (SpscQueue.machine kQueueExponent element).step queue lowerLabel = some lower) :
    lower.accepted = queue.accepted := by
  cases continues with
  | loadTail =>
    cases SpscQueue.transition_of_step taken with
    | pushFull loaded full => exact SpscQueue.acceptedBy_append_false _ _
    | pushChecked loaded room => rfl
  | writeSlot =>
    cases SpscQueue.transition_of_step taken with
    | pushWriteSlot passed => rfl
  | storeHead => exact absurd rfl unstored

/-- The final drain ends only over an empty queue. -/
theorem drained_of_popLoadHead (holds : Invariant state) {draining : Bool}
    {queue : SpscQueue.State Message}
    (lower : (SpscQueue.machine kQueueExponent element).step state.queue .popLoadHead =
      some queue) :
    Drained { state with queue := queue, consumer := afterHeadLoad draining queue } := by
  intro ended
  obtain ⟨sameReturned, outcome⟩ := popLoadHead_cases lower
  obtain ⟨-, samePushes⟩ := SpscQueue.pop_keeps_producer rfl lower
  rcases outcome with ⟨-, nothing⟩ | ⟨tail, passed⟩
  · obtain ⟨-, empty⟩ := holds.queueHolds.pop_empty kQueueExponent_le lower nothing
    exact (congrArg SpscQueue.acceptedBy samePushes).trans (empty.trans sameReturned.symm)
  · simp [afterHeadLoad, passed] at ended

/-- A `stop_consumer` call that returned stays returned. -/
theorem returned_step {label : Label Message} (ended : state.stopper = .returned)
    (taken : (machine element).step state label = some after) : after.stopper = .returned := by
  cases transition_of_step taken with
  | stopLoad called => simp [ended] at called
  | stopStore loaded => simp [ended] at loaded
  | stopJoin stored finished => rfl
  | _ => exact ended

/-- Only a head store that comes after the end of the consumer can leave a
message behind. -/
theorem Drained.step {label : Label Message} (drained : Drained state) (holds : Invariant state)
    (inTime : label = .pushStoreHead → state.consumer ≠ .finished)
    (taken : (machine element).step state label = some after) : Drained after := by
  cases transition_of_step taken with
  | deliver lower =>
    intro ended
    cases SpscQueue.transition_of_step lower with
    | pushLoadHead value idle => exact drained ended
  | push continues lower =>
    intro ended
    have sameReturned := congrArg SpscQueue.returnedBy
      (SpscQueue.push_keeps_consumer continues.isPush.1 lower).2
    have unstored : label ≠ .pushStoreHead := fun stores => inTime stores ended
    exact (continues.keeps_accepted unstored lower).trans
      ((drained ended).trans sameReturned.symm)
  | loadRunning atCheck => exact nofun
  | pop continues inCall lower =>
    intro ended
    rw [inCall] at ended
    cases ended
  | popLoadHead inCall lower => exact drained_of_popLoadHead holds lower
  | popStoreTail inCall holding lower => exact nofun
  | @dispatch draining message holding => cases draining <;> exact nofun
  | yield idle => exact nofun
  | stopLoad called => exact drained
  | stopStore loaded => exact drained
  | stopJoin stored ended => exact drained

/-- An accepted message stays in the queue although the consumer has ended. -/
def Stranded (state : State Message) : Prop :=
  state.consumer = .finished ∧ state.queue.returned.length < state.queue.accepted.length

theorem push_grows_accepted {lowerLabel : SpscQueue.Label Message}
    {queue lower : SpscQueue.State Message}
    (taken : (SpscQueue.machine kQueueExponent element).step queue lowerLabel = some lower) :
    queue.accepted.length ≤ lower.accepted.length := by
  cases SpscQueue.transition_of_step taken with
  | pushFull loaded full => simp [SpscQueue.State.accepted]
  | pushStoreHead filled => simp [SpscQueue.State.accepted]
  | _ => exact Nat.le_refl _

/-- Nothing takes a stranded message out again. -/
theorem Stranded.step {label : Label Message} (stranded : Stranded state)
    (taken : (machine element).step state label = some after) : Stranded after := by
  obtain ⟨ended, behind⟩ := stranded
  cases transition_of_step taken with
  | deliver lower =>
    refine ⟨ended, ?_⟩
    have sameReturned := congrArg SpscQueue.returnedBy
      (SpscQueue.push_keeps_consumer rfl lower).2
    exact Nat.lt_of_lt_of_le (congrArg List.length sameReturned ▸ behind)
      (push_grows_accepted lower)
  | push continues lower =>
    refine ⟨ended, ?_⟩
    have sameReturned := congrArg SpscQueue.returnedBy
      (SpscQueue.push_keeps_consumer continues.isPush.1 lower).2
    exact Nat.lt_of_lt_of_le (congrArg List.length sameReturned ▸ behind)
      (push_grows_accepted lower)
  | loadRunning atCheck => simp [ended] at atCheck
  | pop continues inCall lower => simp [ended] at inCall
  | popLoadHead inCall lower => simp [ended] at inCall
  | popStoreTail inCall holding lower => simp [ended] at inCall
  | dispatch holding => simp [ended] at holding
  | yield idle => simp [ended] at idle
  | stopLoad called => exact ⟨ended, behind⟩
  | stopStore loaded => exact ⟨ended, behind⟩
  | stopJoin stored finished => exact ⟨ended, behind⟩

/-- A head store after the end of the consumer strands its message. -/
theorem stranded_of_late (holds : Invariant state) (ended : state.consumer = .finished)
    (taken : (machine element).step state .pushStoreHead = some after) : Stranded after := by
  have ordered := holds.queueHolds.inOrder.length_le
  obtain ⟨queue, lower, rfl⟩ := queueStep_some taken
  refine ⟨ended, ?_⟩
  cases SpscQueue.transition_of_step lower with
  | pushStoreHead filled =>
    simp only [SpscQueue.State.accepted, SpscQueue.State.returned,
      SpscQueue.acceptedBy_append_true, List.length_append, List.length_singleton] at ordered ⊢
    exact Nat.lt_succ_of_le ordered

theorem Stranded.not_all_dispatched (stranded : Stranded state) (holds : Invariant state) :
    state.dispatched ≠ state.queue.accepted := by
  intro all
  have behind := stranded.2
  rw [← all, dispatched_of_finished holds stranded.1] at behind
  exact Nat.lt_irrefl _ behind

/-- A delivery starts only before the store of `running = false`, and none is in
progress at that store. -/
def clearOfStop (state : State Message) : Label Message → Bool
  | .deliver _ => state.running
  | .stopStore => state.queue.producer.isIdle
  | _ => true

def quietStop (state : State Message) (label : Label Message) : Prop :=
  clearOfStop state label = true

instance (state : State Message) (label : Label Message) : Decidable (quietStop state label) :=
  inferInstanceAs (Decidable (clearOfStop state label = true))

/-- What a quiet shutdown adds: the I/O thread is out of the queue, so the empty
queue the final drain saw stays empty. -/
structure Quiet (state : State Message) : Prop where
  invariant : Invariant state
  producerOut : state.running = false → state.queue.producer.isIdle = true
  drained : Drained state

theorem idle_refuses_push {label : Label Message} {lowerLabel : SpscQueue.Label Message}
    {queue lower : SpscQueue.State Message} (continues : PushContinues label lowerLabel)
    (idle : queue.producer.isIdle = true) :
    (SpscQueue.machine kQueueExponent element).step queue lowerLabel ≠ some lower := by
  rw [SpscQueue.Producer.isIdle_iff] at idle
  cases continues <;> simp [SpscQueue.machine, SpscQueue.step, idle]

theorem Quiet.producerOut_step {label : Label Message} (quiet : Quiet state)
    (permitted : quietStop state label)
    (taken : (machine element).step state label = some after)
    (stopped : after.running = false) : after.queue.producer.isIdle = true := by
  cases transition_of_step taken with
  | deliver lower =>
    have running : state.running = true := permitted
    rw [running] at stopped
    cases stopped
  | push continues lower =>
    exact absurd lower (idle_refuses_push continues (quiet.producerOut stopped))
  | pop continues inCall lower =>
    rw [(SpscQueue.pop_keeps_producer continues.isPop.1 lower).1]
    exact quiet.producerOut stopped
  | popLoadHead inCall lower =>
    rw [(SpscQueue.pop_keeps_producer rfl lower).1]
    exact quiet.producerOut stopped
  | popStoreTail inCall holding lower =>
    rw [(SpscQueue.pop_keeps_producer rfl lower).1]
    exact quiet.producerOut stopped
  | stopStore loaded => exact permitted
  | _ => exact quiet.producerOut stopped

theorem Quiet.step {label : Label Message} (quiet : Quiet state)
    (permitted : quietStop state label)
    (taken : (machine element).step state label = some after) : Quiet after := by
  refine ⟨quiet.invariant.step taken, quiet.producerOut_step permitted taken, ?_⟩
  apply quiet.drained.step quiet.invariant _ taken
  rintro rfl ended
  have stopped := quiet.invariant.leftLoop (by rw [ended]; rfl)
  obtain ⟨queue, lower, -⟩ := queueStep_some taken
  exact idle_refuses_push .storeHead (quiet.producerOut stopped) lower

theorem inlineDispatched_eq (delivered : List Message) :
    inlineDispatched delivered = delivered := by
  have folded : ∀ dispatched : List Message,
      delivered.foldl (fun dispatched message => dispatched ++ [message]) dispatched =
        dispatched ++ delivered := by
    induction delivered with
    | nil => simp
    | cons message rest ih =>
      intro dispatched
      simp [ih]
  exact folded []

theorem acceptedBy_of_all (pushes : List (Message × Bool))
    (all : ∀ call ∈ pushes, call.2 = true) :
    SpscQueue.acceptedBy pushes = pushes.map Prod.fst := by
  rw [SpscQueue.acceptedBy, List.filter_eq_self.mpr all]

theorem start_invariant (element : SpscQueue.Element Message) :
    Invariant (initial (SpscQueue.initial element)) :=
  initial_invariant SpscQueue.initial_invariant rfl rfl

theorem quiet_of_reachable
    (reached : (machine element).Reachable quietStop
      (initial (SpscQueue.initial element)) state) : Quiet state := by
  apply reached.invariant
  · exact ⟨start_invariant element, nofun, nofun⟩
  · intro before after label quiet permitted taken
    exact quiet.step permitted taken

/-- Once `stop_consumer` returned from a quiet shutdown, every accepted message
was dispatched, in order. -/
theorem Quiet.dispatched_all (quiet : Quiet state) (ended : state.stopper = .returned) :
    state.dispatched = state.queue.accepted := by
  have finished := quiet.invariant.joined ended
  rw [dispatched_of_finished quiet.invariant finished, quiet.drained finished]

theorem Quiet.delivered_eq (quiet : Quiet state) (ended : state.stopper = .returned) :
    state.delivered = state.queue.pushes.map Prod.fst := by
  have finished := quiet.invariant.joined ended
  have stopped := quiet.invariant.leftLoop (by rw [finished]; rfl)
  have idle := SpscQueue.Producer.isIdle_iff.mp (quiet.producerOut stopped)
  rw [quiet.invariant.delivered, SpscQueue.attempted, idle]
  simp

/-- A delivery is rejected only at its tail load, over a full queue. -/
theorem Invariant.rejected (holds : Invariant state) {label : Label Message}
    {message : Message} (taken : (machine element).step state label = some after)
    (refused : after.queue.pushes = state.queue.pushes ++ [(message, false)]) :
    label = .pushLoadTail ∧
      state.queue.accepted.length = state.queue.returned.length + 2 ^ kQueueExponent := by
  have full {lowerLabel : SpscQueue.Label Message} {queue : SpscQueue.State Message}
      (lower : (SpscQueue.machine kQueueExponent element).step state.queue lowerLabel =
        some queue) (grown : queue.pushes = state.queue.pushes ++ [(message, false)]) :=
    holds.queueHolds.push_refused kQueueExponent_le lower grown
  cases transition_of_step taken with
  | deliver lower => cases (full lower refused).1
  | push continues lower =>
    obtain ⟨atTail, occupied⟩ := full lower refused
    refine ⟨?_, occupied⟩
    cases continues with
    | loadTail => rfl
    | writeSlot => cases atTail
    | storeHead => cases atTail
  | pop continues inCall lower =>
    obtain ⟨atTail, -⟩ := full lower refused
    cases continues <;> cases atTail
  | popLoadHead inCall lower => cases (full lower refused).1
  | popStoreTail inCall holding lower => cases (full lower refused).1
  | _ => simp at refused

/-- Dispatch order under every interleaving, the only reason for a rejection,
and the completeness of a quiet shutdown. -/
theorem queued_dispatch_in_order
    (reached : (machine element).Reachable Machine.anyStep
      (initial (SpscQueue.initial element)) state) :
    state.dispatched <+: state.queue.accepted ∧
      (∀ label after message, (machine element).step state label = some after →
        after.queue.pushes = state.queue.pushes ++ [(message, false)] →
        label = .pushLoadTail ∧
          (SpscQueue.unread kQueueExponent state.queue).length = 4096) ∧
      ((machine element).Reachable quietStop (initial (SpscQueue.initial element)) state →
        state.stopper = .returned →
        state.dispatched = state.queue.accepted ∧
          ((∀ call ∈ state.queue.pushes, call.2 = true) →
            state.dispatched = inlineDispatched state.delivered)) := by
  have holds := reachable_invariant reached (start_invariant element)
  refine ⟨?_, ?_, ?_⟩
  · have popped : state.dispatched <+: state.queue.returned := by
      rw [holds.handedOn]
      exact List.prefix_append _ _
    exact popped.trans holds.queueHolds.inOrder
  · intro label after message taken refused
    obtain ⟨atTail, occupied⟩ := holds.rejected taken refused
    refine ⟨atTail, ?_⟩
    rw [holds.queueHolds.accepted_eq_unread kQueueExponent_le, List.length_append] at occupied
    exact Nat.add_left_cancel occupied
  · intro quietly ended
    have quiet := quiet_of_reachable quietly
    refine ⟨quiet.dispatched_all ended, ?_⟩
    intro all
    rw [quiet.dispatched_all ended, SpscQueue.State.accepted, acceptedBy_of_all _ all,
      inlineDispatched_eq, quiet.delivered_eq ended]

/-- `std::string` messages; a move leaves an empty string behind. -/
def stringElement : SpscQueue.Element (List Char) where
  initial := []
  movedFrom := fun _ => []

/-- A second message is delivered while the consumer pops the first one, and is left to the
drain after `stop_consumer()`. -/
def twoMessageRun : List (Label (List Char)) :=
  [.deliver ['m'], .pushLoadTail, .pushWriteSlot, .pushStoreHead, .loadRunning, .popLoadTail,
    .deliver ['n'], .popLoadHead, .pushLoadTail, .popReadSlot, .pushWriteSlot, .popStoreTail,
    .pushStoreHead, .stopLoad, .dispatch, .stopStore, .loadRunning, .popLoadTail, .popLoadHead,
    .popReadSlot, .popStoreTail, .dispatch, .popLoadTail, .popLoadHead, .stopJoin]

theorem queued_dispatch_two_messages :
    ∃ state : State (List Char),
      (machine stringElement).Reachable quietStop
        (initial (SpscQueue.initial stringElement)) state ∧
      state.stopper = .returned ∧ state.dispatched = [['m'], ['n']] := by
  obtain ⟨state, reached, ended, accepted⟩ : ∃ state : State (List Char),
      (machine stringElement).Reachable quietStop
        (initial (SpscQueue.initial stringElement)) state ∧
      (state.stopper = .returned ∧ state.queue.accepted = [['m'], ['n']]) :=
    Machine.exists_reachable_of_run twoMessageRun (by decide)
  obtain ⟨complete, -⟩ := (queued_dispatch_in_order reached.free).2.2 reached ended
  exact ⟨state, reached, ended, complete.trans accepted⟩

end Bintrade.Ws.QueuedDispatch
