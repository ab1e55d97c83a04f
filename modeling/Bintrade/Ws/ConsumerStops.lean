import Bintrade.System.Progress
import Bintrade.Ws.DispatchOrder

/-! A call of `stop_consumer` returns. Once `running` is cleared and no delivery follows, the
consumer has a bounded number of steps left, and it never waits for anything. -/

namespace Bintrade.Ws.QueuedDispatch

open Bintrade.System Bintrade.Core

universe u

variable {Message : Type u} {element : SpscQueue.Element Message} {state after : State Message}

/-- The accepted messages that no `try_pop` has returned. -/
def unreadCount (state : State Message) : Nat :=
  state.queue.accepted.length - state.queue.returned.length

/-- The place of a `try_pop` call in a round of the final drain. -/
def drainingPlace : SpscQueue.Consumer Message → Nat
  | .idle => 3
  | .loadedTail _ => 2
  | .checked _ => 1
  | .taken _ _ => 0

/-- The place of a `try_pop` call in the loop, which goes back to the check of `running`. -/
def loopingPlace : SpscQueue.Consumer Message → Nat
  | .idle => 7
  | .loadedTail _ => 6
  | .checked _ => 2
  | .taken _ _ => 1

/-- A bound on the steps of the consumer, five for each message and those of its place. -/
def consumerSteps (unread : Nat) (queue : SpscQueue.Consumer Message) :
    ConsumerThread Message → Nat
  | .finished => 0
  | .popping true => 5 * unread + drainingPlace queue
  | .dispatching true _ => 5 * unread + 4
  | .checkRunning => 5 * unread + 4
  | .popping false => 5 * unread + loopingPlace queue
  | .dispatching false _ | .yielding => 5 * unread + 5

/-- The steps that are left until `stop_consumer` has returned. -/
def stepsToReturn (state : State Message) : Nat :=
  consumerSteps (unreadCount state) state.queue.consumer state.consumer +
    if state.stopper = .returned then 0 else 1

section Steps

variable {queue : SpscQueue.State Message} {label : Label Message}

/-- A popped message was unread. -/
theorem unread_of_taken (holds : Invariant state) {tail : SpscQueue.SizeT} {message : Message}
    (holding : state.queue.consumer = .taken tail message) :
    state.queue.returned.length < state.queue.accepted.length := by
  have next := holds.queueHolds.consumerHolds
  simp only [SpscQueue.ConsumerHolds, holding] at next
  obtain ⟨-, present⟩ := next
  exact (List.getElem?_eq_some_iff.mp present).1

/-- A step of the consumer inside `try_pop`. -/
theorem pop_steps {lowerLabel : SpscQueue.Label Message} {draining : Bool}
    (continues : PopContinues label lowerLabel) (inCall : state.consumer = .popping draining)
    (lower : (SpscQueue.machine kQueueExponent element).step state.queue lowerLabel = some queue) :
    stepsToReturn { state with queue := queue } < stepsToReturn state := by
  cases continues with
  | loadTail =>
    cases SpscQueue.transition_of_step lower with
    | popLoadTail idle =>
      cases draining <;>
        simp [stepsToReturn, unreadCount, inCall, idle, consumerSteps, drainingPlace,
          loopingPlace, SpscQueue.State.accepted, SpscQueue.State.returned]
  | readSlot =>
    cases SpscQueue.transition_of_step lower with
    | popReadSlot passed =>
      cases draining <;>
        simp [stepsToReturn, unreadCount, inCall, passed, consumerSteps, drainingPlace,
          loopingPlace, SpscQueue.State.accepted, SpscQueue.State.returned]

/-- The end of a `try_pop` call that found the queue empty, or its way on. -/
theorem popLoadHead_steps {draining : Bool} (inCall : state.consumer = .popping draining)
    (lower : (SpscQueue.machine kQueueExponent element).step state.queue .popLoadHead =
      some queue) :
    stepsToReturn { state with queue := queue, consumer := afterHeadLoad draining queue } <
      stepsToReturn state := by
  cases SpscQueue.transition_of_step lower with
  | popEmpty loaded empty =>
    cases draining <;>
      simp [stepsToReturn, unreadCount, inCall, loaded, consumerSteps, afterHeadLoad, afterEmpty,
        drainingPlace, loopingPlace, SpscQueue.State.accepted, SpscQueue.State.returned]
  | popChecked loaded nonempty =>
    cases draining <;>
      simp [stepsToReturn, unreadCount, inCall, loaded, consumerSteps, afterHeadLoad,
        drainingPlace, loopingPlace, SpscQueue.State.accepted, SpscQueue.State.returned]

theorem popStoreTail_steps (holds : Invariant state) {draining : Bool} {tail : SpscQueue.SizeT}
    {message : Message} (inCall : state.consumer = .popping draining)
    (holding : state.queue.consumer = .taken tail message)
    (lower : (SpscQueue.machine kQueueExponent element).step state.queue .popStoreTail =
      some queue) :
    stepsToReturn { state with queue := queue, consumer := .dispatching draining message } <
      stepsToReturn state := by
  have unread := unread_of_taken holds holding
  cases SpscQueue.transition_of_step lower with
  | popStoreTail moved =>
    have fewer : unreadCount state = (state.queue.accepted.length -
        (state.queue.returned.length + 1)) + 1 := by
      unfold unreadCount
      omega
    cases draining <;>
      simp [stepsToReturn, fewer, inCall, holding, consumerSteps, drainingPlace, loopingPlace] <;>
      simp [unreadCount, SpscQueue.State.accepted, SpscQueue.State.returned] <;> omega

/-- After the store of `running = false`, every step of a quiet shutdown brings the return
of `stop_consumer` nearer. -/
theorem Quiet.stepsToReturn_lt (quiet : Quiet state) (stopped : state.running = false)
    (permitted : quietStop state label) (taken : (machine element).step state label = some after) :
    stepsToReturn after < stepsToReturn state := by
  have holds := quiet.invariant
  cases transition_of_step taken with
  | deliver lower =>
    have running : state.running = true := permitted
    rw [stopped] at running
    cases running
  | push continues lower =>
    exact absurd lower (idle_refuses_push continues (quiet.producerOut stopped))
  | loadRunning atCheck =>
    have idle := holds.betweenCalls (by rw [atCheck]; rfl)
    simp [stepsToReturn, unreadCount, atCheck, stopped, idle, consumerSteps, drainingPlace]
  | pop continues inCall lower => exact pop_steps continues inCall lower
  | popLoadHead inCall lower => exact popLoadHead_steps inCall lower
  | popStoreTail inCall holding lower => exact popStoreTail_steps holds inCall holding lower
  | @dispatch draining message holding =>
    have idle := holds.betweenCalls (by rw [holding]; rfl)
    cases draining <;>
      simp [stepsToReturn, unreadCount, holding, idle, consumerSteps, afterDispatch, drainingPlace]
  | yield idle => simp [stepsToReturn, unreadCount, idle, consumerSteps]
  | stopLoad called =>
    rcases holds.stopStored stopped with stored | returned <;> simp_all
  | stopStore loaded =>
    rcases holds.stopStored stopped with stored | returned <;> simp_all
  | stopJoin stored ended => simp [stepsToReturn, unreadCount, stored]

theorem stopped_step (stopped : state.running = false)
    (taken : (machine element).step state label = some after) : after.running = false := by
  cases transition_of_step taken with
  | stopStore loaded => rfl
  | _ => exact stopped

/-- The consumer never waits: it has a step to take until it has ended. -/
theorem consumer_enabled (working : state.consumer ≠ .finished) :
    ∃ label, quietStop state label ∧ ((machine element).step state label).isSome := by
  cases place : state.consumer with
  | checkRunning => exact ⟨.loadRunning, rfl, by simp [machine, step, place]⟩
  | popping draining =>
    cases call : state.queue.consumer with
    | idle =>
      exact ⟨.popLoadTail, rfl, by simp [machine, step, place, queueStep, SpscQueue.step, call]⟩
    | loadedTail tail =>
      refine ⟨.popLoadHead, rfl, ?_⟩
      simp only [machine, step, place, queueStep, SpscQueue.step, call]
      split <;> rfl
    | checked tail =>
      exact ⟨.popReadSlot, rfl, by simp [machine, step, place, queueStep, SpscQueue.step, call]⟩
    | taken tail result =>
      exact ⟨.popStoreTail, rfl, by simp [machine, step, place, queueStep, SpscQueue.step, call]⟩
  | dispatching draining message => exact ⟨.dispatch, rfl, by simp [machine, step, place]⟩
  | yielding => exact ⟨.yield, rfl, by simp [machine, step, place]⟩
  | finished => exact absurd place working

end Steps

theorem stepsToReturn_le (holds : Invariant state) :
    stepsToReturn state ≤ 5 * (SpscQueue.unread kQueueExponent state.queue).length + 8 := by
  have unread : unreadCount state = (SpscQueue.unread kQueueExponent state.queue).length := by
    rw [unreadCount, holds.queueHolds.accepted_eq_unread kQueueExponent_le, List.length_append]
    omega
  have placed : consumerSteps (unreadCount state) state.queue.consumer state.consumer ≤
      5 * unreadCount state + 7 := by
    unfold consumerSteps drainingPlace loopingPlace
    split <;> (try split) <;> omega
  rw [stepsToReturn, ← unread]
  split <;> omega

/-- From the store of `running = false` in a shutdown that no delivery overlaps, all threads
together take at most five steps for each message in the queue and eight more, and as long as
`stop_consumer` has not returned there is one to take. -/
theorem stop_consumer_returns {start : State Message} {count : Nat}
    (begun : (machine element).Reachable quietStop (initial (SpscQueue.initial element)) start)
    (stopped : start.running = false)
    (reached : ((machine element).observe (Machine.countWhere fun _ _ => true)).Reachable
      (Machine.unlogged quietStop) (start, 0) (state, count)) :
    count ≤ 5 * (SpscQueue.unread kQueueExponent start.queue).length + 8 ∧
      (state.stopper ≠ .returned →
        ∃ label, quietStop state label ∧ ((machine element).step state label).isSome) := by
  have quiet {later : State Message} (onward : (machine element).Reachable quietStop start later) :
      Quiet later ∧ later.running = false := by
    refine ⟨quiet_of_reachable (begun.trans onward), ?_⟩
    exact onward.invariant stopped fun earlier _ taken => stopped_step earlier taken
  constructor
  · have spent : count + stepsToReturn state ≤ stepsToReturn start := by
      apply reached.count_le
      intro before after label earlier permitted taken
      obtain ⟨still, cleared⟩ := quiet earlier
      exact still.stepsToReturn_lt cleared permitted taken
    have bounded := stepsToReturn_le (quiet .start).1.invariant
    omega
  · intro waiting
    obtain ⟨still, cleared⟩ := quiet reached.dropLog
    by_cases ended : state.consumer = .finished
    · have stored : state.stopper = .stored :=
        (still.invariant.stopStored cleared).resolve_right waiting
      exact ⟨.stopJoin, rfl, by simp [machine, step, stored, ended]⟩
    · exact consumer_enabled ended

/-- A message is in the queue when `running` is cleared, and the consumer at its last check. -/
def clearedState : State (List Char) :=
  ((machine stringElement).run quietStop (initial (SpscQueue.initial stringElement))
    (twoMessageRun.take 16)).getD (initial (SpscQueue.initial stringElement))

/-- The message is drained, and the call returns after nine steps. -/
theorem stop_consumer_returns_drained :
    (machine stringElement).Reachable quietStop (initial (SpscQueue.initial stringElement))
        clearedState ∧
      ∃ observed : State (List Char) × Nat,
        ((machine stringElement).observe (Machine.countWhere fun _ _ => true)).Reachable
          (Machine.unlogged quietStop) (clearedState, 0) observed ∧
        (observed.1.stopper = .returned ∧ observed.2 = 9) ∧
        observed.2 ≤ 5 * (SpscQueue.unread kQueueExponent clearedState.queue).length + 8 := by
  have evaluated : (machine stringElement).run quietStop
      (initial (SpscQueue.initial stringElement)) (twoMessageRun.take 16) = some clearedState := rfl
  have begun := Machine.reachable_of_run evaluated
  have drained : ∃ observed : State (List Char) × Nat,
      ((machine stringElement).observe (Machine.countWhere fun _ _ => true)).Reachable
        (Machine.unlogged quietStop) (clearedState, 0) observed ∧
      (observed.1.stopper = .returned ∧ observed.2 = 9) :=
    Machine.exists_reachable_of_run (twoMessageRun.drop 16) (by decide)
  obtain ⟨observed, reached, ended⟩ := drained
  exact ⟨begun, observed, reached, ended, (stop_consumer_returns begun rfl reached).1⟩

end Bintrade.Ws.QueuedDispatch
