import Bintrade.Ws.Shutdown

/-! A `UserStream` in `DispatchMode::Queued` that is started again after `stop()`. The queue
outlives the session: what the last one accepted too late is still in it. -/

namespace Bintrade.Ws.StreamSessions

open Bintrade.System Bintrade.Core

universe u

variable {Message : Type u}

inductive Label (Message : Type u) where
  | inside (label : Shutdown.Label Message)
  | start (listenKey : List Char)

/-- A `start()` that succeeds: `queue_state_` is kept, its flag is set and a new consumer, a
new I/O thread and a new keep-alive thread run. -/
def restarted (state : Shutdown.State Message) (listenKey : List Char) :
    Shutdown.State Message where
  dispatch := { state.dispatch with
    running := true, consumer := .checkRunning, stopper := .notCalled }
  io := .reading
  stop := .notCalled
  stopKeepAlive := false
  keepAliveRunning := true
  listenKey := listenKey
  shouldStop := false

def step (element : SpscQueue.Element Message) (state : Shutdown.State Message) :
    Label Message → Option (Shutdown.State Message)
  | .inside label => Shutdown.step element state label
  | .start listenKey =>
    match state.stop with
    | .returned => some (restarted state listenKey)
    | _ => none

def machine (element : SpscQueue.Element Message) :
    Machine (Shutdown.State Message) (Label Message) where
  step := step element

/-- The messages that were accepted before the present session. -/
def noteStart (state : Shutdown.State Message) (label : Label Message) (earlier : List Message) :
    List Message :=
  match label with
  | .inside _ => earlier
  | .start _ => state.dispatch.queue.accepted

section Dispatch

variable {element : SpscQueue.Element Message} {state after : QueuedDispatch.State Message}

theorem accepted_extends_queue {lowerLabel : SpscQueue.Label Message}
    {queue lower : SpscQueue.State Message}
    (taken : (SpscQueue.machine QueuedDispatch.kQueueExponent element).step queue lowerLabel =
      some lower) : queue.accepted <+: lower.accepted := by
  cases SpscQueue.transition_of_step taken with
  | pushFull loaded full =>
    simp only [SpscQueue.State.accepted, SpscQueue.acceptedBy_append_false]
    exact List.prefix_refl _
  | pushStoreHead filled =>
    simp only [SpscQueue.State.accepted, SpscQueue.acceptedBy_append_true]
    exact List.prefix_append _ _
  | _ => exact List.prefix_refl _

theorem accepted_extends {label : QueuedDispatch.Label Message}
    (taken : (QueuedDispatch.machine element).step state label = some after) :
    state.queue.accepted <+: after.queue.accepted := by
  cases QueuedDispatch.transition_of_step taken with
  | deliver lower | push _ lower | pop _ _ lower | popLoadHead _ lower | popStoreTail _ _ lower =>
    exact accepted_extends_queue lower
  | _ => exact List.prefix_refl _

/-- The consumer ends over an empty queue, and takes nothing out of it afterwards. -/
theorem finished_of_step {label : QueuedDispatch.Label Message}
    (holds : QueuedDispatch.Invariant state)
    (taken : (QueuedDispatch.machine element).step state label = some after)
    (ended : after.consumer = .finished) :
    state.consumer = .finished ∧ after.queue.returned = state.queue.returned ∨
      after.queue.accepted = after.queue.returned := by
  cases QueuedDispatch.transition_of_step taken with
  | deliver lower =>
    exact .inl ⟨ended, congrArg SpscQueue.returnedBy (SpscQueue.push_keeps_consumer rfl lower).2⟩
  | push continues lower =>
    exact .inl ⟨ended, congrArg SpscQueue.returnedBy
      (SpscQueue.push_keeps_consumer continues.isPush.1 lower).2⟩
  | loadRunning atCheck => cases ended
  | pop continues inCall lower =>
    rw [inCall] at ended
    cases ended
  | popLoadHead inCall lower =>
    exact .inr (QueuedDispatch.drained_of_popLoadHead holds lower ended)
  | popStoreTail inCall holding lower => cases ended
  | @dispatch draining message holding => cases draining <;> cases ended
  | yield idle => cases ended
  | stopLoad called => exact .inl ⟨ended, rfl⟩
  | stopStore loaded => exact .inl ⟨ended, rfl⟩
  | stopJoin stored finished => exact .inl ⟨ended, rfl⟩

end Dispatch

/-- Nothing that an earlier session accepted is lost, and it is dispatched before the
consumer of this one ends. -/
structure Carried (state : Shutdown.State Message) (earlier : List Message) : Prop where
  invariant : Shutdown.Invariant state
  known : earlier <+: state.dispatch.queue.accepted
  drained : state.dispatch.consumer = .finished → earlier <+: state.dispatch.queue.returned

section Sessions

variable {element : SpscQueue.Element Message} {state after : Shutdown.State Message}
  {earlier : List Message}

theorem Carried.inside {label : Shutdown.Label Message} (carried : Carried state earlier)
    (taken : (Shutdown.machine element).step state label = some after) :
    Carried after earlier := by
  have invariant := carried.invariant.step taken
  rcases Shutdown.dispatch_of_step taken with same | ⟨lowerLabel, lower, -⟩
  · refine ⟨invariant, ?_, ?_⟩
    · rw [same]
      exact carried.known
    · rw [same]
      exact carried.drained
  · have known := carried.known.trans (accepted_extends lower)
    refine ⟨invariant, known, ?_⟩
    intro ended
    rcases finished_of_step carried.invariant.dispatchHolds lower ended with
      ⟨before, same⟩ | empty
    · rw [same]
      exact carried.drained before
    · rw [← empty]
      exact known

/-- The queue is handed to the next consumer as the last one left it. -/
theorem invariant_restarted (invariant : Shutdown.Invariant state)
    (ended : state.stop = .returned) (listenKey : List Char) :
    Shutdown.Invariant (restarted state listenKey) := by
  have holds := invariant.dispatchHolds
  have finished := holds.joined (invariant.consumerStopped (by rw [ended]; rfl))
  refine ⟨?_, nofun⟩
  exact {
    queueHolds := holds.queueHolds
    handedOn := (QueuedDispatch.dispatched_of_finished holds finished).symm.trans
      (List.append_nil _).symm
    betweenCalls := fun _ => holds.betweenCalls (by rw [finished]; rfl)
    leftLoop := nofun
    stopStored := nofun
    joined := nofun
    delivered := holds.delivered }

theorem Carried.step {before next : Shutdown.State Message × List Message}
    {label : Label Message} (carried : Carried before.1 before.2)
    (taken : ((machine element).observe noteStart).step before label = some next) :
    Carried next.1 next.2 := by
  obtain ⟨moved, noted⟩ := Machine.observe_step taken
  rw [noted]
  cases label with
  | inside label => exact carried.inside moved
  | start listenKey =>
    simp only [machine, StreamSessions.step] at moved
    split at moved
    · rename_i ended
      rw [← Option.some.inj moved]
      exact ⟨invariant_restarted carried.invariant ended listenKey, List.prefix_refl _, nofun⟩
    · cases moved

end Sessions

/-- Over any number of sessions and in every interleaving of their threads: the messages are
dispatched once each and in the order in which they were accepted, also across `stop()` and
`start()`, and when a session has stopped, everything that the sessions before it accepted
has been dispatched. -/
theorem sessions_dispatch_in_order {element : SpscQueue.Element Message} {listenKey : List Char}
    {state : Shutdown.State Message} {earlier : List Message}
    (reached : ((machine element).observe noteStart).Reachable Machine.anyStep
      (Shutdown.initial (SpscQueue.initial element) listenKey, []) (state, earlier)) :
    state.dispatch.dispatched <+: state.dispatch.queue.accepted ∧
      earlier <+: state.dispatch.queue.accepted ∧
      (state.stop = .returned → earlier <+: state.dispatch.dispatched) := by
  let Holds (observed : Shutdown.State Message × List Message) : Prop :=
    Carried observed.1 observed.2
  have initially : Carried (Shutdown.initial (SpscQueue.initial element) listenKey) [] :=
    ⟨Shutdown.initial_invariant (Shutdown.fresh_restartable element), List.nil_prefix, nofun⟩
  have carried : Holds (state, earlier) :=
    reached.invariant initially fun carried _ taken => Carried.step carried taken
  have holds := carried.invariant.dispatchHolds
  refine ⟨?_, carried.known, ?_⟩
  · have popped : state.dispatch.dispatched <+: state.dispatch.queue.returned := by
      rw [holds.handedOn]
      exact List.prefix_append _ _
    exact popped.trans holds.queueHolds.inOrder
  · intro ended
    have finished := holds.joined (carried.invariant.consumerStopped (by rw [ended]; rfl))
    rw [QueuedDispatch.dispatched_of_finished holds finished]
    exact carried.drained finished

open QueuedDispatch (stringElement)
open Shutdown (delivery stopIdleConsumer finishStop consumeOne)

/-- A message that arrives after the consumer was joined is dispatched by the next session. -/
theorem sessions_dispatch_in_order_late :
    ∃ state : Shutdown.State (List Char),
      ((machine stringElement).observe noteStart).Reachable Machine.anyStep
        (Shutdown.initial (SpscQueue.initial stringElement) ['k'], []) (state, [['m']]) ∧
      state.stop = .returned ∧ [['m']] <+: state.dispatch.dispatched := by
  let first : List (Shutdown.Label (List Char)) :=
    [.stopCall] ++ stopIdleConsumer ++ delivery ['m'] ++ finishStop
  let second : List (Shutdown.Label (List Char)) :=
    consumeOne ++ [.stopCall] ++ stopIdleConsumer ++ finishStop
  let labels : List (Label (List Char)) :=
    first.map .inside ++ [.start ['l']] ++ second.map .inside
  obtain ⟨state, earlier, evaluated, ended, late⟩ :
      ∃ (state : Shutdown.State (List Char)) (earlier : List (List Char)),
      ((machine stringElement).observe noteStart).run Machine.anyStep
        (Shutdown.initial (SpscQueue.initial stringElement) ['k'], []) labels =
          some (state, earlier) ∧
      state.stop = .returned ∧ earlier = [['m']] := ⟨_, _, rfl, rfl, rfl⟩
  subst late
  have reached := Machine.reachable_of_run evaluated
  exact ⟨state, reached, ended, (sessions_dispatch_in_order reached).2.2 ended⟩

end Bintrade.Ws.StreamSessions
