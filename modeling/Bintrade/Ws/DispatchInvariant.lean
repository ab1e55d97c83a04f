import Bintrade.Ws.QueuedDispatch

/-! What holds along every interleaving of the I/O thread, the consumer thread
and a call of `stop_consumer`. -/

namespace Bintrade.Ws.QueuedDispatch

open Bintrade.System Bintrade.Core

universe u

variable {Message : Type u} {element : SpscQueue.Element Message} {state after : State Message}

/-- The delivery steps that continue a `try_push` call. -/
inductive PushContinues : Label Message → SpscQueue.Label Message → Prop where
  | loadTail : PushContinues .pushLoadTail .pushLoadTail
  | writeSlot : PushContinues .pushWriteSlot .pushWriteSlot
  | storeHead : PushContinues .pushStoreHead .pushStoreHead

/-- The consumer steps that leave a `try_pop` call in progress. -/
inductive PopContinues : Label Message → SpscQueue.Label Message → Prop where
  | loadTail : PopContinues .popLoadTail .popLoadTail
  | readSlot : PopContinues .popReadSlot .popReadSlot

/-- Everything one step can do. -/
inductive Transition (element : SpscQueue.Element Message) (state : State Message) :
    Label Message → State Message → Prop where
  | deliver {message : Message} {queue : SpscQueue.State Message}
      (lower : (SpscQueue.machine kQueueExponent element).step state.queue
        (.pushLoadHead message) = some queue) :
      Transition element state (.deliver message)
        { state with queue := queue, delivered := state.delivered ++ [message] }
  | push {label : Label Message} {lowerLabel : SpscQueue.Label Message}
      {queue : SpscQueue.State Message} (continues : PushContinues label lowerLabel)
      (lower : (SpscQueue.machine kQueueExponent element).step state.queue lowerLabel =
        some queue) :
      Transition element state label { state with queue := queue }
  | loadRunning (atCheck : state.consumer = .checkRunning) :
      Transition element state .loadRunning
        { state with consumer := .popping (!state.running) }
  | pop {label : Label Message} {lowerLabel : SpscQueue.Label Message} {draining : Bool}
      {queue : SpscQueue.State Message} (continues : PopContinues label lowerLabel)
      (inCall : state.consumer = .popping draining)
      (lower : (SpscQueue.machine kQueueExponent element).step state.queue lowerLabel =
        some queue) :
      Transition element state label { state with queue := queue }
  | popLoadHead {draining : Bool} {queue : SpscQueue.State Message}
      (inCall : state.consumer = .popping draining)
      (lower : (SpscQueue.machine kQueueExponent element).step state.queue .popLoadHead =
        some queue) :
      Transition element state .popLoadHead
        { state with queue := queue, consumer := afterHeadLoad draining queue }
  | popStoreTail {draining : Bool} {tail : SpscQueue.SizeT} {message : Message}
      {queue : SpscQueue.State Message} (inCall : state.consumer = .popping draining)
      (holding : state.queue.consumer = .taken tail message)
      (lower : (SpscQueue.machine kQueueExponent element).step state.queue .popStoreTail =
        some queue) :
      Transition element state .popStoreTail
        { state with queue := queue, consumer := .dispatching draining message }
  | dispatch {draining : Bool} {message : Message}
      (holding : state.consumer = .dispatching draining message) :
      Transition element state .dispatch
        { state with
          consumer := afterDispatch draining
          dispatched := state.dispatched ++ [message] }
  | yield (idle : state.consumer = .yielding) :
      Transition element state .yield { state with consumer := .checkRunning }
  | stopLoad (called : state.stopper = .notCalled) :
      Transition element state .stopLoad
        { state with stopper := if state.running then .sawRunning else .returned }
  | stopStore (loaded : state.stopper = .sawRunning) :
      Transition element state .stopStore
        { state with running := false, stopper := .stored }
  | stopJoin (stored : state.stopper = .stored) (ended : state.consumer = .finished) :
      Transition element state .stopJoin { state with stopper := .returned }

theorem queueStep_some {lowerLabel : SpscQueue.Label Message}
    (taken : queueStep element state lowerLabel = some after) :
    ∃ queue, (SpscQueue.machine kQueueExponent element).step state.queue lowerLabel =
      some queue ∧ after = { state with queue := queue } := by
  obtain ⟨queue, lower, same⟩ := Option.map_eq_some_iff.mp taken
  exact ⟨queue, lower, same.symm⟩

theorem transition_of_step {label : Label Message}
    (taken : (machine element).step state label = some after) :
    Transition element state label after := by
  cases label with
  | deliver message =>
    obtain ⟨next, inner, rfl⟩ := Option.map_eq_some_iff.mp taken
    obtain ⟨queue, lower, rfl⟩ := queueStep_some inner
    exact .deliver lower
  | pushLoadTail =>
    obtain ⟨queue, lower, rfl⟩ := queueStep_some taken
    exact .push .loadTail lower
  | pushWriteSlot =>
    obtain ⟨queue, lower, rfl⟩ := queueStep_some taken
    exact .push .writeSlot lower
  | pushStoreHead =>
    obtain ⟨queue, lower, rfl⟩ := queueStep_some taken
    exact .push .storeHead lower
  | loadRunning =>
    simp only [machine, step] at taken
    split at taken <;> cases taken
    exact .loadRunning ‹_›
  | popLoadTail =>
    simp only [machine, step] at taken
    split at taken
    · obtain ⟨queue, lower, rfl⟩ := queueStep_some taken
      exact .pop .loadTail ‹_› lower
    · cases taken
  | popLoadHead =>
    simp only [machine, step] at taken
    split at taken
    · obtain ⟨next, inner, rfl⟩ := Option.map_eq_some_iff.mp taken
      obtain ⟨queue, lower, rfl⟩ := queueStep_some inner
      exact .popLoadHead ‹_› lower
    · cases taken
  | popReadSlot =>
    simp only [machine, step] at taken
    split at taken
    · obtain ⟨queue, lower, rfl⟩ := queueStep_some taken
      exact .pop .readSlot ‹_› lower
    · cases taken
  | popStoreTail =>
    simp only [machine, step] at taken
    split at taken
    · obtain ⟨next, inner, rfl⟩ := Option.map_eq_some_iff.mp taken
      obtain ⟨queue, lower, rfl⟩ := queueStep_some inner
      exact .popStoreTail ‹_› ‹_› lower
    · cases taken
  | dispatch =>
    simp only [machine, step] at taken
    split at taken <;> cases taken
    exact .dispatch ‹_›
  | yield =>
    simp only [machine, step] at taken
    split at taken <;> cases taken
    exact .yield ‹_›
  | stopLoad =>
    simp only [machine, step] at taken
    split at taken <;> cases taken
    exact .stopLoad ‹_›
  | stopStore =>
    simp only [machine, step] at taken
    split at taken <;> cases taken
    exact .stopStore ‹_›
  | stopJoin =>
    simp only [machine, step] at taken
    split at taken <;> cases taken
    exact .stopJoin ‹_› ‹_›

/-- The message that was popped and not yet dispatched. -/
def ConsumerThread.pending : ConsumerThread Message → List Message
  | .dispatching _ message => [message]
  | _ => []

/-- The consumer left its loop and is draining, or has ended. -/
def ConsumerThread.leftLoop : ConsumerThread Message → Bool
  | .popping draining => draining
  | .dispatching draining _ => draining
  | .finished => true
  | _ => false

def ConsumerThread.inCall : ConsumerThread Message → Bool
  | .popping _ => true
  | _ => false

structure Invariant (state : State Message) : Prop where
  queueHolds : SpscQueue.Invariant kQueueExponent state.queue
  handedOn : state.queue.returned = state.dispatched ++ state.consumer.pending
  betweenCalls : state.consumer.inCall = false → state.queue.consumer = .idle
  leftLoop : state.consumer.leftLoop = true → state.running = false
  stopStored : state.running = false → state.stopper = .stored ∨ state.stopper = .returned
  joined : state.stopper = .returned → state.consumer = .finished
  delivered : state.delivered = SpscQueue.attempted state.queue

theorem initial_invariant {queue : SpscQueue.State Message}
    (holds : SpscQueue.Invariant kQueueExponent queue) (producerIdle : queue.producer = .idle)
    (consumerIdle : queue.consumer = .idle) : Invariant (initial queue) where
  queueHolds := holds
  handedOn := by simp [initial, ConsumerThread.pending]
  betweenCalls := fun _ => consumerIdle
  leftLoop := by simp [initial, ConsumerThread.leftLoop]
  stopStored := by simp [initial]
  joined := by simp [initial]
  delivered := by simp [initial, SpscQueue.attempted, producerIdle]

theorem kQueueExponent_le : kQueueExponent ≤ 63 := by decide

theorem PushContinues.isPush {label : Label Message} {lowerLabel : SpscQueue.Label Message}
    (continues : PushContinues label lowerLabel) :
    lowerLabel.isPush = true ∧ ∀ value, lowerLabel ≠ .pushLoadHead value := by
  cases continues <;> exact ⟨rfl, nofun⟩

theorem PopContinues.isPop {label : Label Message} {lowerLabel : SpscQueue.Label Message}
    (continues : PopContinues label lowerLabel) :
    lowerLabel.isPush = false ∧ ∀ value, lowerLabel ≠ .pushLoadHead value := by
  cases continues <;> exact ⟨rfl, nofun⟩

theorem PopContinues.keeps_returned {label : Label Message}
    {lowerLabel : SpscQueue.Label Message} {queue lower : SpscQueue.State Message}
    (continues : PopContinues label lowerLabel)
    (taken : (SpscQueue.machine kQueueExponent element).step queue lowerLabel = some lower) :
    lower.returned = queue.returned := by
  cases continues <;> cases SpscQueue.transition_of_step taken <;> rfl

/-- A step of the I/O thread leaves the consumer's side of the queue alone. -/
theorem Invariant.pushStep (holds : Invariant state) {lowerLabel : SpscQueue.Label Message}
    {queue : SpscQueue.State Message} {delivered : List Message}
    (pushes : lowerLabel.isPush = true)
    (lower : (SpscQueue.machine kQueueExponent element).step state.queue lowerLabel =
      some queue)
    (calls : delivered = SpscQueue.attempted queue) :
    Invariant { state with queue := queue, delivered := delivered } := by
  obtain ⟨sameConsumer, samePops⟩ := SpscQueue.push_keeps_consumer pushes lower
  have sameReturned : queue.returned = state.queue.returned :=
    congrArg SpscQueue.returnedBy samePops
  refine { holds with
    queueHolds := holds.queueHolds.step kQueueExponent_le lower
    handedOn := sameReturned.trans holds.handedOn
    betweenCalls := ?_
    delivered := calls }
  intro outside
  exact sameConsumer.trans (holds.betweenCalls outside)

theorem Invariant.not_joined (holds : Invariant state) (working : state.consumer ≠ .finished) :
    state.stopper ≠ .returned :=
  fun ended => working (holds.joined ended)

/-- The head load of `try_pop` either ends the call over an empty queue or
leaves it in progress; no message changes hands. -/
theorem popLoadHead_cases {queue lower : SpscQueue.State Message}
    (taken : (SpscQueue.machine kQueueExponent element).step queue .popLoadHead = some lower) :
    lower.returned = queue.returned ∧
      ((lower.consumer = .idle ∧ lower.pops = queue.pops ++ [none]) ∨
        ∃ tail, lower.consumer = .checked tail) := by
  cases SpscQueue.transition_of_step taken with
  | popEmpty loaded empty => exact ⟨SpscQueue.returnedBy_append_none _, .inl ⟨rfl, rfl⟩⟩
  | popChecked loaded nonempty => exact ⟨rfl, .inr ⟨_, rfl⟩⟩

theorem Invariant.popLoadHead (holds : Invariant state) {draining : Bool}
    {queue : SpscQueue.State Message} (inCall : state.consumer = .popping draining)
    (lower : (SpscQueue.machine kQueueExponent element).step state.queue .popLoadHead =
      some queue) :
    Invariant { state with queue := queue, consumer := afterHeadLoad draining queue } := by
  have nothingPending := holds.handedOn
  rw [inCall] at nothingPending
  have loopLeft := holds.leftLoop
  rw [inCall] at loopLeft
  have notJoined := holds.not_joined (by rw [inCall]; nofun)
  obtain ⟨sameReturned, outcome⟩ := popLoadHead_cases lower
  have calls := SpscQueue.attempted_step nofun lower
  refine { holds with
    queueHolds := holds.queueHolds.step kQueueExponent_le lower
    handedOn := ?_
    betweenCalls := ?_
    leftLoop := ?_
    joined := fun ended => absurd ended notJoined
    delivered := holds.delivered.trans calls.symm }
  all_goals rcases outcome with ⟨idle, -⟩ | ⟨tail, passed⟩
  · cases draining <;> simp only [afterHeadLoad, idle, afterEmpty] <;>
      exact sameReturned.trans nothingPending
  · simp only [afterHeadLoad, passed]
    exact sameReturned.trans nothingPending
  · intro _
    exact idle
  · simp [afterHeadLoad, passed, ConsumerThread.inCall]
  · cases draining with
    | true => exact fun _ => loopLeft rfl
    | false => simp [afterHeadLoad, idle, afterEmpty, ConsumerThread.leftLoop]
  · simp only [afterHeadLoad, passed]
    exact loopLeft

theorem Invariant.popStoreTail (holds : Invariant state) {draining : Bool}
    {tail : SpscQueue.SizeT} {message : Message} {queue : SpscQueue.State Message}
    (inCall : state.consumer = .popping draining)
    (holding : state.queue.consumer = .taken tail message)
    (lower : (SpscQueue.machine kQueueExponent element).step state.queue .popStoreTail =
      some queue) :
    Invariant { state with queue := queue, consumer := .dispatching draining message } := by
  have nothingPending := holds.handedOn
  rw [inCall] at nothingPending
  have loopLeft := holds.leftLoop
  rw [inCall] at loopLeft
  have calls := SpscQueue.attempted_step nofun lower
  have outcome : queue.returned = state.queue.returned ++ [message] ∧ queue.consumer = .idle := by
    cases SpscQueue.transition_of_step lower with
    | popStoreTail moved =>
      rw [holding] at moved
      cases moved
      exact ⟨SpscQueue.returnedBy_append_some _ _, rfl⟩
  refine { holds with
    queueHolds := holds.queueHolds.step kQueueExponent_le lower
    handedOn := ?_
    betweenCalls := fun _ => outcome.2
    leftLoop := loopLeft
    joined := fun ended => absurd ended (holds.not_joined (by rw [inCall]; nofun))
    delivered := holds.delivered.trans calls.symm }
  rw [outcome.1, nothingPending]
  simp [ConsumerThread.pending]

theorem Invariant.dispatch (holds : Invariant state) {draining : Bool} {message : Message}
    (holding : state.consumer = .dispatching draining message) :
    Invariant { state with
      consumer := afterDispatch draining
      dispatched := state.dispatched ++ [message] } := by
  have handedOn := holds.handedOn
  have loopLeft := holds.leftLoop
  have idle := holds.betweenCalls
  rw [holding] at handedOn loopLeft idle
  refine { holds with
    handedOn := ?_
    betweenCalls := fun _ => idle rfl
    leftLoop := ?_
    joined := fun ended => absurd ended (holds.not_joined (by rw [holding]; nofun)) }
  · rw [handedOn]
    cases draining <;> simp [afterDispatch, ConsumerThread.pending]
  · cases draining with
    | true => exact fun _ => loopLeft rfl
    | false => simp [afterDispatch, ConsumerThread.leftLoop]

theorem Invariant.step {label : Label Message} (holds : Invariant state)
    (taken : (machine element).step state label = some after) : Invariant after := by
  cases transition_of_step taken with
  | deliver lower =>
    apply holds.pushStep rfl lower
    rw [SpscQueue.attempted_begin lower, holds.delivered]
  | push continues lower =>
    apply holds.pushStep continues.isPush.1 lower
    rw [SpscQueue.attempted_step continues.isPush.2 lower, holds.delivered]
  | loadRunning atCheck =>
    have handedOn := holds.handedOn
    rw [atCheck] at handedOn
    exact { holds with
      handedOn := handedOn
      betweenCalls := nofun
      leftLoop := by simp [ConsumerThread.leftLoop]
      joined := fun ended => absurd ended (holds.not_joined (by rw [atCheck]; nofun)) }
  | pop continues inCall lower =>
    have calls := SpscQueue.attempted_step continues.isPop.2 lower
    have sameReturned := continues.keeps_returned lower
    exact { holds with
      queueHolds := holds.queueHolds.step kQueueExponent_le lower
      handedOn := sameReturned.trans holds.handedOn
      betweenCalls := by rw [inCall]; nofun
      delivered := holds.delivered.trans calls.symm }
  | popLoadHead inCall lower => exact holds.popLoadHead inCall lower
  | popStoreTail inCall holding lower => exact holds.popStoreTail inCall holding lower
  | dispatch holding => exact holds.dispatch holding
  | yield idle =>
    have handedOn := holds.handedOn
    have between := holds.betweenCalls
    rw [idle] at handedOn between
    exact { holds with
      handedOn := handedOn
      betweenCalls := between
      leftLoop := nofun
      joined := fun ended => absurd ended (holds.not_joined (by rw [idle]; nofun)) }
  | stopLoad called =>
    have running : state.running = true := by
      cases stopped : state.running with
      | true => rfl
      | false =>
        rcases holds.stopStored stopped with stored | returned
        · rw [called] at stored
          cases stored
        · rw [called] at returned
          cases returned
    exact { holds with
      stopStored := fun stopped => by rw [running] at stopped; cases stopped
      joined := by simp [running] }
  | stopStore loaded =>
    exact { holds with
      leftLoop := fun _ => rfl
      stopStored := fun _ => .inl rfl
      joined := nofun }
  | stopJoin stored ended =>
    exact { holds with
      stopStored := fun _ => .inr rfl
      joined := fun _ => ended }

theorem reachable_invariant {start : State Message}
    {permitted : State Message → Label Message → Prop}
    (reached : (machine element).Reachable permitted start state)
    (initially : Invariant start) : Invariant state :=
  reached.invariant initially (fun holds _ taken => holds.step taken)

end Bintrade.Ws.QueuedDispatch
