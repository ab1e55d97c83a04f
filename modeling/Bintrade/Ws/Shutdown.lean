import Bintrade.Ws.DispatchOrder

/-! `UserStream::stop` in `DispatchMode::Queued`. The consumer is stopped first
and the I/O thread last; deliveries stay possible until the WebSocket is
disconnected. -/

namespace Bintrade.Ws.Shutdown

open Bintrade.System Bintrade.Core

universe u

variable {Message : Type u}

/-- Where the I/O thread stands in `handle_read`: waiting for a read, past the
check of `should_stop` with a message, inside the queued callback, or joined. -/
inductive IoThread (Message : Type u) where
  | reading
  | checked (message : Message)
  | pushing
  | joined

/-- The statements of `stop()`, each a point where other threads may run. -/
inductive StopCall where
  | notCalled
  | stoppingConsumer
  | signallingKeepAlive
  | joiningKeepAlive
  | deletingListenKey
  | disconnecting
  | joiningIo
  | returned
  deriving DecidableEq

structure State (Message : Type u) where
  dispatch : QueuedDispatch.State Message
  io : IoThread Message
  stop : StopCall
  stopKeepAlive : Bool
  keepAliveRunning : Bool
  listenKey : List Char
  shouldStop : Bool

/-- A stream that started, over a queue that may hold messages of an earlier
session. -/
def initial (queue : SpscQueue.State Message) (listenKey : List Char) : State Message where
  dispatch := QueuedDispatch.initial queue
  io := .reading
  stop := .notCalled
  stopKeepAlive := false
  keepAliveRunning := true
  listenKey := listenKey
  shouldStop := false

inductive Label (Message : Type u) where
  | readCompletes (message : Message)
  | deliver
  | push (label : QueuedDispatch.Label Message)
  | consume (label : QueuedDispatch.Label Message)
  | stopCall
  | stopConsumer (label : QueuedDispatch.Label Message)
  | signalKeepAlive
  | keepAliveExits
  | joinKeepAlive
  | deleteListenKey
  | disconnect
  | joinIo

/-- The steps a delivery takes inside the callback. -/
def pushes : QueuedDispatch.Label Message → Bool
  | .pushLoadTail | .pushWriteSlot | .pushStoreHead => true
  | _ => false

/-- The steps of the consumer thread. -/
def consumes : QueuedDispatch.Label Message → Bool
  | .loadRunning | .popLoadTail | .popLoadHead | .popReadSlot | .popStoreTail
  | .dispatch | .yield => true
  | _ => false

/-- The steps of `stop_consumer`. -/
def stopsConsumer : QueuedDispatch.Label Message → Bool
  | .stopLoad | .stopStore | .stopJoin => true
  | _ => false

def afterPush (dispatch : QueuedDispatch.State Message) : IoThread Message :=
  if dispatch.queue.producer.isIdle then .reading else .pushing

/-- `stop()` goes on once `stop_consumer` returned. -/
def afterStopConsumer (dispatch : QueuedDispatch.State Message) : StopCall :=
  if dispatch.stopper = .returned then .signallingKeepAlive else .stoppingConsumer

def step (element : SpscQueue.Element Message) (state : State Message) :
    Label Message → Option (State Message)
  | .readCompletes message =>
    match state.io with
    | .reading => if state.shouldStop then none else some { state with io := .checked message }
    | _ => none
  | .deliver =>
    match state.io with
    | .checked message =>
      (QueuedDispatch.step element state.dispatch (.deliver message)).map fun dispatch =>
        { state with dispatch := dispatch, io := .pushing }
    | _ => none
  | .push label =>
    match state.io with
    | .pushing =>
      if pushes label then
        (QueuedDispatch.step element state.dispatch label).map fun dispatch =>
          { state with dispatch := dispatch, io := afterPush dispatch }
      else none
    | _ => none
  | .consume label =>
    if consumes label then
      (QueuedDispatch.step element state.dispatch label).map fun dispatch =>
        { state with dispatch := dispatch }
    else none
  | .stopCall =>
    match state.stop with
    | .notCalled => some { state with stop := .stoppingConsumer }
    | _ => none
  | .stopConsumer label =>
    match state.stop with
    | .stoppingConsumer =>
      if stopsConsumer label then
        (QueuedDispatch.step element state.dispatch label).map fun dispatch =>
          { state with dispatch := dispatch, stop := afterStopConsumer dispatch }
      else none
    | _ => none
  | .signalKeepAlive =>
    match state.stop with
    | .signallingKeepAlive =>
      some { state with stopKeepAlive := true, stop := .joiningKeepAlive }
    | _ => none
  | .keepAliveExits =>
    if state.stopKeepAlive then some { state with keepAliveRunning := false } else none
  | .joinKeepAlive =>
    match state.stop with
    | .joiningKeepAlive =>
      if state.keepAliveRunning then none else some { state with stop := .deletingListenKey }
    | _ => none
  | .deleteListenKey =>
    match state.stop with
    | .deletingListenKey => some { state with listenKey := [], stop := .disconnecting }
    | _ => none
  | .disconnect =>
    match state.stop with
    | .disconnecting => some { state with shouldStop := true, stop := .joiningIo }
    | _ => none
  | .joinIo =>
    match state.stop, state.io with
    | .joiningIo, .reading => some { state with io := .joined, stop := .returned }
    | _, _ => none

def machine (element : SpscQueue.Element Message) :
    Machine (State Message) (Label Message) where
  step := step element

variable {element : SpscQueue.Element Message} {state after : State Message}

/-- Everything one step can do. -/
inductive Transition (element : SpscQueue.Element Message) (state : State Message) :
    Label Message → State Message → Prop where
  | readCompletes (message : Message) (waiting : state.io = .reading)
      (live : state.shouldStop = false) :
      Transition element state (.readCompletes message) { state with io := .checked message }
  | deliver {message : Message} {dispatch : QueuedDispatch.State Message}
      (holding : state.io = .checked message)
      (lower : (QueuedDispatch.machine element).step state.dispatch (.deliver message) =
        some dispatch) :
      Transition element state .deliver { state with dispatch := dispatch, io := .pushing }
  | push {label : QueuedDispatch.Label Message} {dispatch : QueuedDispatch.State Message}
      (inside : state.io = .pushing) (continues : pushes label = true)
      (lower : (QueuedDispatch.machine element).step state.dispatch label = some dispatch) :
      Transition element state (.push label)
        { state with dispatch := dispatch, io := afterPush dispatch }
  | consume {label : QueuedDispatch.Label Message} {dispatch : QueuedDispatch.State Message}
      (consuming : consumes label = true)
      (lower : (QueuedDispatch.machine element).step state.dispatch label = some dispatch) :
      Transition element state (.consume label) { state with dispatch := dispatch }
  | stopCall (before : state.stop = .notCalled) :
      Transition element state .stopCall { state with stop := .stoppingConsumer }
  | stopConsumer {label : QueuedDispatch.Label Message}
      {dispatch : QueuedDispatch.State Message} (inside : state.stop = .stoppingConsumer)
      (stopping : stopsConsumer label = true)
      (lower : (QueuedDispatch.machine element).step state.dispatch label = some dispatch) :
      Transition element state (.stopConsumer label)
        { state with dispatch := dispatch, stop := afterStopConsumer dispatch }
  | signalKeepAlive (inside : state.stop = .signallingKeepAlive) :
      Transition element state .signalKeepAlive
        { state with stopKeepAlive := true, stop := .joiningKeepAlive }
  | keepAliveExits (signalled : state.stopKeepAlive = true) :
      Transition element state .keepAliveExits { state with keepAliveRunning := false }
  | joinKeepAlive (inside : state.stop = .joiningKeepAlive)
      (ended : state.keepAliveRunning = false) :
      Transition element state .joinKeepAlive { state with stop := .deletingListenKey }
  | deleteListenKey (inside : state.stop = .deletingListenKey) :
      Transition element state .deleteListenKey
        { state with listenKey := [], stop := .disconnecting }
  | disconnect (inside : state.stop = .disconnecting) :
      Transition element state .disconnect
        { state with shouldStop := true, stop := .joiningIo }
  | joinIo (inside : state.stop = .joiningIo) (waiting : state.io = .reading) :
      Transition element state .joinIo { state with io := .joined, stop := .returned }

theorem transition_of_step {label : Label Message}
    (taken : (machine element).step state label = some after) :
    Transition element state label after := by
  cases label with
  | readCompletes message =>
    simp only [machine, step] at taken
    split at taken
    · split at taken <;> cases taken
      exact .readCompletes message ‹_› (Bool.eq_false_of_not_eq_true ‹_›)
    · cases taken
  | deliver =>
    simp only [machine, step] at taken
    split at taken
    · obtain ⟨dispatch, lower, rfl⟩ := Option.map_eq_some_iff.mp taken
      exact .deliver ‹_› lower
    · cases taken
  | push label =>
    simp only [machine, step] at taken
    split at taken
    · split at taken
      · obtain ⟨dispatch, lower, rfl⟩ := Option.map_eq_some_iff.mp taken
        exact .push ‹_› ‹_› lower
      · cases taken
    · cases taken
  | consume label =>
    simp only [machine, step] at taken
    split at taken
    · obtain ⟨dispatch, lower, rfl⟩ := Option.map_eq_some_iff.mp taken
      exact .consume ‹_› lower
    · cases taken
  | stopCall =>
    simp only [machine, step] at taken
    split at taken <;> cases taken
    exact .stopCall ‹_›
  | stopConsumer label =>
    simp only [machine, step] at taken
    split at taken
    · split at taken
      · obtain ⟨dispatch, lower, rfl⟩ := Option.map_eq_some_iff.mp taken
        exact .stopConsumer ‹_› ‹_› lower
      · cases taken
    · cases taken
  | signalKeepAlive =>
    simp only [machine, step] at taken
    split at taken <;> cases taken
    exact .signalKeepAlive ‹_›
  | keepAliveExits =>
    simp only [machine, step] at taken
    split at taken <;> cases taken
    exact .keepAliveExits ‹_›
  | joinKeepAlive =>
    simp only [machine, step] at taken
    split at taken
    · split at taken <;> cases taken
      exact .joinKeepAlive ‹_› (Bool.eq_false_of_not_eq_true ‹_›)
    · cases taken
  | deleteListenKey =>
    simp only [machine, step] at taken
    split at taken <;> cases taken
    exact .deleteListenKey ‹_›
  | disconnect =>
    simp only [machine, step] at taken
    split at taken <;> cases taken
    exact .disconnect ‹_›
  | joinIo =>
    simp only [machine, step] at taken
    split at taken <;> cases taken
    exact .joinIo ‹_› ‹_›

/-- Every step takes at most one step of the dispatch machine, and accepts a
message only through the label that says so. -/
theorem dispatch_of_step {label : Label Message}
    (taken : (machine element).step state label = some after) :
    after.dispatch = state.dispatch ∨ ∃ lowerLabel,
      (QueuedDispatch.machine element).step state.dispatch lowerLabel = some after.dispatch ∧
        (lowerLabel = .pushStoreHead → label = .push .pushStoreHead) := by
  cases transition_of_step taken with
  | deliver holding lower => exact .inr ⟨_, lower, nofun⟩
  | push inside continues lower => exact .inr ⟨_, lower, fun stores => by rw [stores]⟩
  | consume consuming lower =>
    refine .inr ⟨_, lower, ?_⟩
    rintro rfl
    cases consuming
  | stopConsumer inside stopping lower =>
    refine .inr ⟨_, lower, ?_⟩
    rintro rfl
    cases stopping
  | _ => exact .inl rfl

/-- `stop()` is past its call of `stop_consumer`. -/
def StopCall.pastConsumer : StopCall → Bool
  | .notCalled | .stoppingConsumer => false
  | _ => true

/-- The dispatch invariant, and that `stop()` waits for `stop_consumer`. -/
structure Invariant (state : State Message) : Prop where
  dispatchHolds : QueuedDispatch.Invariant state.dispatch
  consumerStopped : state.stop.pastConsumer = true → state.dispatch.stopper = .returned

theorem Invariant.step {label : Label Message} (holds : Invariant state)
    (taken : (machine element).step state label = some after) : Invariant after := by
  have dispatchHolds : QueuedDispatch.Invariant after.dispatch := by
    rcases dispatch_of_step taken with same | ⟨lowerLabel, lower, -⟩
    · rw [same]
      exact holds.dispatchHolds
    · exact holds.dispatchHolds.step lower
  have kept (past : state.stop.pastConsumer = true) : after.dispatch.stopper = .returned := by
    rcases dispatch_of_step taken with same | ⟨lowerLabel, lower, -⟩
    · rw [same]
      exact holds.consumerStopped past
    · exact QueuedDispatch.returned_step (holds.consumerStopped past) lower
  refine ⟨dispatchHolds, ?_⟩
  cases transition_of_step taken with
  | stopCall before => exact nofun
  | @stopConsumer label dispatch inside stopping lower =>
    intro past
    by_cases ended : dispatch.stopper = .returned
    · exact ended
    · simp [afterStopConsumer, ended, StopCall.pastConsumer] at past
  | signalKeepAlive inside => exact fun _ => kept (by rw [inside]; rfl)
  | joinKeepAlive inside ended => exact fun _ => kept (by rw [inside]; rfl)
  | deleteListenKey inside => exact fun _ => kept (by rw [inside]; rfl)
  | disconnect inside => exact fun _ => kept (by rw [inside]; rfl)
  | joinIo inside waiting => exact fun _ => kept (by rw [inside]; rfl)
  | _ => exact kept

/-- The consumer thread has not ended. -/
def consumerRuns (state : State Message) : Bool :=
  match state.dispatch.consumer with
  | .finished => false
  | _ => true

/-- A message is accepted only while the consumer thread still runs. -/
def inTime (state : State Message) : Label Message → Bool
  | .push .pushStoreHead => consumerRuns state
  | _ => true

def acceptedInTime (state : State Message) (label : Label Message) : Prop :=
  inTime state label = true

instance (state : State Message) (label : Label Message) :
    Decidable (acceptedInTime state label) :=
  inferInstanceAs (Decidable (inTime state label = true))

theorem drained_step {label : Label Message} (holds : Invariant state)
    (drained : QueuedDispatch.Drained state.dispatch) (permitted : acceptedInTime state label)
    (taken : (machine element).step state label = some after) :
    QueuedDispatch.Drained after.dispatch := by
  rcases dispatch_of_step taken with same | ⟨lowerLabel, lower, stores⟩
  · rw [same]
    exact drained
  · apply drained.step holds.dispatchHolds _ lower
    intro accepts ended
    have early : acceptedInTime state (.push .pushStoreHead) := stores accepts ▸ permitted
    simp [acceptedInTime, inTime, consumerRuns, ended] at early

section Session

variable {queue : SpscQueue.State Message} {listenKey : List Char}

/-- A session starts over any queue that its threads have left. -/
structure Restartable (element : SpscQueue.Element Message) (queue : SpscQueue.State Message) :
    Prop where
  reached : (SpscQueue.machine QueuedDispatch.kQueueExponent element).Reachable
    Machine.anyStep (SpscQueue.initial element) queue
  producerIdle : queue.producer = .idle
  consumerIdle : queue.consumer = .idle

theorem initial_invariant (ready : Restartable element queue) :
    Invariant (initial queue listenKey) := by
  have queueHolds := SpscQueue.reachable_invariant ready.reached
    QueuedDispatch.kQueueExponent_le SpscQueue.initial_invariant
  exact ⟨QueuedDispatch.initial_invariant queueHolds ready.producerIdle ready.consumerIdle,
    nofun⟩

theorem reachable_invariant {permitted : State Message → Label Message → Prop}
    (ready : Restartable element queue)
    (reached : (machine element).Reachable permitted (initial queue listenKey) state) :
    Invariant state :=
  reached.invariant (initial_invariant ready) (fun holds _ taken => holds.step taken)

/-- A run that accepted every message in time drained the queue. -/
theorem drained_of_inTime (ready : Restartable element queue)
    (reached : (machine element).Reachable acceptedInTime (initial queue listenKey) state) :
    QueuedDispatch.Drained state.dispatch := by
  have both : Invariant state ∧ QueuedDispatch.Drained state.dispatch := by
    apply reached.invariant
    · exact ⟨initial_invariant ready, nofun⟩
    · intro before after label holds permitted taken
      exact ⟨holds.1.step taken, drained_step holds.1 holds.2 permitted taken⟩
  exact both.2

/-- Any other run has left a message behind, and it stays behind. -/
theorem inTime_or_stranded (ready : Restartable element queue)
    (reached : (machine element).Reachable Machine.anyStep (initial queue listenKey) state) :
    (machine element).Reachable acceptedInTime (initial queue listenKey) state ∨
      QueuedDispatch.Stranded state.dispatch := by
  induction reached with
  | start => exact .inl .start
  | @next before after label earlier _ taken ih =>
    rcases ih with punctual | stranded
    · by_cases permitted : acceptedInTime before label
      · exact .inl (.next punctual permitted taken)
      · right
        have holds := reachable_invariant ready earlier
        have late : label = .push .pushStoreHead ∧ before.dispatch.consumer = .finished := by
          unfold acceptedInTime inTime consumerRuns at permitted
          split at permitted
          · split at permitted
            · exact ⟨rfl, ‹_›⟩
            · exact absurd rfl permitted
          · exact absurd rfl permitted
        obtain ⟨rfl, ended⟩ := late
        cases transition_of_step taken with
        | push inside continues lower =>
          exact QueuedDispatch.stranded_of_late holds.dispatchHolds ended lower
    · right
      rcases dispatch_of_step taken with same | ⟨lowerLabel, lower, -⟩
      · rw [same]
        exact stranded
      · exact stranded.step lower

/-- When `stop()` returns, every accepted message has been dispatched, once and
in order, exactly if each of them was accepted while the consumer thread ran. -/
theorem shutdown_dispatches_accepted (ready : Restartable element queue)
    (reached : (machine element).Reachable Machine.anyStep (initial queue listenKey) state)
    (ended : state.stop = .returned) :
    state.dispatch.dispatched = state.dispatch.queue.accepted ↔
      (machine element).Reachable acceptedInTime (initial queue listenKey) state := by
  have holds := reachable_invariant ready reached
  constructor
  · intro all
    rcases inTime_or_stranded ready reached with punctual | stranded
    · exact punctual
    · exact absurd all (stranded.not_all_dispatched holds.dispatchHolds)
  · intro punctual
    have stopped := holds.consumerStopped (by rw [ended]; rfl)
    have finished := holds.dispatchHolds.joined stopped
    rw [QueuedDispatch.dispatched_of_finished holds.dispatchHolds finished]
    exact (drained_of_inTime ready punctual finished).symm

end Session

theorem fresh_restartable (element : SpscQueue.Element Message) :
    Restartable element (SpscQueue.initial element) :=
  ⟨.start, rfl, rfl⟩

open QueuedDispatch (stringElement)

/-- The steps of one delivery on the I/O thread. -/
def delivery (message : List Char) : List (Label (List Char)) :=
  [.readCompletes message, .deliver, .push .pushLoadTail, .push .pushWriteSlot,
    .push .pushStoreHead]

/-- `stop_consumer` over a queue with nothing left in it. -/
def stopIdleConsumer : List (Label (List Char)) :=
  [.stopConsumer .stopLoad, .stopConsumer .stopStore, .consume .loadRunning,
    .consume .popLoadTail, .consume .popLoadHead, .stopConsumer .stopJoin]

/-- The rest of `stop()`. -/
def finishStop : List (Label (List Char)) :=
  [.signalKeepAlive, .keepAliveExits, .joinKeepAlive, .deleteListenKey, .disconnect, .joinIo]

def consumeOne : List (Label (List Char)) :=
  [.consume .loadRunning, .consume .popLoadTail, .consume .popLoadHead, .consume .popReadSlot,
    .consume .popStoreTail, .consume .dispatch]

theorem shutdown_after_delivery :
    ∃ state : State (List Char),
      (machine stringElement).Reachable acceptedInTime
        (initial (SpscQueue.initial stringElement) ['k']) state ∧
      state.stop = .returned ∧ state.dispatch.queue.accepted = [['m']] ∧
      state.dispatch.dispatched = state.dispatch.queue.accepted := by
  have stopped : ∃ state : State (List Char),
      (machine stringElement).Reachable acceptedInTime
        (initial (SpscQueue.initial stringElement) ['k']) state ∧
      (state.stop = .returned ∧ state.dispatch.queue.accepted = [['m']]) :=
    Machine.exists_reachable_of_run
      (delivery ['m'] ++ consumeOne ++ [.stopCall] ++ stopIdleConsumer ++ finishStop) (by decide)
  obtain ⟨state, reached, ended, accepted⟩ := stopped
  have complete := shutdown_dispatches_accepted (fresh_restartable _) reached.free ended
  exact ⟨state, reached, ended, accepted, complete.mpr reached⟩

/-- A message that arrives after the consumer was joined is accepted by the queue
and never dispatched. -/
theorem late_message_stranded :
    ∃ state : State (List Char),
      (machine stringElement).Reachable Machine.anyStep
        (initial (SpscQueue.initial stringElement) ['k']) state ∧
      (state.stop = .returned ∧ state.dispatch.queue.accepted = [['m']] ∧
        state.dispatch.dispatched = []) :=
  Machine.exists_reachable_of_run
    ([.stopCall] ++ stopIdleConsumer ++ delivery ['m'] ++ finishStop) (by decide)

end Bintrade.Ws.Shutdown
