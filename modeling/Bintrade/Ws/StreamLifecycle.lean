import Bintrade.System.Thread
import Bintrade.Core.Config
import Bintrade.Ws.KeepAlive

/-! The lifecycle of `UserStream` and `MarketStream`: which threads their operations
start and join, and what they leave when they throw. -/

namespace Bintrade.Ws

open Bintrade.System Bintrade.Core Bintrade.Auth Bintrade.Rest

/-- The consumer is joined whenever `running` is cleared, so a joinable consumer is
running. -/
structure QueueState where
  running : Bool
  consumerThread : Handle
  running_of_joinable : consumerThread = .joinable → running = true

def QueueState.fresh : QueueState := ⟨false, .vacant, nofun⟩

/-- `queue_state_` is created if there is none. -/
def startConsumer (queueState : Option QueueState) : Completion Exception (Option QueueState) :=
  (queueState.getD .fresh).consumerThread.launch.map fun consumerThread =>
    some ⟨true, consumerThread, fun _ => rfl⟩

/-- In queued mode the callback pushes into the queue, and a consumer is started. -/
def installDispatch (mode : DispatchMode) (queueState : Option QueueState) :
    Completion Exception (Option QueueState) :=
  match mode with
  | .queued => startConsumer queueState
  | .inline => .returned queueState

def stopConsumer : Option QueueState → Option QueueState
  | some state => if state.running then some ⟨false, .vacant, nofun⟩ else some state
  | none => none

/-- The destructor of `queue_state_`. -/
def destroyQueue : Option QueueState → Completion Exception (Option QueueState)
  | some state => state.consumerThread.destroy.map fun _ => none
  | none => .returned none

def consumerJoinable (queueState : Option QueueState) : Bool :=
  match queueState with
  | some state => state.consumerThread = .joinable
  | none => false

/-- No consumer is in the way of one that the dispatch mode asks for. -/
def consumerVacant (mode : DispatchMode) (queueState : Option QueueState) : Bool :=
  mode = .inline || !consumerJoinable queueState

/-- `WebSocketClient::connect`, with the text that the connection attempt left in
`connect_error`. -/
def connect (connectError : String) (ioThread : Handle) : Completion Exception Handle :=
  ioThread.launch.andThen fun ioThread =>
    if connectError.isEmpty then .returned ioThread
    else .threw (.network ("WebSocket connect failed: " ++ connectError)) .vacant

/-- `openKeys` are the listen keys that the exchange gave to the stream and that the
stream has not deleted. -/
structure UserStream where
  credentials : Credentials
  listenKey : String
  dispatchMode : DispatchMode
  started : Bool
  queueState : Option QueueState
  ioThread : Handle
  keepAliveThread : Handle
  stopKeepAlive : Bool
  openKeys : List String

namespace UserStream

def fresh (credentials : Credentials) : UserStream where
  credentials := credentials
  listenKey := ""
  dispatchMode := .inline
  started := false
  queueState := none
  ioThread := .vacant
  keepAliveThread := .vacant
  stopKeepAlive := false
  openKeys := []

def setDispatchMode (mode : DispatchMode) (stream : UserStream) :
    Completion Exception UserStream :=
  if stream.started then
    .threw (.validation "set_dispatch_mode must be called before start") stream
  else .returned { stream with dispatchMode := mode }

/-- The part of `start()` that depends on the dispatch mode. -/
def installDispatch (stream : UserStream) : Completion Exception UserStream :=
  (Ws.installDispatch stream.dispatchMode stream.queueState).map fun queueState =>
    { stream with queueState }

def connect (connectError : String) (stream : UserStream) : Completion Exception UserStream :=
  (Ws.connect connectError stream.ioThread).map fun ioThread => { stream with ioThread }

def startKeepAlive (stream : UserStream) : Completion Exception UserStream :=
  stream.keepAliveThread.launch.map fun keepAliveThread =>
    { stream with keepAliveThread, stopKeepAlive := false }

/-- `start()` once it has a listen key. -/
def run (connectError : String) (stream : UserStream) : Completion Exception UserStream :=
  (stream.installDispatch.andThen (connect connectError)).andThen startKeepAlive

def start (services : Services) (connectError : String) (stream : UserStream) :
    Completion Exception UserStream :=
  if stream.credentials.hasCredentials then
    match createListenKey services with
    | .error error => .threw error { stream with started := true }
    | .ok key =>
      if key.isEmpty then
        .threw (.api 0 "Empty listenKey returned by Binance")
          { stream with started := true, listenKey := key }
      else
        run connectError
          { stream with started := true, listenKey := key, openKeys := key :: stream.openKeys }
  else .threw (.authentication "UserStream::start requires valid credentials") stream

def keepAlive (services : Services) (stream : UserStream) : Completion Exception UserStream :=
  match Ws.keepAlive services stream.listenKey with
  | .ok () => .returned stream
  | .error error => .threw error stream

/-- A failed deletion is logged only. -/
def deleteKey (services : Services) (stream : UserStream) : UserStream :=
  if stream.listenKey.isEmpty then stream
  else
    match deleteListenKey services stream.listenKey with
    | .ok () =>
      { stream with listenKey := "", openKeys := stream.openKeys.erase stream.listenKey }
    | .error _ => { stream with listenKey := "" }

def stop (services : Services) (stream : UserStream) : Completion Exception UserStream :=
  let stream := { stream with queueState := stopConsumer stream.queueState }
  let stream := { stream with stopKeepAlive := true, keepAliveThread := .vacant }
  .returned { stream.deleteKey services with ioThread := .vacant }

/-- The destructor stops the consumer; the members are destroyed in reverse order of
their declaration, and `~WebSocketClient` joins the I/O thread. -/
def destroy (stream : UserStream) : Completion Exception UserStream :=
  let stream := { stream with queueState := stopConsumer stream.queueState }
  let handles := stream.keepAliveThread.destroy.map fun keepAliveThread =>
    { stream with keepAliveThread }
  handles.andThen fun stream => (destroyQueue stream.queueState).map fun queueState =>
    { stream with queueState, ioThread := .vacant }

end UserStream

/-- `impl` holds the I/O thread of the connection; a moved-from stream has none. -/
structure MarketStream where
  impl : Option Handle
  dispatchMode : DispatchMode
  subscribed : Bool
  queueState : Option QueueState

namespace MarketStream

def fresh : MarketStream where
  impl := some .vacant
  dispatchMode := .inline
  subscribed := false
  queueState := none

def setDispatchMode (mode : DispatchMode) (stream : MarketStream) :
    Completion Exception MarketStream :=
  if stream.subscribed then
    .threw (.validation "set_dispatch_mode must be called before subscribe") stream
  else .returned { stream with dispatchMode := mode }

def installDispatch (stream : MarketStream) : Completion Exception MarketStream :=
  (Ws.installDispatch stream.dispatchMode stream.queueState).map fun queueState =>
    { stream with queueState }

/-- Each `subscribe` method of a stream that has the given I/O thread: they differ in
the name of the stream and in the parser. -/
def subscribe (connectError : String) (ioThread : Handle) (stream : MarketStream) :
    Completion Exception MarketStream :=
  { stream with subscribed := true }.installDispatch.andThen fun stream =>
    (connect connectError ioThread).map fun ioThread => { stream with impl := some ioThread }

def disconnect (stream : MarketStream) : MarketStream :=
  { stream with impl := stream.impl.map fun _ => .vacant }

/-- What a move leaves in its source: the flags are copied. -/
def movedFrom (source : MarketStream) : MarketStream :=
  { source with impl := none, queueState := none }

/-- Move assignment disconnects the old connection of the target and destroys its old
`queue_state_`. -/
def moveAssign (target source : MarketStream) : Completion Exception MarketStream :=
  (destroyQueue target.queueState).map fun _ => source

def destroy (stream : MarketStream) : Completion Exception MarketStream :=
  (destroyQueue (stopConsumer stream.queueState)).map fun queueState =>
    { stream with queueState, impl := none }

end MarketStream

section Queues

variable {queueState : Option QueueState}

/-- A consumer that is in the way ends the process; otherwise queued mode starts one. -/
theorem installDispatch_cases (mode : DispatchMode) (queueState : Option QueueState) :
    (installDispatch mode queueState = .terminated ∧ consumerVacant mode queueState = false) ∨
      ∃ installed, installDispatch mode queueState = .returned installed ∧
        consumerVacant mode queueState = true ∧
        consumerJoinable installed = (consumerJoinable queueState || mode = .queued) := by
  cases mode with
  | inline =>
    refine .inr ⟨queueState, rfl, rfl, ?_⟩
    rw [decide_eq_false (by decide), Bool.or_false]
  | queued =>
    cases queueState with
    | none => exact .inr ⟨_, rfl, rfl, rfl⟩
    | some state =>
      simp only [installDispatch, startConsumer, consumerVacant, consumerJoinable, Option.getD_some]
      cases state.consumerThread with
      | vacant => exact .inr ⟨_, rfl, rfl, rfl⟩
      | joinable => exact .inl ⟨rfl, rfl⟩

theorem connect_cases (connectError : String) (ioThread : Handle) :
    (connect connectError ioThread = .terminated ∧ ioThread = .joinable) ∨
      (connect connectError ioThread = .returned .joinable ∧ ioThread = .vacant ∧
        connectError.isEmpty = true) ∨
      ∃ error, connect connectError ioThread = .threw error .vacant ∧ ioThread = .vacant ∧
        connectError.isEmpty = false := by
  unfold connect
  cases ioThread with
  | joinable => exact .inl ⟨rfl, rfl⟩
  | vacant =>
    cases connectError.isEmpty with
    | true => exact .inr (.inl ⟨rfl, rfl, rfl⟩)
    | false => exact .inr (.inr ⟨_, rfl, rfl, rfl⟩)

@[simp]
theorem isTerminated_destroyQueue :
    (destroyQueue queueState).isTerminated = true ↔ consumerJoinable queueState = true := by
  cases queueState with
  | none => exact iff_of_false nofun nofun
  | some state => simp [destroyQueue, consumerJoinable]

@[simp]
theorem consumerJoinable_stopConsumer : consumerJoinable (stopConsumer queueState) = false := by
  cases queueState with
  | none => rfl
  | some state =>
    by_cases running : state.running = true
    · simp [stopConsumer, running, consumerJoinable]
    · have vacant : state.consumerThread ≠ .joinable := fun joinable =>
        running (state.running_of_joinable joinable)
      simp [stopConsumer, running, consumerJoinable, vacant]

end Queues

end Bintrade.Ws
