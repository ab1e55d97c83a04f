import Bintrade.System.Machine
import Bintrade.Core.Config

/-! `WebSocketClient::Impl` after its first connect: the handlers that run one at a
time on the I/O thread, in any order and with any outcome of their operations. -/

namespace Bintrade.Ws.WebSocketClient

open Bintrade.System Bintrade.Core

/-- A pending timer of `attempt_reconnect`, with its delay in seconds before jitter. -/
structure Retry where
  attempt : Nat
  delay : Int
  deriving DecidableEq

/-- What a read delivers. -/
inductive Frame where
  | text (message : String)
  | binary
  deriving DecidableEq

/-- Streams are numbered in the order in which `ws` is assigned; `stream` is the
current one. Outstanding reads are listed by their stream. A ping timer that was
replaced leaves a wait behind, which is aborted unless its handler was queued before.

`gaveUp` says that the last call of `attempt_reconnect` gave up, and `staleEffect`
that the completion of a read on a replaced stream cleared `connected` and called
`attempt_reconnect`. -/
structure State where
  stream : Nat
  reads : List Nat
  pings : Nat
  retries : List Retry
  connected : Bool
  shouldStop : Bool
  received : List String
  reports : List String
  gaveUp : Bool
  staleEffect : Bool
  deriving DecidableEq

/-- The state that a successful `connect` on a fresh object leaves. -/
def initial : State where
  stream := 0
  reads := [0]
  pings := 1
  retries := []
  connected := true
  shouldStop := false
  received := []
  reports := []
  gaveUp := false
  staleEffect := false

inductive Label where
  | readCompletes (stream : Nat) (outcome : Except String Frame)
  | pingFires (outcome : Except String Unit)
  | pingAborted
  | retryFires (index : Nat) (outcome : Except String Unit)
  | disconnect

def State.report (state : State) (message : String) : State :=
  { state with reports := state.reports ++ [message] }

def attemptReconnect (config : WebSocketConfig) (attempt : Nat) (delay : Int) (state : State) :
    State :=
  if state.shouldStop then state
  else if config.maxReconnectAttempts ≤ attempt then
    { state.report "Max reconnect attempts reached -- giving up" with gaveUp := true }
  else { state with retries := state.retries ++ [⟨attempt, delay⟩], gaveUp := false }

def doRead (state : State) : State :=
  if state.shouldStop then state else { state with reads := state.stream :: state.reads }

theorem doRead_running {state : State} (running : ¬ state.shouldStop = true) :
    doRead state = { state with reads := state.stream :: state.reads } :=
  if_neg running

theorem doRead_shouldStop {state : State} : (doRead state).shouldStop = state.shouldStop := by
  unfold doRead
  split <;> rfl

def doPingTimer (state : State) : State := { state with pings := state.pings + 1 }

/-- The handler captures the client, not the stream that it read from. -/
def handleRead (config : WebSocketConfig) (origin : Nat) (outcome : Except String Frame)
    (state : State) : State :=
  if state.shouldStop then state
  else
    match outcome with
    | .error message =>
      let dropped := { state with
        connected := false
        staleEffect := state.staleEffect || origin ≠ state.stream }
      attemptReconnect config 0 config.reconnectInterval
        (dropped.report ("Read error: " ++ message))
    | .ok (.text message) => doRead { state with received := state.received ++ [message] }
    | .ok .binary => doRead state

def handlePing (config : WebSocketConfig) (outcome : Except String Unit) (state : State) : State :=
  if state.shouldStop then state
  else if state.connected then
    match outcome with
    | .error message =>
      attemptReconnect config 0 config.reconnectInterval
        ({ state with connected := false }.report ("Ping failed: " ++ message))
    | .ok _ => doPingTimer state
  else doPingTimer state

/-- The start of a reconnect: the stream is replaced before it is connected. -/
def replaceStream (retry : Retry) (state : State) : State :=
  { state with
    stream := state.stream + 1
    reports := state.reports ++
      ["Reconnecting (attempt " ++ toString (retry.attempt + 1) ++ ")..."] }

def handleRetry (config : WebSocketConfig) (retry : Retry) (outcome : Except String Unit)
    (state : State) : State :=
  if state.shouldStop then state
  else
    match outcome with
    | .ok _ => doPingTimer (doRead { replaceStream retry state with connected := true })
    | .error message =>
      attemptReconnect config (retry.attempt + 1) (min (retry.delay * 2) 60)
        ({ replaceStream retry state with connected := false }.report
          ("Reconnect attempt failed: " ++ message))

def step (config : WebSocketConfig) (state : State) : Label → Option State
  | .readCompletes stream outcome =>
    if stream ∈ state.reads then
      some (handleRead config stream outcome { state with reads := state.reads.erase stream })
    else none
  | .pingFires outcome =>
    if 0 < state.pings then
      some (handlePing config outcome { state with pings := state.pings - 1 })
    else none
  | .pingAborted =>
    if 1 < state.pings ∨ state.shouldStop = true ∧ 0 < state.pings then
      some { state with pings := state.pings - 1 }
    else none
  | .retryFires index outcome =>
    match state.retries[index]? with
    | some retry =>
      some (handleRetry config retry outcome
        { state with retries := state.retries.eraseIdx index })
    | none => none
  | .disconnect => some { state with shouldStop := true, connected := false }

def machine (config : WebSocketConfig) : Machine State Label where
  step := step config

end Bintrade.Ws.WebSocketClient
