import Bintrade.Ws.WebSocketClient

/-! What one handler of the WebSocket client can do, case by case. -/

namespace Bintrade.Ws.WebSocketClient

open Bintrade.System Bintrade.Core

/-- The states a handler runs in: its own operation is no longer outstanding. -/
def State.withoutRead (state : State) (stream : Nat) : State :=
  { state with reads := state.reads.erase stream }

def State.withoutPing (state : State) : State := { state with pings := state.pings - 1 }

def State.withoutRetry (state : State) (index : Nat) : State :=
  { state with retries := state.retries.eraseIdx index }

/-- What a delivered frame adds to the messages. -/
def Frame.messages : Frame → List String
  | .text message => [message]
  | .binary => []

/-- Every handler, by what it found: the flag `should_stop`, the outcome of its operation,
and for a ping whether there is a connection. -/
inductive Transition (config : WebSocketConfig) (state : State) : Label → State → Prop where
  | readStopped {stream : Nat} {outcome : Except String Frame} (outstanding : stream ∈ state.reads)
      (stopped : state.shouldStop = true) :
      Transition config state (.readCompletes stream outcome) (state.withoutRead stream)
  | readFails {stream : Nat} {message : String} (outstanding : stream ∈ state.reads)
      (running : state.shouldStop = false) :
      Transition config state (.readCompletes stream (.error message))
        (attemptReconnect config 0 config.reconnectInterval
          { state.withoutRead stream with
            connected := false
            staleEffect := state.staleEffect || stream ≠ state.stream
            reports := state.reports ++ ["Read error: " ++ message] })
  | readDelivers {stream : Nat} {frame : Frame} (outstanding : stream ∈ state.reads)
      (running : state.shouldStop = false) :
      Transition config state (.readCompletes stream (.ok frame))
        { state with
          reads := state.stream :: state.reads.erase stream
          received := state.received ++ frame.messages }
  | pingStopped {outcome : Except String Unit} (waiting : 0 < state.pings)
      (stopped : state.shouldStop = true) :
      Transition config state (.pingFires outcome) state.withoutPing
  | pingFails {message : String} (waiting : 0 < state.pings) (running : state.shouldStop = false)
      (up : state.connected = true) :
      Transition config state (.pingFires (.error message))
        (attemptReconnect config 0 config.reconnectInterval
          { state.withoutPing with
            connected := false
            reports := state.reports ++ ["Ping failed: " ++ message] })
  | pingRestarts {outcome : Except String Unit} (waiting : 0 < state.pings)
      (running : state.shouldStop = false)
      (answered : state.connected = true → ∀ message, outcome ≠ .error message) :
      Transition config state (.pingFires outcome) state
  | pingAborted (spare : 1 < state.pings ∨ state.shouldStop = true ∧ 0 < state.pings) :
      Transition config state .pingAborted state.withoutPing
  | retryStopped {index : Nat} {retry : Retry} {outcome : Except String Unit}
      (pending : state.retries[index]? = some retry) (stopped : state.shouldStop = true) :
      Transition config state (.retryFires index outcome) (state.withoutRetry index)
  | reconnects {index : Nat} {retry : Retry} (pending : state.retries[index]? = some retry)
      (running : state.shouldStop = false) :
      Transition config state (.retryFires index (.ok ()))
        { replaceStream retry (state.withoutRetry index) with
          connected := true
          reads := (state.stream + 1) :: state.reads
          pings := state.pings + 1 }
  | retryFails {index : Nat} {retry : Retry} {message : String}
      (pending : state.retries[index]? = some retry) (running : state.shouldStop = false) :
      Transition config state (.retryFires index (.error message))
        (attemptReconnect config (retry.attempt + 1) (min (retry.delay * 2) 60)
          ({ replaceStream retry (state.withoutRetry index) with connected := false }.report
            ("Reconnect attempt failed: " ++ message)))
  | disconnect :
      Transition config state .disconnect { state with shouldStop := true, connected := false }

section Reconnecting

variable {config : WebSocketConfig} {state : State} (attempt : Nat) (delay : Int)

@[simp] theorem attemptReconnect_reads :
    (attemptReconnect config attempt delay state).reads = state.reads := by
  unfold attemptReconnect
  split
  · rfl
  · split <;> rfl

@[simp] theorem attemptReconnect_stream :
    (attemptReconnect config attempt delay state).stream = state.stream := by
  unfold attemptReconnect
  split
  · rfl
  · split <;> rfl

@[simp] theorem attemptReconnect_pings :
    (attemptReconnect config attempt delay state).pings = state.pings := by
  unfold attemptReconnect
  split
  · rfl
  · split <;> rfl

@[simp] theorem attemptReconnect_connected :
    (attemptReconnect config attempt delay state).connected = state.connected := by
  unfold attemptReconnect
  split
  · rfl
  · split <;> rfl

@[simp] theorem attemptReconnect_shouldStop :
    (attemptReconnect config attempt delay state).shouldStop = state.shouldStop := by
  unfold attemptReconnect
  split
  · rfl
  · split <;> rfl

@[simp] theorem attemptReconnect_received :
    (attemptReconnect config attempt delay state).received = state.received := by
  unfold attemptReconnect
  split
  · rfl
  · split <;> rfl

end Reconnecting

section Handlers

variable {config : WebSocketConfig} {state : State}

theorem handleRead_stopped {origin : Nat} {outcome : Except String Frame}
    (stopped : state.shouldStop = true) : handleRead config origin outcome state = state :=
  if_pos stopped

theorem handleRead_error {origin : Nat} {message : String} (running : state.shouldStop = false) :
    handleRead config origin (.error message) state =
      attemptReconnect config 0 config.reconnectInterval
        { state with
          connected := false
          staleEffect := state.staleEffect || origin ≠ state.stream
          reports := state.reports ++ ["Read error: " ++ message] } :=
  if_neg (Bool.eq_false_iff.mp running)

theorem handleRead_ok {origin : Nat} {frame : Frame} (running : state.shouldStop = false) :
    handleRead config origin (.ok frame) state =
      { state with
        reads := state.stream :: state.reads, received := state.received ++ frame.messages } := by
  have going := Bool.eq_false_iff.mp running
  unfold handleRead
  rw [if_neg going]
  cases frame with
  | text message => exact if_neg going
  | binary =>
    refine (if_neg going).trans ?_
    simp [Frame.messages]

theorem handlePing_stopped {outcome : Except String Unit} (stopped : state.shouldStop = true) :
    handlePing config outcome state = state :=
  if_pos stopped

theorem handlePing_error {message : String} (running : state.shouldStop = false)
    (up : state.connected = true) :
    handlePing config (.error message) state =
      attemptReconnect config 0 config.reconnectInterval
        { state with
          connected := false, reports := state.reports ++ ["Ping failed: " ++ message] } :=
  (if_neg (Bool.eq_false_iff.mp running)).trans (if_pos up)

theorem handlePing_restarts {outcome : Except String Unit} (running : state.shouldStop = false)
    (answered : state.connected = true → ∀ message, outcome ≠ .error message) :
    handlePing config outcome state = doPingTimer state := by
  unfold handlePing
  rw [if_neg (Bool.eq_false_iff.mp running)]
  split
  · rename_i up
    cases outcome with
    | error message => exact absurd rfl (answered up message)
    | ok _ => rfl
  · rfl

theorem handleRetry_stopped {retry : Retry} {outcome : Except String Unit}
    (stopped : state.shouldStop = true) : handleRetry config retry outcome state = state :=
  if_pos stopped

theorem handleRetry_ok {retry : Retry} (running : state.shouldStop = false) :
    handleRetry config retry (.ok ()) state =
      { replaceStream retry state with
        connected := true
        reads := (state.stream + 1) :: state.reads
        pings := state.pings + 1 } := by
  have going := Bool.eq_false_iff.mp running
  refine (if_neg going).trans ?_
  exact congrArg doPingTimer (if_neg going)

theorem handleRetry_error {retry : Retry} {message : String} (running : state.shouldStop = false) :
    handleRetry config retry (.error message) state =
      attemptReconnect config (retry.attempt + 1) (min (retry.delay * 2) 60)
        ({ replaceStream retry state with connected := false }.report
          ("Reconnect attempt failed: " ++ message)) :=
  if_neg (Bool.eq_false_iff.mp running)

theorem transition_readCompletes {stream : Nat} (outcome : Except String Frame)
    (outstanding : stream ∈ state.reads) :
    Transition config state (.readCompletes stream outcome)
      (handleRead config stream outcome (state.withoutRead stream)) := by
  rcases Bool.eq_false_or_eq_true state.shouldStop with stopped | running
  · have noticed : (state.withoutRead stream).shouldStop = true := stopped
    rw [handleRead_stopped noticed]
    exact .readStopped outstanding stopped
  · have going : (state.withoutRead stream).shouldStop = false := running
    cases outcome with
    | error message =>
      rw [handleRead_error going]
      exact .readFails outstanding running
    | ok frame =>
      rw [handleRead_ok going]
      exact .readDelivers outstanding running

theorem transition_pingFires (outcome : Except String Unit) (waiting : 0 < state.pings) :
    Transition config state (.pingFires outcome)
      (handlePing config outcome state.withoutPing) := by
  have restarted : doPingTimer state.withoutPing = state := by
    have counted : state.pings - 1 + 1 = state.pings := by omega
    simp only [doPingTimer, State.withoutPing, counted]
  rcases Bool.eq_false_or_eq_true state.shouldStop with stopped | running
  · have noticed : state.withoutPing.shouldStop = true := stopped
    rw [handlePing_stopped noticed]
    exact .pingStopped waiting stopped
  · have going : state.withoutPing.shouldStop = false := running
    have restarts (answered : state.connected = true → ∀ message, outcome ≠ .error message) :
        Transition config state (.pingFires outcome)
          (handlePing config outcome state.withoutPing) := by
      rw [handlePing_restarts going answered, restarted]
      exact .pingRestarts waiting running answered
    cases outcome with
    | ok _ =>
      apply restarts
      intro _ message failed
      cases failed
    | error message =>
      rcases Bool.eq_false_or_eq_true state.connected with up | down
      · have connected : state.withoutPing.connected = true := up
        rw [handlePing_error going connected]
        exact .pingFails waiting running up
      · apply restarts
        intro up
        rw [down] at up
        cases up

theorem transition_retryFires {index : Nat} {retry : Retry} (outcome : Except String Unit)
    (pending : state.retries[index]? = some retry) :
    Transition config state (.retryFires index outcome)
      (handleRetry config retry outcome (state.withoutRetry index)) := by
  rcases Bool.eq_false_or_eq_true state.shouldStop with stopped | running
  · have noticed : (state.withoutRetry index).shouldStop = true := stopped
    rw [handleRetry_stopped noticed]
    exact .retryStopped pending stopped
  · have going : (state.withoutRetry index).shouldStop = false := running
    cases outcome with
    | error message =>
      rw [handleRetry_error going]
      exact .retryFails pending running
    | ok _ =>
      rw [handleRetry_ok going]
      exact .reconnects pending running

end Handlers

theorem transition_of_step {config : WebSocketConfig} {state after : State} {label : Label}
    (taken : (machine config).step state label = some after) :
    Transition config state label after := by
  cases label with
  | readCompletes stream outcome =>
    simp only [machine, step] at taken
    split at taken <;> cases taken
    exact transition_readCompletes outcome ‹_›
  | pingFires outcome =>
    simp only [machine, step] at taken
    split at taken <;> cases taken
    exact transition_pingFires outcome ‹_›
  | pingAborted =>
    simp only [machine, step] at taken
    split at taken <;> cases taken
    exact .pingAborted ‹_›
  | retryFires index outcome =>
    simp only [machine, step] at taken
    split at taken <;> cases taken
    exact transition_retryFires outcome ‹_›
  | disconnect =>
    cases taken
    exact .disconnect

/-- Only a call of `disconnect` tells the client to stop. -/
theorem shouldStop_handler {config : WebSocketConfig} {state after : State} {label : Label}
    (handler : label ≠ .disconnect)
    (taken : (machine config).step state label = some after) :
    after.shouldStop = state.shouldStop := by
  cases transition_of_step taken with
  | readStopped | readDelivers | pingStopped | pingRestarts | pingAborted | retryStopped
  | reconnects => rfl
  | readFails => exact attemptReconnect_shouldStop _ _
  | pingFails => exact attemptReconnect_shouldStop _ _
  | retryFails => exact attemptReconnect_shouldStop _ _
  | disconnect => exact absurd rfl handler

end Bintrade.Ws.WebSocketClient
