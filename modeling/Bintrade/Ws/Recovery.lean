import Bintrade.Ws.WebSocketClient

/-! The client is never silently dead. Every handler that drops the connection calls
`attempt_reconnect`, which starts a timer or reports that it gives up; every handler
that keeps or makes a connection starts a read on it. -/

namespace Bintrade.Ws.WebSocketClient

open Bintrade.System Bintrade.Core

/-- What `attempt_reconnect` reports when no attempt is left. -/
def givingUp : String := "Max reconnect attempts reached -- giving up"

/-- A connection is read, and where there is none, a reconnect is pending or was given
up with a report. -/
structure Attended (state : State) : Prop where
  running : state.shouldStop = false
  reading : state.connected = true → state.stream ∈ state.reads
  recovering : state.connected = true ∨ state.retries ≠ [] ∨ state.gaveUp = true
  reported : state.gaveUp = true → givingUp ∈ state.reports

section Attended

variable {config : WebSocketConfig} {state after : State} {label : Label}

theorem Attended.initial : Attended initial where
  running := rfl
  reading _ := .head _
  recovering := .inl rfl
  reported := nofun

/-- A dropped connection is taken care of by `attempt_reconnect`. -/
theorem attended_attemptReconnect (attempt : Nat) (delay : Int)
    (running : state.shouldStop = false) (down : state.connected = false) :
    Attended (attemptReconnect config attempt delay state) := by
  have unread : state.connected = true → state.stream ∈ state.reads := by
    intro up
    rw [down] at up
    cases up
  unfold attemptReconnect
  rw [if_neg (Bool.eq_false_iff.mp running)]
  split
  · refine ⟨running, unread, .inr (.inr rfl), ?_⟩
    intro _
    exact List.mem_append_right _ (List.mem_singleton_self _)
  · exact ⟨running, unread, .inr (.inl (List.append_ne_nil_of_right_ne_nil _ nofun)), nofun⟩

/-- `do_read` restores what a completed read took away. -/
theorem attended_doRead (running : state.shouldStop = false)
    (recovering : state.connected = true ∨ state.retries ≠ [] ∨ state.gaveUp = true)
    (reported : state.gaveUp = true → givingUp ∈ state.reports) : Attended (doRead state) := by
  rw [doRead_running (Bool.eq_false_iff.mp running)]
  exact ⟨running, fun _ => .head _, recovering, reported⟩

theorem Attended.doPingTimer (attended : Attended state) : Attended (doPingTimer state) :=
  ⟨attended.running, attended.reading, attended.recovering, attended.reported⟩

theorem Attended.readCompletes (attended : Attended state) (stream : Nat)
    (outcome : Except String Frame) :
    Attended (handleRead config stream outcome
      { state with reads := state.reads.erase stream }) := by
  unfold handleRead
  rw [if_neg (Bool.eq_false_iff.mp attended.running)]
  cases outcome with
  | error message => exact attended_attemptReconnect 0 _ attended.running rfl
  | ok frame =>
    cases frame with
    | text message => exact attended_doRead attended.running attended.recovering attended.reported
    | binary => exact attended_doRead attended.running attended.recovering attended.reported

theorem Attended.pingFires (attended : Attended state) (outcome : Except String Unit) :
    Attended (handlePing config outcome { state with pings := state.pings - 1 }) := by
  have waited : Attended { state with pings := state.pings - 1 } :=
    ⟨attended.running, attended.reading, attended.recovering, attended.reported⟩
  unfold handlePing
  rw [if_neg (Bool.eq_false_iff.mp attended.running)]
  split
  · cases outcome with
    | error message => exact attended_attemptReconnect 0 _ attended.running rfl
    | ok _ => exact waited.doPingTimer
  · exact waited.doPingTimer

theorem Attended.retryFires (attended : Attended state) (index : Nat) (retry : Retry)
    (outcome : Except String Unit) :
    Attended (handleRetry config retry outcome
      { state with retries := state.retries.eraseIdx index }) := by
  unfold handleRetry
  rw [if_neg (Bool.eq_false_iff.mp attended.running)]
  cases outcome with
  | ok _ =>
    apply Attended.doPingTimer
    refine attended_doRead attended.running (.inl rfl) ?_
    intro gaveUp
    exact List.mem_append_left _ (attended.reported gaveUp)
  | error message => exact attended_attemptReconnect _ _ attended.running rfl

end Attended

def Label.isDisconnect : Label → Bool
  | .disconnect => true
  | _ => false

/-- The steps of a client that is not told to stop. -/
def undisturbed (_ : State) (label : Label) : Prop := label.isDisconnect = false

instance (state : State) (label : Label) : Decidable (undisturbed state label) :=
  inferInstanceAs (Decidable (_ = _))

theorem Attended.step {config : WebSocketConfig} {state after : State} {label : Label}
    (attended : Attended state) (quiet : undisturbed state label)
    (taken : (machine config).step state label = some after) : Attended after := by
  cases label with
  | readCompletes stream outcome =>
    simp only [machine, WebSocketClient.step] at taken
    split at taken <;> cases taken
    exact attended.readCompletes stream outcome
  | pingFires outcome =>
    simp only [machine, WebSocketClient.step] at taken
    split at taken <;> cases taken
    exact attended.pingFires outcome
  | pingAborted =>
    simp only [machine, WebSocketClient.step] at taken
    split at taken <;> cases taken
    exact ⟨attended.running, attended.reading, attended.recovering, attended.reported⟩
  | retryFires index outcome =>
    simp only [machine, WebSocketClient.step] at taken
    split at taken <;> cases taken
    exact attended.retryFires index _ outcome
  | disconnect => cases quiet

/-- In every state of every run without a `disconnect`: the client is connected and
reads from its current stream, or a reconnect timer is pending, or a read on a replaced
stream is still to complete, or the last call of `attempt_reconnect` reported that it
gives up. -/
theorem never_silently_dead {config : WebSocketConfig} {state : State}
    (reached : (machine config).Reachable undisturbed initial state) :
    (state.connected = true ∧ state.stream ∈ state.reads) ∨ state.retries ≠ [] ∨
      (∃ stream ∈ state.reads, stream ≠ state.stream) ∨
        (state.gaveUp = true ∧ givingUp ∈ state.reports) := by
  have attended : Attended state :=
    reached.invariant Attended.initial fun attended quiet taken => attended.step quiet taken
  rcases attended.recovering with up | pending | gaveUp
  · exact .inl ⟨up, attended.reading up⟩
  · exact .inr (.inl pending)
  · exact .inr (.inr (.inr ⟨gaveUp, attended.reported gaveUp⟩))

/-- Without any attempt allowed, a read error is reported as the end. -/
theorem given_up_after_read_error :
    ∃ state, (machine ⟨5, 0⟩).Reachable undisturbed initial state ∧
      (state.connected = false ∧ state.retries = [] ∧ state.reads = []) ∧
        ((state.connected = true ∧ state.stream ∈ state.reads) ∨ state.retries ≠ [] ∨
          (∃ stream ∈ state.reads, stream ≠ state.stream) ∨
            (state.gaveUp = true ∧ givingUp ∈ state.reports)) := by
  have dropped : ∃ state, (machine ⟨5, 0⟩).Reachable undisturbed initial state ∧
      (state.connected = false ∧ state.retries = [] ∧ state.reads = []) :=
    Machine.exists_reachable_of_run [.readCompletes 0 (.error "reset")] (by decide)
  obtain ⟨state, reached, down⟩ := dropped
  exact ⟨state, reached, down, never_silently_dead reached⟩

end Bintrade.Ws.WebSocketClient
