import Bintrade.Ws.WebSocketClient

/-! `WebSocketClient::connect` and `disconnect` on one object, called by its owner, and
the I/O thread that each `connect` launches. The `io_context` outlives the thread: once
stopped it stays stopped, and handlers posted to it stay queued. -/

namespace Bintrade.Ws.EventLoop

open Bintrade.System Bintrade.Core

/-- Where the I/O thread stands: in `do_connect`, after it told `connect` of its
success, before `run`, inside `run`, or at its end, waiting to be joined. -/
inductive IoThread where
  | none
  | connecting
  | notified
  | entering
  | looping
  | finished
  deriving DecidableEq

/-- The owner is between calls, waits in `connect` for the outcome of the attempt, or
joins the thread, at the end of a failed `connect` or of `disconnect`. -/
inductive Owner where
  | idle
  | waiting
  | joining
  deriving DecidableEq

/-- `outcome` is what `notify_connect` has reported; `opened` the stream that the last
`connect` opened, and `closed` says that a posted handler has closed the current stream.
`online` says that `connect` returned normally and `disconnect` was not called since, and
`called` that any of the two was ever called. -/
structure State where
  client : WebSocketClient.State
  stopped : Bool
  posted : Nat
  closed : Bool
  io : IoThread
  owner : Owner
  outcome : Option Bool
  opened : Nat
  online : Bool
  called : Bool
  deriving DecidableEq

def initial : State where
  client := { WebSocketClient.initial with reads := [], pings := 0, connected := false }
  stopped := false
  posted := 0
  closed := false
  io := .none
  owner := .idle
  outcome := none
  opened := 0
  online := false
  called := false

inductive Label where
  | connect
  | connectReturns
  | disconnect
  | join
  | attempt (success : Bool)
  | startOperations
  | enterLoop
  | handler (label : WebSocketClient.Label)
  | runPosted
  | leaveLoop

/-- The `io_context` has something to wait for. -/
def hasWork (state : State) : Bool :=
  !state.client.reads.isEmpty || 0 < state.client.pings || !state.client.retries.isEmpty ||
    0 < state.posted

/-- `do_connect` up to `notify_connect`. -/
def attempt (success : Bool) (state : State) : State :=
  { state with
    client := { state.client with stream := state.client.stream + 1, connected := success }
    closed := false
    opened := state.client.stream + 1
    outcome := some success
    io := if success then .notified else .entering }

/-- The handler that `disconnect` posts. -/
def closeAndStop (state : State) : State :=
  { state with posted := state.posted - 1, closed := true, stopped := true }

def step (config : WebSocketConfig) (state : State) : Label → Option State
  | .connect =>
    match state.owner, state.io with
    | .idle, .none =>
      some { state with
        client := { state.client with shouldStop := false }
        outcome := none
        io := .connecting
        owner := .waiting
        called := true }
    | _, _ => none
  | .connectReturns =>
    match state.owner, state.outcome with
    | .waiting, some true => some { state with owner := .idle, online := true }
    | .waiting, some false =>
      some { state with
        client := { state.client with shouldStop := true }
        owner := .joining }
    | _, _ => none
  | .disconnect =>
    match state.owner with
    | .idle =>
      some { state with
        client := { state.client with shouldStop := true, connected := false }
        posted := state.posted + 1
        online := false
        called := true
        owner := if state.io = .none then .idle else .joining }
    | _ => none
  | .join =>
    match state.owner, state.io with
    | .joining, .finished => some { state with io := .none, owner := .idle }
    | _, _ => none
  | .attempt success =>
    match state.io with
    | .connecting => some (attempt success state)
    | _ => none
  | .startOperations =>
    match state.io with
    | .notified =>
      some { state with
        client := WebSocketClient.doPingTimer (WebSocketClient.doRead state.client)
        io := .entering }
    | _ => none
  | .enterLoop =>
    match state.io with
    | .entering => some { state with io := if state.stopped then .finished else .looping }
    | _ => none
  | .handler label =>
    match state.io, label with
    | _, .disconnect => none
    | .looping, label =>
      if state.stopped then none
      else (WebSocketClient.step config state.client label).map fun client =>
        { state with client := client }
    | _, _ => none
  | .runPosted =>
    match state.io with
    | .looping =>
      if state.stopped = false ∧ 0 < state.posted then some (closeAndStop state) else none
    | _ => none
  | .leaveLoop =>
    match state.io with
    | .looping =>
      if state.stopped = true ∨ hasWork state = false then
        some { state with stopped := true, io := .finished }
      else none
    | _ => none

def machine (config : WebSocketConfig) : Machine State Label where
  step := step config

/-- Everything one step can do. -/
inductive Transition (config : WebSocketConfig) (state : State) : Label → State → Prop where
  | connect (idle : state.owner = .idle) (unused : state.io = .none) :
      Transition config state .connect
        { state with
          client := { state.client with shouldStop := false }
          outcome := none
          io := .connecting
          owner := .waiting
          called := true }
  | connectSucceeds (waiting : state.owner = .waiting) (success : state.outcome = some true) :
      Transition config state .connectReturns { state with owner := .idle, online := true }
  | connectFails (waiting : state.owner = .waiting) (failure : state.outcome = some false) :
      Transition config state .connectReturns
        { state with
          client := { state.client with shouldStop := true }
          owner := .joining }
  | disconnect (idle : state.owner = .idle) :
      Transition config state .disconnect
        { state with
          client := { state.client with shouldStop := true, connected := false }
          posted := state.posted + 1
          online := false
          called := true
          owner := if state.io = .none then .idle else .joining }
  | join (joining : state.owner = .joining) (ended : state.io = .finished) :
      Transition config state .join { state with io := .none, owner := .idle }
  | attempt (success : Bool) (connecting : state.io = .connecting) :
      Transition config state (.attempt success) (attempt success state)
  | startOperations (notified : state.io = .notified) :
      Transition config state .startOperations
        { state with
          client := WebSocketClient.doPingTimer (WebSocketClient.doRead state.client)
          io := .entering }
  | enterLoop (entering : state.io = .entering) :
      Transition config state .enterLoop
        { state with io := if state.stopped then .finished else .looping }
  | handler {label : WebSocketClient.Label} {client : WebSocketClient.State}
      (looping : state.io = .looping) (running : state.stopped = false)
      (handled : (WebSocketClient.machine config).step state.client label = some client) :
      Transition config state (.handler label) { state with client := client }
  | runPosted (looping : state.io = .looping) (running : state.stopped = false)
      (queued : 0 < state.posted) :
      Transition config state .runPosted (closeAndStop state)
  | leaveLoop (looping : state.io = .looping)
      (exhausted : state.stopped = true ∨ hasWork state = false) :
      Transition config state .leaveLoop { state with stopped := true, io := .finished }

theorem transition_of_step {config : WebSocketConfig} {state after : State} {label : Label}
    (taken : (machine config).step state label = some after) :
    Transition config state label after := by
  cases label with
  | connect =>
    simp only [machine, step] at taken
    split at taken <;> cases taken
    exact .connect ‹_› ‹_›
  | connectReturns =>
    simp only [machine, step] at taken
    split at taken <;> cases taken
    · exact .connectSucceeds ‹_› ‹_›
    · exact .connectFails ‹_› ‹_›
  | disconnect =>
    simp only [machine, step] at taken
    split at taken <;> cases taken
    exact .disconnect ‹_›
  | join =>
    simp only [machine, step] at taken
    split at taken <;> cases taken
    exact .join ‹_› ‹_›
  | attempt success =>
    simp only [machine, step] at taken
    split at taken <;> cases taken
    exact .attempt success ‹_›
  | startOperations =>
    simp only [machine, step] at taken
    split at taken <;> cases taken
    exact .startOperations ‹_›
  | enterLoop =>
    simp only [machine, step] at taken
    split at taken <;> cases taken
    exact .enterLoop ‹_›
  | handler label =>
    simp only [machine, step] at taken
    split at taken
    · cases taken
    · split at taken
      · cases taken
      · rename_i running
        obtain ⟨client, handled, rfl⟩ := Option.map_eq_some_iff.mp taken
        exact .handler ‹_› (Bool.eq_false_iff.mpr running) handled
    · cases taken
  | runPosted =>
    simp only [machine, step] at taken
    split at taken
    · split at taken <;> cases taken
      rename_i queued
      exact .runPosted ‹_› queued.1 queued.2
    · cases taken
  | leaveLoop =>
    simp only [machine, step] at taken
    split at taken
    · split at taken <;> cases taken
      exact .leaveLoop ‹_› ‹_›
    · cases taken

/-- `disconnect` is not a handler of the loop. -/
theorem handler_ne_disconnect {config : WebSocketConfig} {state after : State}
    {handled : WebSocketClient.Label}
    (taken : (machine config).step state (.handler handled) = some after) :
    handled ≠ .disconnect := by
  rintro rfl
  simp [machine, step] at taken

end Bintrade.Ws.EventLoop
