import Bintrade.System.Thread
import Bintrade.Ws.CallsReturn

/-! `disconnect` called from a callback. Callbacks run on the I/O thread, and `disconnect`
joins that thread: joining the calling thread throws a `std::system_error`. The dispatch
functions of the streams catch what their callbacks throw; an error handler and the message
handler of a plain `ws::Client` are called without a catch, so that the exception leaves the
thread and ends the process. -/

namespace Bintrade.Ws.CallbackDisconnect

open Bintrade.System Bintrade.Core

structure State where
  loop : EventLoop.State
  terminated : Bool
  deriving DecidableEq

def initial : State := ⟨EventLoop.initial, false⟩

/-- `messageCalls` is a read whose message callback calls `disconnect`, and `errorCalls` a
handler whose error handler does. `connectOver` is a `connect` of an owner that has not joined
the thread yet: it assigns to a joinable thread. -/
inductive Label where
  | loop (label : EventLoop.Label)
  | messageCalls (stream : Nat) (message : String) (caught : Bool)
  | errorCalls (label : WebSocketClient.Label)
  | connectOver

/-- `io_thread`. -/
def ioThread (loop : EventLoop.State) : Handle :=
  if loop.io = .none then .vacant else .joinable

/-- The message is passed on; its read is over. -/
def delivered (stream : Nat) (message : String) (loop : EventLoop.State) : EventLoop.State :=
  { loop with
    client :=
      { loop.client with
        reads := loop.client.reads.erase stream
        received := loop.client.received ++ [message] } }

/-- `disconnect` before it joins the thread. -/
def told (loop : EventLoop.State) : EventLoop.State :=
  { loop with
    client := { loop.client with shouldStop := true, connected := false }
    posted := loop.posted + 1
    online := false }

/-- `disconnect`, called on the I/O thread itself. -/
def disconnectOnLoop (loop : EventLoop.State) : Completion String EventLoop.State :=
  match ioThread loop with
  | .vacant => .returned (told loop)
  | .joinable => ((ioThread loop).join true).map fun _ => told loop

/-- What a call on the I/O thread leaves; `do_read` then finds `should_stop` set. -/
def State.leave (state : State) : Completion String EventLoop.State → State
  | .returned loop | .threw _ loop => { state with loop }
  | .terminated => { state with terminated := true }

/-- The handler calls the error handler. -/
def reportsError (config : WebSocketConfig) (client : WebSocketClient.State)
    (label : WebSocketClient.Label) : Bool :=
  match WebSocketClient.step config client label with
  | some next => client.reports.length < next.reports.length
  | none => false

/-- Whether the I/O thread can run a handler. -/
def handling (loop : EventLoop.State) : Bool := loop.io = .looping && !loop.stopped

def step (config : WebSocketConfig) (state : State) (label : Label) : Option State :=
  if state.terminated then none
  else
    match label with
    | .loop label => (EventLoop.step config state.loop label).map fun loop => { state with loop }
    | .messageCalls stream message caught =>
      if handling state.loop ∧ state.loop.client.shouldStop = false ∧
          stream ∈ state.loop.client.reads then
        some (state.leave
          ((disconnectOnLoop (delivered stream message state.loop)).onThread caught))
      else none
    | .errorCalls label =>
      if handling state.loop ∧ reportsError config state.loop.client label then
        some (state.leave ((disconnectOnLoop state.loop).onThread false))
      else none
    | .connectOver =>
      if state.loop.owner = .idle then
        match ((ioThread state.loop).launch : Completion String Handle) with
        | .terminated => some { state with terminated := true }
        | _ => none
      else none

def machine (config : WebSocketConfig) : Machine State Label := ⟨step config⟩

def Terminated (state : State) : Prop := state.terminated = true

def harmless : Label → Bool
  | .loop _ => true
  | .messageCalls _ _ caught => caught
  | .errorCalls _ => false
  | .connectOver => false

/-- `disconnect` is called from callbacks only where the exception is caught, and `connect`
only after the thread was joined. -/
def Harmless (_ : State) (label : Label) : Prop := harmless label = true

instance (state : State) (label : Label) : Decidable (Harmless state label) :=
  inferInstanceAs (Decidable (_ = true))

/-- The steps of the I/O thread inside its loop. -/
def ioStep (_ : State) : Label → Bool
  | .loop (.handler _) | .loop .runPosted | .loop .leaveLoop => true
  | .messageCalls .. | .errorCalls _ => true
  | _ => false

def startsAgain : Label → Bool
  | .loop .connect | .connectOver => true
  | _ => false

/-- The steps up to the owner's next `connect`. -/
def Onward (_ : State) (label : Label) : Prop := startsAgain label = false

instance (state : State) (label : Label) : Decidable (Onward state label) :=
  inferInstanceAs (Decidable (_ = false))

/-- What the thread still has to do before it leaves its loop. -/
def winding (state : State) : Nat :=
  EventLoop.outstanding state.loop.client + (!state.loop.stopped).toNat +
    (decide (state.loop.io = .looping)).toNat

variable {config : WebSocketConfig} {state after : State} {label : Label}

/-- The I/O thread joins itself. -/
theorem disconnectOnLoop_threw {loop : EventLoop.State} (looping : loop.io = .looping) :
    disconnectOnLoop loop = .threw "Resource deadlock avoided" (told loop) := by
  have joinable : ioThread loop = .joinable := by
    rw [ioThread, looping]
    rfl
  rw [disconnectOnLoop, joinable]
  rfl

theorem looping_of_handling {loop : EventLoop.State} (running : handling loop = true) :
    loop.io = .looping := by
  simp only [handling, Bool.and_eq_true, decide_eq_true_eq] at running
  exact running.1

/-- What a call of `disconnect` from a callback comes to. -/
theorem leave_disconnectOnLoop {loop : EventLoop.State} (looping : loop.io = .looping)
    (caught : Bool) :
    state.leave ((disconnectOnLoop loop).onThread caught) =
      if caught then { state with loop := told loop } else { state with terminated := true } := by
  rw [disconnectOnLoop_threw looping]
  cases caught <;> rfl

theorem terminated_step (taken : (machine config).step state label = some after) :
    Terminated after ↔ Terminated state ∨ ¬ Harmless state label := by
  by_cases ended : state.terminated = true
  · simp [machine, step, ended] at taken
  · simp only [machine, step, if_neg ended] at taken
    cases label with
    | loop label =>
      obtain ⟨loop, -, rfl⟩ := Option.map_eq_some_iff.mp taken
      simp [Terminated, Harmless, harmless]
    | messageCalls stream message caught =>
      obtain ⟨⟨running, -⟩, moved⟩ := Option.ite_none_right_eq_some.mp taken
      have looping : (delivered stream message state.loop).io = .looping :=
        looping_of_handling running
      rw [← Option.some.inj moved, leave_disconnectOnLoop looping]
      cases caught <;> simp [Terminated, Harmless, harmless]
    | errorCalls label =>
      obtain ⟨⟨running, -⟩, moved⟩ := Option.ite_none_right_eq_some.mp taken
      rw [← Option.some.inj moved, leave_disconnectOnLoop (looping_of_handling running)]
      simp [Terminated, Harmless, harmless]
    | connectOver =>
      obtain ⟨-, launched⟩ := Option.ite_none_right_eq_some.mp taken
      split at launched <;> cases launched
      simp [Terminated, Harmless, harmless]

/-- A handler of a client that was told to stop shows nothing. -/
theorem silent_stopped {client next : WebSocketClient.State} {handler : WebSocketClient.Label}
    (stopped : client.shouldStop = true)
    (handled : (WebSocketClient.machine config).step client handler = some next) :
    next.shouldStop = true ∧ (client.connected = false → next.connected = false) ∧
      next.received = client.received ∧ next.reports = client.reports := by
  have contradicted {claim : Prop} (running : client.shouldStop = false) : claim := by
    rw [stopped] at running
    cases running
  cases WebSocketClient.transition_of_step handled with
  | readStopped | pingStopped | pingAborted | retryStopped => exact ⟨stopped, id, rfl, rfl⟩
  | readFails outstanding running => exact contradicted running
  | readDelivers outstanding running => exact contradicted running
  | pingFails waiting running up => exact contradicted running
  | pingRestarts waiting running answered => exact contradicted running
  | reconnects pending running => exact contradicted running
  | retryFails pending running => exact contradicted running
  | disconnect => exact ⟨rfl, fun _ => rfl, rfl, rfl⟩

/-- After a callback has called `disconnect`: the client is told to stop and shows nothing
more, and a thread that is still in its loop finds it stopped or will run the handler that
stops it. -/
structure Winding (called : EventLoop.State) (state : State) : Prop where
  alive : state.terminated = false
  told : state.loop.client.shouldStop = true
  down : state.loop.client.connected = false
  received : state.loop.client.received = called.client.received
  reports : state.loop.client.reports = called.client.reports
  past : state.loop.io = .looping ∨ state.loop.io = .finished ∨ state.loop.io = .none
  ends : state.loop.io = .looping → state.loop.stopped = true ∨ 0 < state.loop.posted

theorem Winding.start {stream : Nat} {message : String}
    (taken : (machine config).step state (.messageCalls stream message true) = some after) :
    Winding after.loop after := by
  by_cases ended : state.terminated = true
  · simp [machine, step, ended] at taken
  · simp only [machine, step, if_neg ended] at taken
    obtain ⟨⟨running, -⟩, moved⟩ := Option.ite_none_right_eq_some.mp taken
    have looping : (delivered stream message state.loop).io = .looping :=
      looping_of_handling running
    rw [← Option.some.inj moved, leave_disconnectOnLoop looping]
    exact ⟨Bool.eq_false_iff.mpr ended, rfl, rfl, rfl, rfl, .inl looping,
      fun _ => .inr (Nat.succ_pos _)⟩

/-- No callback runs any more, so every step is one of the loop. -/
theorem Winding.loop_step {called : EventLoop.State} (wound : Winding called state)
    (onward : Onward state label) (taken : (machine config).step state label = some after) :
    ∃ inner loop, label = .loop inner ∧ inner ≠ .connect ∧ after = { state with loop } ∧
      (EventLoop.machine config).step state.loop inner = some loop := by
  have running : ¬ state.terminated = true := by
    rw [wound.alive]
    exact Bool.false_ne_true
  simp only [machine, step, if_neg running] at taken
  cases label with
  | loop inner =>
    obtain ⟨loop, moved, rfl⟩ := Option.map_eq_some_iff.mp taken
    refine ⟨inner, loop, rfl, ?_, rfl, moved⟩
    rintro rfl
    cases onward
  | messageCalls stream message caught =>
    obtain ⟨⟨-, going, -⟩, -⟩ := Option.ite_none_right_eq_some.mp taken
    rw [wound.told] at going
    cases going
  | errorCalls handler =>
    obtain ⟨⟨-, reported⟩, -⟩ := Option.ite_none_right_eq_some.mp taken
    unfold reportsError at reported
    cases handled : WebSocketClient.step config state.loop.client handler with
    | none => simp [handled] at reported
    | some next =>
      have same := (silent_stopped wound.told handled).2.2.2
      simp [handled, same] at reported
  | connectOver => cases onward

theorem Winding.step {called : EventLoop.State} (wound : Winding called state)
    (onward : Onward state label) (taken : (machine config).step state label = some after) :
    Winding called after ∧
      winding after + (ioStep state label).toNat ≤ winding state := by
  obtain ⟨inner, loop, rfl, unconnected, rfl, moved⟩ := wound.loop_step onward taken
  have past := wound.past
  cases EventLoop.transition_of_step moved with
  | connect idle unused => exact absurd rfl unconnected
  | connectSucceeds waiting success =>
    exact ⟨⟨wound.alive, wound.told, wound.down, wound.received, wound.reports, wound.past,
      wound.ends⟩, Nat.le_refl _⟩
  | connectFails waiting failure =>
    exact ⟨⟨wound.alive, rfl, wound.down, wound.received, wound.reports, wound.past,
      wound.ends⟩, Nat.le_refl _⟩
  | disconnect idle =>
    exact ⟨⟨wound.alive, rfl, rfl, wound.received, wound.reports, wound.past,
      fun _ => .inr (Nat.succ_pos _)⟩, Nat.le_refl _⟩
  | join joining ended =>
    refine ⟨⟨wound.alive, wound.told, wound.down, wound.received, wound.reports, .inr (.inr rfl),
      ?_⟩, ?_⟩
    · intro looping
      cases looping
    · simp [winding, ioStep, ended]
  | attempt success connecting => simp [connecting] at past
  | startOperations notified => simp [notified] at past
  | enterLoop entering => simp [entering] at past
  | @handler handled client looping running handledStep =>
    obtain ⟨told, down, received, reports⟩ := silent_stopped wound.told handledStep
    refine ⟨⟨wound.alive, told, down wound.down, received.trans wound.received,
      reports.trans wound.reports, wound.past, wound.ends⟩, ?_⟩
    have fewer := (EventLoop.outstanding_stopped wound.told
      (EventLoop.handler_ne_disconnect moved) handledStep).2
    simp only [winding, ioStep, Bool.toNat_true]
    omega
  | runPosted looping running queued =>
    refine ⟨⟨wound.alive, wound.told, wound.down, wound.received, wound.reports, wound.past,
      fun _ => .inl rfl⟩, ?_⟩
    simp [winding, ioStep, EventLoop.closeAndStop, running, looping]
  | leaveLoop looping exhausted =>
    refine ⟨⟨wound.alive, wound.told, wound.down, wound.received, wound.reports, .inr (.inl rfl),
      ?_⟩, ?_⟩
    · intro again
      cases again
    · simp [winding, ioStep, looping]

/-- A thread that is still in its loop has a step to take. -/
theorem Winding.enabled {called : EventLoop.State} (wound : Winding called state)
    (looping : state.loop.io = .looping) :
    ∃ label, ioStep state label = true ∧ ((machine config).step state label).isSome := by
  rcases Bool.eq_false_or_eq_true state.loop.stopped with stopped | running
  · refine ⟨.loop .leaveLoop, rfl, ?_⟩
    simp [machine, CallbackDisconnect.step, EventLoop.step, wound.alive, looping, stopped]
  · have queued := (wound.ends looping).resolve_left (Bool.eq_false_iff.mp running)
    refine ⟨.loop .runPosted, rfl, ?_⟩
    simp [machine, CallbackDisconnect.step, EventLoop.step, wound.alive, looping, running, queued]

end Bintrade.Ws.CallbackDisconnect
