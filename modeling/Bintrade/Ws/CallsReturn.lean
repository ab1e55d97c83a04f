import Bintrade.System.Progress
import Bintrade.Ws.ClientTransition
import Bintrade.Ws.LiveLoop

/-! `connect` and `disconnect` return. A thread that is being joined was told to stop, so
its handlers start nothing new, and what is left of its work only shrinks. -/

namespace Bintrade.Ws.EventLoop

open Bintrade.System Bintrade.Core

/-- The operations that the `io_context` waits for. -/
def outstanding (client : WebSocketClient.State) : Nat :=
  client.reads.length + client.pings + client.retries.length

section Handlers

variable {config : WebSocketConfig} {client next : WebSocketClient.State}
  {label : WebSocketClient.Label}

/-- A handler of a client that was told to stop ends its operation and starts none. -/
theorem outstanding_stopped (stopped : client.shouldStop = true) (handler : label ≠ .disconnect)
    (handled : (WebSocketClient.machine config).step client label = some next) :
    next.shouldStop = true ∧ outstanding next < outstanding client := by
  have contradicted {claim : Prop} (running : client.shouldStop = false) : claim := by
    rw [stopped] at running
    cases running
  cases WebSocketClient.transition_of_step handled with
  | @readStopped stream outcome outstanding noticed =>
    refine ⟨stopped, ?_⟩
    have fewer := List.length_erase_of_mem outstanding
    have some := List.length_pos_of_mem outstanding
    simp only [EventLoop.outstanding, WebSocketClient.State.withoutRead]
    omega
  | pingStopped waiting noticed =>
    refine ⟨stopped, ?_⟩
    simp only [outstanding, WebSocketClient.State.withoutPing]
    omega
  | pingAborted spare =>
    refine ⟨stopped, ?_⟩
    simp only [outstanding, WebSocketClient.State.withoutPing]
    omega
  | retryStopped pending noticed =>
    refine ⟨stopped, ?_⟩
    obtain ⟨inside, -⟩ := List.getElem?_eq_some_iff.mp pending
    have fewer := List.length_eraseIdx_of_lt inside
    simp only [outstanding, WebSocketClient.State.withoutRetry]
    omega
  | readFails outstanding running => exact contradicted running
  | readDelivers outstanding running => exact contradicted running
  | pingFails waiting running up => exact contradicted running
  | pingRestarts waiting running answered => exact contradicted running
  | reconnects pending running => exact contradicted running
  | retryFails pending running => exact contradicted running
  | disconnect => exact absurd rfl handler

/-- Without an outstanding operation there is no handler to run. -/
theorem outstanding_pos (handler : label ≠ .disconnect)
    (handled : (WebSocketClient.machine config).step client label = some next) :
    0 < outstanding client := by
  have reading {stream : Nat} (present : stream ∈ client.reads) : 0 < outstanding client := by
    have some := List.length_pos_of_mem present
    unfold outstanding
    omega
  have pinging (waiting : 0 < client.pings) : 0 < outstanding client := by
    unfold outstanding
    omega
  have retrying {index : Nat} {retry : WebSocketClient.Retry}
      (pending : client.retries[index]? = some retry) : 0 < outstanding client := by
    obtain ⟨inside, -⟩ := List.getElem?_eq_some_iff.mp pending
    unfold outstanding
    omega
  cases WebSocketClient.transition_of_step handled with
  | readStopped present stopped => exact reading present
  | readFails present running => exact reading present
  | readDelivers present running => exact reading present
  | pingStopped waiting stopped => exact pinging waiting
  | pingFails waiting running up => exact pinging waiting
  | pingRestarts waiting running answered => exact pinging waiting
  | pingAborted spare => exact pinging (by omega)
  | retryStopped pending stopped => exact retrying pending
  | reconnects pending running => exact retrying pending
  | retryFails pending running => exact retrying pending
  | disconnect => exact absurd rfl handler

end Handlers

variable {config : WebSocketConfig} {state after : State} {label : Label}

/-- The loop will end: it is stopped, a handler that stops it is queued, or there is
nothing to wait for and nothing about to be started. -/
def Ends (state : State) : Prop :=
  state.stopped = true ∨ 0 < state.posted ∨
    outstanding state.client = 0 ∧ state.io ≠ .notified

/-- Where the owner and the I/O thread stand to each other. -/
structure Placed (state : State) : Prop where
  launching : state.io = .connecting → state.owner = .waiting ∧ state.outcome = none
  waiting : state.owner = .waiting → state.outcome = none → state.io = .connecting
  failed : state.outcome = some false → state.io ≠ .notified
  present : state.owner ≠ .idle → state.io ≠ .none
  told : state.owner = .joining → state.client.shouldStop = true
  ends : state.owner = .joining ∨ state.owner = .waiting ∧ state.outcome ≠ some true → Ends state

theorem Placed.initial : Placed initial where
  launching := nofun
  waiting := nofun
  failed := nofun
  present busy := absurd rfl busy
  told := nofun
  ends := nofun

theorem hasWork_iff (state : State) :
    hasWork state = false ↔ outstanding state.client = 0 ∧ state.posted = 0 := by
  simp only [hasWork, outstanding, Bool.or_eq_false_iff, Bool.not_eq_false', List.isEmpty_iff,
    decide_eq_false_iff_not, ← List.length_eq_zero_iff]
  omega

/-- An object between two calls has a loop that will end, unless a thread runs it. -/
theorem ends_of_unused (history : state = initial ∨ Used state) (unused : state.io = .none) :
    Ends state := by
  rcases history with rfl | used
  · exact .inr (.inr ⟨rfl, nofun⟩)
  · rcases used.spent unused with stopped | queued
    · exact .inl stopped
    · exact .inr (.inl queued)

theorem Placed.connect (history : state = EventLoop.initial ∨ Used state)
    (unused : state.io = .none) :
    Placed { state with
      client := { state.client with shouldStop := false }
      outcome := none
      io := .connecting
      owner := .waiting
      called := true } := by
  refine ⟨fun _ => ⟨rfl, rfl⟩, fun _ _ => rfl, nofun, nofun, nofun, fun _ => ?_⟩
  rcases ends_of_unused history unused with stopped | queued | ⟨idle, -⟩
  · exact .inl stopped
  · exact .inr (.inl queued)
  · exact .inr (.inr ⟨idle, nofun⟩)

theorem Placed.handler {client : WebSocketClient.State} {handled : WebSocketClient.Label}
    (placed : Placed state) (running : state.stopped = false) (handler : handled ≠ .disconnect)
    (taken : (WebSocketClient.machine config).step state.client handled = some client) :
    Placed { state with client := client } := by
  refine ⟨placed.launching, placed.waiting, placed.failed, placed.present, ?_, ?_⟩
  · intro joining
    exact (outstanding_stopped (placed.told joining) handler taken).1
  · intro ending
    rcases placed.ends ending with stopped | queued | ⟨idle, -⟩
    · rw [running] at stopped
      cases stopped
    · exact .inr (.inl queued)
    · exact absurd idle (Nat.ne_of_gt (outstanding_pos handler taken))

theorem Placed.disconnect (placed : Placed state) (idle : state.owner = .idle) :
    Placed { state with
      client := { state.client with shouldStop := true, connected := false }
      posted := state.posted + 1
      online := false
      called := true
      owner := if state.io = .none then .idle else .joining } := by
  have settled : state.io ≠ .connecting := by
    intro connecting
    have waiting := (placed.launching connecting).1
    rw [idle] at waiting
    cases waiting
  refine ⟨fun connecting => absurd connecting settled, ?_, placed.failed, ?_, fun _ => rfl,
    fun _ => .inr (.inl (Nat.succ_pos _))⟩
  · intro waiting
    by_cases unused : state.io = .none
    · simp [unused] at waiting
    · simp [unused] at waiting
  · intro busy unused
    exact busy (if_pos unused)

theorem Placed.attempt (placed : Placed state) (connecting : state.io = .connecting)
    (success : Bool) : Placed (attempt success state) := by
  obtain ⟨waiting, unreported⟩ := placed.launching connecting
  have working : (EventLoop.attempt success state).io ≠ .connecting ∧
      (EventLoop.attempt success state).io ≠ .none := by
    cases success <;> exact ⟨nofun, nofun⟩
  refine ⟨fun again => absurd again working.1, nofun, ?_, fun _ => working.2, ?_, ?_⟩
  · intro failure
    cases success with
    | true => cases failure
    | false => exact nofun
  · intro joining
    rw [show state.owner = .joining from joining] at waiting
    cases waiting
  · rintro (joining | ⟨-, failure⟩)
    · rw [show state.owner = .joining from joining] at waiting
      cases waiting
    · cases success with
      | true => exact absurd rfl failure
      | false =>
        have ending := placed.ends (.inr ⟨waiting, by rw [unreported]; nofun⟩)
        rcases ending with stopped | queued | ⟨idle, -⟩
        · exact .inl stopped
        · exact .inr (.inl queued)
        · exact .inr (.inr ⟨idle, nofun⟩)

theorem Placed.startOperations (placed : Placed state) (notified : state.io = .notified) :
    Placed { state with
      client := WebSocketClient.doPingTimer (WebSocketClient.doRead state.client)
      io := .entering } := by
  refine ⟨nofun, ?_, nofun, nofun, ?_, ?_⟩
  · intro waiting unreported
    have connecting := placed.waiting waiting unreported
    rw [notified] at connecting
    cases connecting
  · intro joining
    have stopped := placed.told joining
    simp [WebSocketClient.doPingTimer, WebSocketClient.doRead, stopped]
  · intro ending
    rcases placed.ends ending with stopped | queued | ⟨-, elsewhere⟩
    · exact .inl stopped
    · exact .inr (.inl queued)
    · exact absurd notified elsewhere

/-- The thread goes on to a place from which it neither connects nor starts operations. -/
theorem Placed.proceeds (placed : Placed state) {io : IoThread}
    (unlaunched : state.io ≠ .connecting) (loops : io = .looping ∨ io = .finished) :
    Placed { state with io := io } := by
  have elsewhere : io ≠ .connecting ∧ io ≠ .notified ∧ io ≠ .none := by
    rcases loops with rfl | rfl <;> exact ⟨nofun, nofun, nofun⟩
  refine ⟨fun again => absurd again elsewhere.1, ?_, fun _ => elsewhere.2.1,
    fun _ => elsewhere.2.2, placed.told, ?_⟩
  · intro waiting unreported
    exact absurd (placed.waiting waiting unreported) unlaunched
  · intro ending
    rcases placed.ends ending with stopped | queued | ⟨idle, -⟩
    · exact .inl stopped
    · exact .inr (.inl queued)
    · exact .inr (.inr ⟨idle, elsewhere.2.1⟩)

theorem Placed.stops (placed : Placed state) {posted : Nat} {closed : Bool} :
    Placed { state with stopped := true, posted := posted, closed := closed } :=
  ⟨placed.launching, placed.waiting, placed.failed, placed.present, placed.told,
    fun _ => .inl rfl⟩

theorem Placed.step (placed : Placed state) (history : state = EventLoop.initial ∨ Used state)
    (taken : (machine config).step state label = some after) : Placed after := by
  cases transition_of_step taken with
  | connect idle unused => exact Placed.connect history unused
  | connectSucceeds waiting success =>
    refine ⟨?_, nofun, placed.failed, fun busy => absurd rfl busy, nofun, nofun⟩
    intro connecting
    obtain ⟨-, unreported⟩ := placed.launching connecting
    rw [success] at unreported
    cases unreported
  | connectFails waiting failure =>
    have ending := placed.ends (.inr ⟨waiting, by rw [failure]; nofun⟩)
    refine ⟨?_, nofun, placed.failed, fun _ => placed.present (by rw [waiting]; nofun),
      fun _ => rfl, fun _ => ending⟩
    intro connecting
    obtain ⟨-, unreported⟩ := placed.launching connecting
    rw [failure] at unreported
    cases unreported
  | disconnect idle => exact placed.disconnect idle
  | join joining ended =>
    exact ⟨nofun, nofun, nofun, fun busy => absurd rfl busy, nofun, nofun⟩
  | attempt success connecting => exact placed.attempt connecting success
  | startOperations notified => exact placed.startOperations notified
  | enterLoop entering =>
    apply placed.proceeds
    · rw [entering]
      nofun
    · cases state.stopped with
      | true => exact .inr rfl
      | false => exact .inl rfl
  | @handler handled client looping running moved =>
    exact placed.handler running (handler_ne_disconnect taken) moved
  | runPosted looping running queued => exact placed.stops
  | leaveLoop looping exhausted =>
    exact (placed.proceeds (by rw [looping]; nofun) (.inr rfl)).stops

theorem reachable_placed (reached : (machine config).Reachable Machine.anyStep initial state) :
    Placed state := by
  induction reached with
  | start => exact Placed.initial
  | next earlier _ taken ih => exact ih.step (fresh_or_used earlier) taken

/-- The steps that the thread still has before it, apart from its handlers. The one that
starts the operations also starts a ping timer. -/
def IoThread.left : IoThread → Nat
  | .none | .connecting => 0
  | .finished => 1
  | .looping => 2
  | .entering => 3
  | .notified => 5

/-- A bound on what happens before the thread is joined. -/
def remaining (state : State) : Nat :=
  outstanding state.client + state.posted + state.io.left

/-- The steps up to the return of a call that joins the thread. -/
def whileJoining (state : State) (_ : Label) : Prop := state.owner = .joining

instance (state : State) (label : Label) : Decidable (whileJoining state label) :=
  inferInstanceAs (Decidable (_ = _))

theorem Placed.remaining_lt (placed : Placed state) (joining : state.owner = .joining)
    (taken : (machine config).step state label = some after) :
    remaining after < remaining state := by
  have stopped := placed.told joining
  cases transition_of_step taken with
  | connect idle unused => simp [joining] at idle
  | connectSucceeds waiting success => simp [joining] at waiting
  | connectFails waiting failure => simp [joining] at waiting
  | disconnect idle => simp [joining] at idle
  | join _ ended => simp [remaining, ended, IoThread.left]
  | attempt success connecting =>
    have waiting := (placed.launching connecting).1
    simp [joining] at waiting
  | startOperations notified =>
    simp only [remaining, notified, IoThread.left, outstanding, WebSocketClient.doPingTimer,
      WebSocketClient.doRead, stopped, if_true]
    omega
  | enterLoop entering =>
    cases ended : state.stopped with
    | true => simp [remaining, entering, IoThread.left]
    | false => simp [remaining, entering, IoThread.left]
  | @handler handled client looping running moved =>
    have fewer := (outstanding_stopped stopped (handler_ne_disconnect taken) moved).2
    simp only [remaining]
    omega
  | runPosted looping running queued =>
    simp only [remaining, closeAndStop]
    omega
  | leaveLoop looping exhausted => simp [remaining, looping, IoThread.left]

/-- As long as the thread is being joined, it has a step to take or is joined. -/
theorem Placed.enabled (placed : Placed state) (joining : state.owner = .joining) :
    ∃ label, ((machine config).step state label).isSome := by
  cases place : state.io with
  | none => exact absurd place (placed.present (by rw [joining]; nofun))
  | connecting =>
    have waiting := (placed.launching place).1
    simp [joining] at waiting
  | notified => exact ⟨.startOperations, by simp [machine, EventLoop.step, place]⟩
  | entering => exact ⟨.enterLoop, by simp [machine, EventLoop.step, place]⟩
  | finished => exact ⟨.join, by simp [machine, EventLoop.step, joining, place]⟩
  | looping =>
    cases stopped : state.stopped with
    | true => exact ⟨.leaveLoop, by simp [machine, EventLoop.step, place, stopped]⟩
    | false =>
      by_cases queued : 0 < state.posted
      · exact ⟨.runPosted, by simp [machine, EventLoop.step, place, stopped, queued]⟩
      · have idle : hasWork state = false := by
          rcases placed.ends (.inl joining) with ended | waiting | ⟨idle, -⟩
          · simp [stopped] at ended
          · exact absurd waiting queued
          · exact (hasWork_iff state).mpr ⟨idle, Nat.eq_zero_of_not_pos queued⟩
        exact ⟨.leaveLoop, by simp [machine, EventLoop.step, place, idle]⟩

/-- In every run, with any earlier use of the object. A `connect` that waits does so for an
attempt that is still being made, and can go on as soon as its outcome is reported. A
`disconnect` or a failed `connect` that joins the thread does so for a bounded number of
steps, in whatever order the handlers run, and before it returns there always is one. -/
theorem owner_calls_return (reached : (machine config).Reachable Machine.anyStep initial state) :
    (state.owner = .waiting →
      state.outcome = none ∧ state.io = .connecting ∨
        ((machine config).step state .connectReturns).isSome) ∧
    ∀ {later : State} {count : Nat},
      ((machine config).observe (Machine.countWhere fun _ _ => true)).Reachable
          (Machine.unlogged whileJoining) (state, 0) (later, count) →
        count + remaining later ≤ remaining state ∧
          (later.owner = .joining → ∃ label, ((machine config).step later label).isSome) := by
  have placed := reachable_placed reached
  constructor
  · intro waiting
    cases reported : state.outcome with
    | none => exact .inl ⟨rfl, placed.waiting waiting reported⟩
    | some success =>
      refine .inr ?_
      cases success <;> simp [machine, step, waiting, reported]
  · intro later count onward
    have reachedLater := reached.trans onward.dropLog.free
    refine ⟨onward.count_le ?_, (reachable_placed reachedLater).enabled⟩
    intro before after label between joining taken
    have placedBefore := reachable_placed (reached.trans between.free)
    exact placedBefore.remaining_lt joining taken

/-- A `disconnect` with a read and a ping timer outstanding: two handlers, the queued one,
the end of the loop and the join are all that is left. -/
theorem owner_calls_return_disconnect :
    ∃ state, (machine ⟨5, 10⟩).Reachable Machine.anyStep initial state ∧
      (state.owner = .joining ∧ remaining state = 5) ∧
        ∀ {later : State} {count : Nat},
          ((machine ⟨5, 10⟩).observe (Machine.countWhere fun _ _ => true)).Reachable
              (Machine.unlogged whileJoining) (state, 0) (later, count) →
            count + remaining later ≤ remaining state ∧
              (later.owner = .joining →
                ∃ label, ((machine ⟨5, 10⟩).step later label).isSome) := by
  have disconnecting : ∃ state, (machine ⟨5, 10⟩).Reachable Machine.anyStep initial state ∧
      (state.owner = .joining ∧ remaining state = 5) :=
    Machine.exists_reachable_of_run
      [.connect, .attempt true, .connectReturns, .startOperations, .enterLoop, .disconnect]
      (by decide)
  obtain ⟨state, reached, joining⟩ := disconnecting
  exact ⟨state, reached, joining, (owner_calls_return reached).2⟩

end Bintrade.Ws.EventLoop
