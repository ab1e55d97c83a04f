import Bintrade.System.Refinement
import Bintrade.Ws.ClientTransition
import Bintrade.Ws.ConnectHandshake
import Bintrade.Ws.EventLoop

/-! The calls of `connect` at two levels. `ConnectHandshake` takes apart how the caller and the
I/O thread pass the outcome of the attempt, `EventLoop` takes this as one step each. The coarser
model is run beside the finer one, and follows it. -/

namespace Bintrade.Ws.ConnectHandshake

open Bintrade.System Bintrade.Core

/-- The steps of the thread after `notify_connect`. -/
def ofThread : EventLoop.Label → Bool
  | .startOperations | .enterLoop | .handler _ | .runPosted | .leaveLoop => true
  | _ => false

/-- The handshake, with what the thread does after it. -/
def threaded : Machine State (Label ⊕ EventLoop.Label) where
  step state
    | .inl label => step state label
    | .inr label => if state.io = .running ∧ ofThread label = true then some state else none

/-- The step of the loop that a step of the handshake completes. The caller has its outcome when
it has looked at `connect_error`, and the thread when `do_connect` has one. -/
def completed (_ : State) (_ : EventLoop.State) :
    Label ⊕ EventLoop.Label → Option EventLoop.Label
  | .inl .connect => some .connect
  | .inl (.attemptEnds outcome) => some (.attempt outcome.isOk)
  | .inl .decide => some .connectReturns
  | .inl .disconnect => some .disconnect
  | .inl .join => some .join
  | .inl _ => none
  | .inr label => some label

def atomically (config : WebSocketConfig) :
    State → Label ⊕ EventLoop.Label → EventLoop.State → EventLoop.State :=
  Machine.follow (EventLoop.machine config) completed

/-- Exceptions have a text, and the thread ends where the loop lets it. -/
def InStep (observed : State × EventLoop.State) : Label ⊕ EventLoop.Label → Prop
  | .inl (.attemptEnds (.error text)) => text ≠ ""
  | .inl .ioEnds => observed.2.io = .finished
  | _ => True

/-- Where the thread of the loop is. -/
def IoThread.Matches : IoThread → EventLoop.IoThread → Prop
  | .none, place => place = .none
  | .connecting, place => place = .connecting
  | .running, place => place ≠ .none ∧ place ≠ .connecting
  | .finished, place => place = .finished
  | _, place => place = .notified ∨ place = .entering

/-- Where the caller is as the loop sees it. -/
def Owner.seen : Owner → EventLoop.Owner
  | .idle => .idle
  | .joining | .leaving => .joining
  | _ => .waiting

structure Follows (state : State) (loop : EventLoop.State) : Prop where
  consistent : Consistent state
  stop : loop.client.shouldStop = state.shouldStop
  place : state.io.Matches loop.io
  owner : loop.owner = state.owner.seen
  outcome : state.io ≠ .none → state.io ≠ .connecting →
    loop.outcome = state.attempts.getLast?.map Except.isOk
  named : ∀ text, .error text ∈ state.attempts → text ≠ ""

section Steps

variable {config : WebSocketConfig} {state after : State} {loop : EventLoop.State}

theorem Follows.initial : Follows initial EventLoop.initial where
  consistent := Consistent.initial
  stop := rfl
  place := rfl
  owner := rfl
  outcome absent := absurd rfl absent
  named _ present := absurd present List.not_mem_nil

/-- There is a thread at both levels or at none. -/
theorem Follows.absent_iff (follows : Follows state loop) : loop.io = .none ↔ state.io = .none := by
  have place := follows.place
  cases thread : state.io with
  | none =>
    rw [thread] at place
    exact iff_of_true place rfl
  | connecting | finished =>
    rw [thread] at place
    rw [show loop.io = _ from place]
    exact iff_of_false nofun nofun
  | running =>
    rw [thread] at place
    exact iff_of_false place.1 nofun
  | locking | holding | doneStored | errorStored | notifying =>
    rw [thread] at place
    refine iff_of_false ?_ nofun
    rcases place with notified | entering
    · rw [notified]
      nofun
    · rw [entering]
      nofun

/-- A step of the handshake that the coarser model does not see. -/
theorem Follows.proceeds {label : Label} {io : IoThread} {owner : Owner} {connectDone : Bool}
    {connectError : String} (follows : Follows state loop)
    (hidden : completed state loop (.inl label) = none)
    (taken : machine.step state label = some { state with
      io := io, owner := owner, connectDone := connectDone, connectError := connectError })
    (place : io.Matches loop.io) (there : io = state.io ∨ state.io ≠ .none ∧ state.io ≠ .connecting)
    (same : owner.seen = state.owner.seen) :
    Follows { state with
        io := io, owner := owner, connectDone := connectDone, connectError := connectError }
      (atomically config state (.inl label) loop) := by
  rw [atomically, Machine.follow_silent hidden]
  refine ⟨follows.consistent.step taken, follows.stop, place, follows.owner.trans same.symm, ?_,
    follows.named⟩
  intro present ended
  rcases there with stays | before
  · rw [stays] at present ended
    exact follows.outcome present ended
  · exact follows.outcome before.1 before.2

theorem Follows.connect (follows : Follows state loop) (idle : state.owner = .idle)
    (unused : state.io = .none) (taken : machine.step state .connect = some after) :
    Follows after (atomically config state (.inl .connect) loop) := by
  have free : loop.owner = .idle := by rw [follows.owner, idle]; rfl
  have stepped : (EventLoop.machine config).step loop .connect = some { loop with
      client := { loop.client with shouldStop := false }
      outcome := none
      io := .connecting
      owner := .waiting
      called := true } := by
    simp [EventLoop.machine, EventLoop.step, free, follows.absent_iff.mpr unused]
  have shown : completed state loop (.inl .connect) = some .connect := rfl
  have consistent := follows.consistent.step taken
  rw [atomically, Machine.follow_visible shown stepped]
  simp only [machine, step, idle, unused, Option.some.injEq] at taken
  subst taken
  exact ⟨consistent, rfl, rfl, rfl, fun _ connecting => absurd rfl connecting, follows.named⟩

theorem Follows.attemptEnds (follows : Follows state loop) (connecting : state.io = .connecting)
    {outcome : Except String Unit} (textual : ∀ text, outcome = .error text → text ≠ "") :
    Follows { state with
        io := .locking (errorMsg outcome), attempts := state.attempts ++ [outcome] }
      (atomically config state (.inl (.attemptEnds outcome)) loop) := by
  have place := follows.place
  rw [connecting] at place
  have stepped : (EventLoop.machine config).step loop (.attempt outcome.isOk) =
      some (EventLoop.attempt outcome.isOk loop) := by
    simp [EventLoop.machine, EventLoop.step, show loop.io = .connecting from place]
  have shown : completed state loop (.inl (.attemptEnds outcome)) =
      some (.attempt outcome.isOk) := rfl
  rw [atomically, Machine.follow_visible shown stepped]
  refine ⟨follows.consistent.attemptEnds connecting outcome, follows.stop, ?_, follows.owner,
    ?_, ?_⟩
  · cases outcome with
    | ok _ => exact .inl rfl
    | error text => exact .inr rfl
  · intro _ _
    simp [EventLoop.attempt]
  · intro text present
    rcases List.mem_append.mp present with earlier | current
    · exact follows.named text earlier
    · exact textual text (List.mem_singleton.mp current).symm

/-- The caller finds an empty `connect_error` exactly if the attempt succeeded. -/
theorem Follows.decides (follows : Follows state loop) (deciding : state.owner = .deciding) :
    loop.outcome = some (decide (state.connectError = "")) := by
  have informed : state.owner.informed = true := by rw [deciding]; rfl
  have published := follows.consistent.informed informed
  obtain ⟨earlier, outcome, current, stored, -⟩ := follows.consistent.outcome informed
  have known := follows.outcome (by rintro absent; simp [absent, IoThread.published] at published)
    (by rintro connecting; simp [connecting, IoThread.published] at published)
  rw [known, current, stored]
  cases outcome with
  | ok _ => simp [errorMsg, Except.isOk, Except.toBool]
  | error text =>
    have textual : text ≠ "" := follows.named text (by rw [current]; simp)
    simp [errorMsg, Except.isOk, Except.toBool, textual]

theorem Follows.decide (follows : Follows state loop) (deciding : state.owner = .deciding)
    (taken : machine.step state .decide = some after) :
    Follows after (atomically config state (.inl .decide) loop) := by
  have waiting : loop.owner = .waiting := by rw [follows.owner, deciding]; rfl
  have known := follows.decides deciding
  have shown : completed state loop (.inl .decide) = some .connectReturns := rfl
  have consistent := follows.consistent.step taken
  simp only [machine, step, deciding] at taken
  split at taken <;> cases taken
  · rename_i empty
    have stepped : (EventLoop.machine config).step loop .connectReturns =
        some { loop with owner := .idle, online := true } := by
      simp [EventLoop.machine, EventLoop.step, waiting, known, empty]
    rw [atomically, Machine.follow_visible shown stepped]
    exact ⟨consistent, follows.stop, follows.place, rfl, follows.outcome, follows.named⟩
  · rename_i failed
    have stepped : (EventLoop.machine config).step loop .connectReturns = some { loop with
        client := { loop.client with shouldStop := true }
        owner := .joining } := by
      simp [EventLoop.machine, EventLoop.step, waiting, known, failed]
    rw [atomically, Machine.follow_visible shown stepped]
    exact ⟨consistent, rfl, follows.place, rfl, follows.outcome, follows.named⟩

theorem Follows.disconnect (follows : Follows state loop) (idle : state.owner = .idle) :
    Follows { state with
        shouldStop := true, owner := if state.io = .none then .idle else .leaving }
      (atomically config state (.inl .disconnect) loop) := by
  have free : loop.owner = .idle := by rw [follows.owner, idle]; rfl
  have stepped : (EventLoop.machine config).step loop .disconnect = some { loop with
      client := { loop.client with shouldStop := true, connected := false }
      posted := loop.posted + 1
      online := false
      called := true
      owner := if loop.io = .none then .idle else .joining } := by
    simp [EventLoop.machine, EventLoop.step, free]
  have shown : completed state loop (.inl .disconnect) = some .disconnect := rfl
  rw [atomically, Machine.follow_visible shown stepped]
  refine ⟨follows.consistent.disconnect idle, rfl, follows.place, ?_, follows.outcome,
    follows.named⟩
  by_cases unused : state.io = .none
  · simp [unused, follows.absent_iff.mpr unused, Owner.seen]
  · simp [unused, mt follows.absent_iff.mp unused, Owner.seen]

theorem Follows.join (follows : Follows state loop) (finished : state.io = .finished)
    (joining : state.owner.seen = .joining) (taken : machine.step state .join = some after)
    (left : after.io = .none ∧ after.owner = .idle ∧ after.shouldStop = state.shouldStop ∧
      after.attempts = state.attempts) :
    Follows after (atomically config state (.inl .join) loop) := by
  have place := follows.place
  rw [finished] at place
  have stepped : (EventLoop.machine config).step loop .join =
      some { loop with io := .none, owner := .idle } := by
    simp [EventLoop.machine, EventLoop.step, follows.owner, joining,
      show loop.io = .finished from place]
  have shown : completed state loop (.inl .join) = some .join := rfl
  obtain ⟨absent, idle, stop, attempts⟩ := left
  rw [atomically, Machine.follow_visible shown stepped]
  refine ⟨follows.consistent.step taken, follows.stop.trans stop.symm, ?_, ?_, ?_, ?_⟩
  · rw [absent]
    rfl
  · rw [idle]
    rfl
  · intro present
    exact absurd absent present
  · rw [attempts]
    exact follows.named

/-- The thread goes on in the loop while the caller and the outcome stay as they are. -/
theorem Follows.threadGoesOn {label : EventLoop.Label} (follows : Follows state loop)
    (running : state.io = .running) (own : ofThread label = true) :
    Follows state (atomically config state (.inr label) loop) := by
  have shown : completed state loop (.inr label) = some label := rfl
  have place := follows.place
  rw [running] at place
  cases moved : (EventLoop.machine config).step loop label with
  | none =>
    have stays : atomically config state (.inr label) loop = loop := by
      rw [atomically, Machine.follow, shown, Option.bind_some, moved]
      rfl
    rw [stays]
    exact follows
  | some next =>
    rw [atomically, Machine.follow_visible shown moved]
    cases EventLoop.transition_of_step moved with
    | startOperations notified =>
      refine ⟨follows.consistent, ?_, ?_, follows.owner, follows.outcome, follows.named⟩
      · exact WebSocketClient.doRead_shouldStop.trans follows.stop
      · simp [running, IoThread.Matches]
    | enterLoop entering =>
      refine ⟨follows.consistent, follows.stop, ?_, follows.owner, follows.outcome, follows.named⟩
      cases loop.stopped <;> simp [running, IoThread.Matches]
    | handler looping unstopped handled =>
      refine ⟨follows.consistent, ?_, follows.place, follows.owner, follows.outcome, follows.named⟩
      have handler := EventLoop.handler_ne_disconnect moved
      exact (WebSocketClient.shouldStop_handler handler handled).trans follows.stop
    | runPosted looping unstopped queued =>
      exact ⟨follows.consistent, follows.stop, follows.place, follows.owner, follows.outcome,
        follows.named⟩
    | leaveLoop looping exhausted =>
      refine ⟨follows.consistent, follows.stop, ?_, follows.owner, follows.outcome, follows.named⟩
      simp [running, IoThread.Matches]
    | connect | connectSucceeds | connectFails | disconnect | join | attempt => cases own

/-- A step of the caller inside `connect` that leaves the thread alone. -/
theorem Follows.callerGoesOn {label : Label} {owner : Owner} (follows : Follows state loop)
    (hidden : completed state loop (.inl label) = none)
    (taken : machine.step state label = some { state with owner := owner })
    (same : owner.seen = state.owner.seen) :
    Follows { state with owner := owner } (atomically config state (.inl label) loop) :=
  follows.proceeds hidden taken follows.place (.inl rfl) same

theorem Follows.handshake {label : Label} (follows : Follows state loop)
    (inStep : InStep (state, loop) (.inl label))
    (taken : machine.step state label = some after) :
    Follows after (atomically config state (.inl label) loop) := by
  have place := follows.place
  have evaluated : step state label = some after := taken
  cases label with
  | connect =>
    simp only [step] at evaluated
    split at evaluated
    · exact follows.connect ‹_› ‹_› taken
    · cases evaluated
  | lock =>
    simp only [step] at evaluated
    split at evaluated
    · rename_i locking
      split at evaluated <;> cases evaluated
      exact follows.callerGoesOn rfl taken (by rw [locking]; rfl)
    · cases evaluated
  | check =>
    simp only [step] at evaluated
    split at evaluated <;> cases evaluated
    rename_i checking
    refine follows.callerGoesOn rfl taken ?_
    rw [checking]
    cases state.connectDone <;> rfl
  | spuriousWake =>
    simp only [step] at evaluated
    split at evaluated <;> cases evaluated
    rename_i blocked
    exact follows.callerGoesOn rfl taken (by rw [blocked]; rfl)
  | unlock =>
    simp only [step] at evaluated
    split at evaluated <;> cases evaluated
    rename_i waited
    exact follows.callerGoesOn rfl taken (by rw [waited]; rfl)
  | decide =>
    simp only [step] at evaluated
    split at evaluated
    · exact follows.decide ‹_› taken
    · cases evaluated
  | join =>
    simp only [step] at evaluated
    split at evaluated <;> cases evaluated
    · rename_i joining finished
      exact follows.join finished (by rw [joining]; rfl) taken ⟨rfl, rfl, rfl, rfl⟩
    · rename_i leaving finished
      exact follows.join finished (by rw [leaving]; rfl) taken ⟨rfl, rfl, rfl, rfl⟩
  | disconnect =>
    simp only [step] at evaluated
    split at evaluated <;> cases evaluated
    exact follows.disconnect ‹_›
  | attemptEnds outcome =>
    simp only [step] at evaluated
    split at evaluated <;> cases evaluated
    refine follows.attemptEnds ‹_› ?_
    rintro text rfl
    exact inStep
  | ioLock =>
    simp only [step] at evaluated
    split at evaluated
    · rename_i locking
      split at evaluated <;> cases evaluated
      rw [locking] at place
      exact follows.proceeds rfl taken place (.inr (by simp [locking])) rfl
    · cases evaluated
  | storeDone =>
    simp only [step] at evaluated
    split at evaluated <;> cases evaluated
    rename_i holding
    rw [holding] at place
    exact follows.proceeds rfl taken place (.inr (by simp [holding])) rfl
  | storeError =>
    simp only [step] at evaluated
    split at evaluated <;> cases evaluated
    rename_i stored
    rw [stored] at place
    exact follows.proceeds rfl taken place (.inr (by simp [stored])) rfl
  | ioUnlock =>
    simp only [step] at evaluated
    split at evaluated <;> cases evaluated
    rename_i stored
    rw [stored] at place
    exact follows.proceeds rfl taken place (.inr (by simp [stored])) rfl
  | notifyOne =>
    simp only [step] at evaluated
    split at evaluated <;> cases evaluated
    rename_i notifying
    rw [notifying] at place
    refine follows.proceeds rfl taken ?_ (.inr (by simp [notifying])) ?_
    · rcases place with notified | entering
      · simp [notified, IoThread.Matches]
      · simp [entering, IoThread.Matches]
    · split
      · rename_i blocked
        rw [blocked]
        rfl
      · rfl
  | ioEnds =>
    simp only [step] at evaluated
    split at evaluated <;> cases evaluated
    rename_i running
    exact follows.proceeds rfl taken inStep (.inr (by simp [running])) rfl

end Steps

/-- In every interleaving of the caller and the thread, with wake-ups for no reason: the calls,
their outcomes and `should_stop` are those of a run of `EventLoop`, in which the outcome of an
attempt is passed in one step. -/
theorem handshake_atomic {config : WebSocketConfig} {state : State} {loop : EventLoop.State}
    (reached : (threaded.observe (atomically config)).Reachable InStep
      (initial, EventLoop.initial) (state, loop)) :
    (EventLoop.machine config).Reachable Machine.anyStep EventLoop.initial loop ∧
      Follows state loop := by
  refine ⟨reached.followed, ?_⟩
  let Holds (observed : State × EventLoop.State) : Prop := Follows observed.1 observed.2
  have follows : Holds (state, loop) := by
    refine reached.invariant Follows.initial ?_
    intro before after label follows inStep taken
    obtain ⟨moved, noted⟩ := Machine.observe_step taken
    change Follows after.1 after.2
    rw [noted]
    cases label with
    | inl label => exact Follows.handshake follows inStep moved
    | inr label =>
      obtain ⟨⟨running, own⟩, same⟩ := Option.ite_none_right_eq_some.mp moved
      rw [← Option.some.inj same]
      exact Follows.threadGoesOn follows running own
  exact follows

end Bintrade.Ws.ConnectHandshake
