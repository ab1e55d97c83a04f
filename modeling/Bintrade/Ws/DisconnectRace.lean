import Bintrade.System.Machine

/-! `disconnect` against the handler that the I/O thread is in. The calls of the owner and
the handlers are taken apart at their accesses to what both threads use: the flags
`should_stop` and `connected`, and the pointer `ping_timer`. -/

namespace Bintrade.Ws.DisconnectRace

open Bintrade.System

/-- Where the I/O thread stands. It is between handlers, or in one that has found
`should_stop` clear: `handle_read` before its outcome and before `do_read`, the handler of the
ping timer before it loads `connected` and after, or a reconnect. Both a first connect and a
reconnect end with `do_read` and `do_ping_timer`. -/
inductive IoThread where
  | beforeRead
  | beforeTimer
  | idle
  | readChecked
  | readingOn
  | pingChecked
  | pinging
  | attempting
  | reconnecting
  | ended
  deriving DecidableEq

/-- The accesses that `disconnect` has made, the timer that it has loaded. -/
inductive Owner where
  | idle
  | stopStored
  | downStored
  | timerLoaded (timer : Option Nat)
  | timerCancelled
  | joining
  | returned
  deriving DecidableEq

/-- The shared fields, the operations that the `io_context` waits for, and both program
counters. Timers are numbered in the order of their creation. -/
structure State where
  shouldStop : Bool
  connected : Bool
  pingTimer : Option Nat
  timers : Nat
  reads : Nat
  waits : Nat
  retries : Nat
  cancelled : Bool
  posted : Bool
  stopped : Bool
  io : IoThread
  owner : Owner
  deriving DecidableEq

/-- `connect` was notified of its success and has returned. -/
def initial : State where
  shouldStop := false
  connected := true
  pingTimer := none
  timers := 0
  reads := 0
  waits := 0
  retries := 0
  cancelled := false
  posted := false
  stopped := false
  io := .beforeRead
  owner := .idle

inductive Label where
  | startRead
  | armTimer
  | readCompletes
  | readEnds (success : Bool)
  | readOn
  | pingFires
  | pingAborted
  | loadConnected
  | pingEnds (success : Bool)
  | retryFires
  | attemptEnds (success : Bool)
  | scheduleRetry (allowed : Bool)
  | closeAndStop
  | leaveLoop
  | storeStop
  | storeDown
  | loadTimer
  | cancelTimer
  | postClose
  | join
  deriving DecidableEq

/-- A handler that starts: its operation is over, and it loads `should_stop`. -/
def enter (state : State) (handler : IoThread) : State :=
  { state with io := if state.shouldStop then .idle else handler }

/-- The loop has nothing to wait for. -/
def exhausted (state : State) : Bool :=
  state.reads = 0 ∧ state.waits = 0 ∧ state.retries = 0 ∧ state.posted = false

def ioStep (state : State) : Label → Option State
  | .startRead =>
    if state.io = .beforeRead then
      some { state with
        reads := if state.shouldStop then state.reads else state.reads + 1, io := .beforeTimer }
    else none
  | .armTimer =>
    if state.io = .beforeTimer then
      some { state with
        pingTimer := some state.timers
        timers := state.timers + 1
        waits := state.waits + 1
        io := .idle }
    else none
  | .readCompletes =>
    if state.io = .idle ∧ state.stopped = false ∧ 0 < state.reads then
      some (enter { state with reads := state.reads - 1 } .readChecked)
    else none
  | .readEnds success =>
    if state.io = .readChecked then
      some (if success then { state with io := .readingOn }
        else { state with connected := false, io := .reconnecting })
    else none
  | .readOn =>
    if state.io = .readingOn then
      some { state with
        reads := if state.shouldStop then state.reads else state.reads + 1, io := .idle }
    else none
  | .pingFires =>
    if state.io = .idle ∧ state.stopped = false ∧ 0 < state.waits then
      some (enter { state with waits := state.waits - 1 } .pingChecked)
    else none
  | .pingAborted =>
    if state.io = .idle ∧ state.stopped = false ∧
        (1 < state.waits ∨ state.cancelled = true ∧ 0 < state.waits) then
      some { state with waits := state.waits - 1 }
    else none
  | .loadConnected =>
    if state.io = .pingChecked then
      some { state with io := if state.connected then .pinging else .beforeTimer }
    else none
  | .pingEnds success =>
    if state.io = .pinging then
      some (if success then { state with io := .beforeTimer }
        else { state with connected := false, io := .reconnecting })
    else none
  | .retryFires =>
    if state.io = .idle ∧ state.stopped = false ∧ 0 < state.retries then
      some (enter { state with retries := state.retries - 1 } .attempting)
    else none
  | .attemptEnds success =>
    if state.io = .attempting then
      some (if success then { state with connected := true, io := .beforeRead }
        else { state with connected := false, io := .reconnecting })
    else none
  | .scheduleRetry allowed =>
    if state.io = .reconnecting then
      some { state with
        retries := if !state.shouldStop && allowed then state.retries + 1 else state.retries
        io := .idle }
    else none
  | .closeAndStop =>
    if state.io = .idle ∧ state.stopped = false ∧ state.posted = true then
      some { state with posted := false, stopped := true }
    else none
  | .leaveLoop =>
    if state.io = .idle ∧ (state.stopped = true ∨ exhausted state = true) then
      some { state with io := .ended }
    else none
  | _ => none

/-- The accesses of `disconnect`, in their order. -/
def ownerStep (state : State) : Label → Option State
  | .storeStop =>
    if state.owner = .idle then some { state with shouldStop := true, owner := .stopStored }
    else none
  | .storeDown =>
    if state.owner = .stopStored then some { state with connected := false, owner := .downStored }
    else none
  | .loadTimer =>
    if state.owner = .downStored then
      some { state with owner := .timerLoaded state.pingTimer }
    else none
  | .cancelTimer =>
    match state.owner with
    | .timerLoaded timer =>
      some { state with cancelled := state.cancelled || timer.isSome, owner := .timerCancelled }
    | _ => none
  | .postClose =>
    if state.owner = .timerCancelled then some { state with posted := true, owner := .joining }
    else none
  | .join =>
    if state.owner = .joining ∧ state.io = .ended then some { state with owner := .returned }
    else none
  | _ => none

def machine : Machine State Label where
  step state label := (ioStep state label).or (ownerStep state label)

variable {state after : State} {label : Label}

/-- A step of the thread, by the place it starts from. Under `should_stop` a handler that
starts ends at once. -/
inductive IoTransition (state : State) : State → Prop where
  | startsRead (place : state.io = .beforeRead) (reads : Nat) :
      IoTransition state { state with reads := reads, io := .beforeTimer }
  | armsTimer (place : state.io = .beforeTimer) :
      IoTransition state { state with
        pingTimer := some state.timers
        timers := state.timers + 1
        waits := state.waits + 1
        io := .idle }
  | enters (place : state.io = .idle) (reads waits retries : Nat) (handler : IoThread)
      (clear : handler ≠ .idle → state.shouldStop = false) :
      IoTransition state { state with
        reads := reads, waits := waits, retries := retries, io := handler }
  | readsOn (place : state.io = .readChecked) :
      IoTransition state { state with io := .readingOn }
  | drops (place : state.io = .readChecked ∨ state.io = .pinging ∨ state.io = .attempting) :
      IoTransition state { state with connected := false, io := .reconnecting }
  | endsRead (place : state.io = .readingOn) (reads : Nat) :
      IoTransition state { state with reads := reads, io := .idle }
  | loadsConnected (place : state.io = .pingChecked) :
      IoTransition state { state with io := if state.connected then .pinging else .beforeTimer }
  | pinged (place : state.io = .pinging) : IoTransition state { state with io := .beforeTimer }
  | reconnects (place : state.io = .attempting) :
      IoTransition state { state with connected := true, io := .beforeRead }
  | schedules (place : state.io = .reconnecting) (retries : Nat) :
      IoTransition state { state with retries := retries, io := .idle }
  | stops (place : state.io = .idle) (queued : state.posted = true) :
      IoTransition state { state with posted := false, stopped := true }
  | leaves (place : state.io = .idle) : IoTransition state { state with io := .ended }

theorem ioTransition_enter {reads waits retries : Nat} {handler : IoThread}
    (place : state.io = .idle) :
    IoTransition state
      (enter { state with reads := reads, waits := waits, retries := retries } handler) := by
  unfold enter
  refine .enters place reads waits retries _ ?_
  intro started
  cases stop : state.shouldStop with
  | false => rfl
  | true => simp [stop] at started

theorem ioTransition_of_step (taken : ioStep state label = some after) :
    IoTransition state after := by
  cases label with
  | startRead =>
    simp only [ioStep, Option.ite_none_right_eq_some, Option.some.injEq] at taken
    obtain ⟨place, rfl⟩ := taken
    exact .startsRead place _
  | armTimer =>
    simp only [ioStep, Option.ite_none_right_eq_some, Option.some.injEq] at taken
    obtain ⟨place, rfl⟩ := taken
    exact .armsTimer place
  | readCompletes =>
    simp only [ioStep, Option.ite_none_right_eq_some, Option.some.injEq] at taken
    obtain ⟨⟨place, -⟩, rfl⟩ := taken
    exact ioTransition_enter place
  | readEnds success =>
    simp only [ioStep, Option.ite_none_right_eq_some, Option.some.injEq] at taken
    obtain ⟨place, rfl⟩ := taken
    cases success with
    | true => exact .readsOn place
    | false => exact .drops (.inl place)
  | readOn =>
    simp only [ioStep, Option.ite_none_right_eq_some, Option.some.injEq] at taken
    obtain ⟨place, rfl⟩ := taken
    exact .endsRead place _
  | pingFires =>
    simp only [ioStep, Option.ite_none_right_eq_some, Option.some.injEq] at taken
    obtain ⟨⟨place, -⟩, rfl⟩ := taken
    exact ioTransition_enter place
  | pingAborted =>
    simp only [ioStep, Option.ite_none_right_eq_some, Option.some.injEq] at taken
    obtain ⟨⟨place, -⟩, rfl⟩ := taken
    have same : { state with waits := state.waits - 1 } =
        { state with waits := state.waits - 1, io := .idle } := by rw [← place]
    rw [same]
    exact .enters place _ _ _ .idle (fun started => absurd rfl started)
  | loadConnected =>
    simp only [ioStep, Option.ite_none_right_eq_some, Option.some.injEq] at taken
    obtain ⟨place, rfl⟩ := taken
    exact .loadsConnected place
  | pingEnds success =>
    simp only [ioStep, Option.ite_none_right_eq_some, Option.some.injEq] at taken
    obtain ⟨place, rfl⟩ := taken
    cases success with
    | true => exact .pinged place
    | false => exact .drops (.inr (.inl place))
  | retryFires =>
    simp only [ioStep, Option.ite_none_right_eq_some, Option.some.injEq] at taken
    obtain ⟨⟨place, -⟩, rfl⟩ := taken
    exact ioTransition_enter place
  | attemptEnds success =>
    simp only [ioStep, Option.ite_none_right_eq_some, Option.some.injEq] at taken
    obtain ⟨place, rfl⟩ := taken
    cases success with
    | true => exact .reconnects place
    | false => exact .drops (.inr (.inr place))
  | scheduleRetry allowed =>
    simp only [ioStep, Option.ite_none_right_eq_some, Option.some.injEq] at taken
    obtain ⟨place, rfl⟩ := taken
    exact .schedules place _
  | closeAndStop =>
    simp only [ioStep, Option.ite_none_right_eq_some, Option.some.injEq] at taken
    obtain ⟨⟨place, -, queued⟩, rfl⟩ := taken
    exact .stops place queued
  | leaveLoop =>
    simp only [ioStep, Option.ite_none_right_eq_some, Option.some.injEq] at taken
    obtain ⟨⟨place, -⟩, rfl⟩ := taken
    exact .leaves place
  | storeStop | storeDown | loadTimer | cancelTimer | postClose | join => cases taken

/-- An access of the owner, by the one before it. -/
inductive OwnerTransition (state : State) : State → Prop where
  | storesStop (before : state.owner = .idle) :
      OwnerTransition state { state with shouldStop := true, owner := .stopStored }
  | storesDown (before : state.owner = .stopStored) :
      OwnerTransition state { state with connected := false, owner := .downStored }
  | loadsTimer (before : state.owner = .downStored) :
      OwnerTransition state { state with owner := .timerLoaded state.pingTimer }
  | cancels {timer : Option Nat} (before : state.owner = .timerLoaded timer) (cancelled : Bool) :
      OwnerTransition state { state with cancelled := cancelled, owner := .timerCancelled }
  | posts (before : state.owner = .timerCancelled) :
      OwnerTransition state { state with posted := true, owner := .joining }
  | joins (before : state.owner = .joining) :
      OwnerTransition state { state with owner := .returned }

theorem ownerTransition_of_step (taken : ownerStep state label = some after) :
    OwnerTransition state after := by
  cases label with
  | storeStop =>
    simp only [ownerStep, Option.ite_none_right_eq_some, Option.some.injEq] at taken
    obtain ⟨before, rfl⟩ := taken
    exact .storesStop before
  | storeDown =>
    simp only [ownerStep, Option.ite_none_right_eq_some, Option.some.injEq] at taken
    obtain ⟨before, rfl⟩ := taken
    exact .storesDown before
  | loadTimer =>
    simp only [ownerStep, Option.ite_none_right_eq_some, Option.some.injEq] at taken
    obtain ⟨before, rfl⟩ := taken
    exact .loadsTimer before
  | cancelTimer =>
    simp only [ownerStep] at taken
    split at taken <;> cases taken
    exact .cancels ‹_› _
  | postClose =>
    simp only [ownerStep, Option.ite_none_right_eq_some, Option.some.injEq] at taken
    obtain ⟨before, rfl⟩ := taken
    exact .posts before
  | join =>
    simp only [ownerStep, Option.ite_none_right_eq_some, Option.some.injEq] at taken
    obtain ⟨⟨before, -⟩, rfl⟩ := taken
    exact .joins before
  | _ => cases taken

theorem transition_of_step (taken : machine.step state label = some after) :
    IoTransition state after ∨ OwnerTransition state after := by
  rcases Option.or_eq_some_iff.mp taken with moved | ⟨-, moved⟩
  · exact .inl (ioTransition_of_step moved)
  · exact .inr (ownerTransition_of_step moved)

/-- `disconnect` has not posted its handler yet. -/
def Owner.unposted : Owner → Bool
  | .joining | .returned => false
  | _ => true

/-- Nothing but the handler of `disconnect` stops the loop. -/
def Unstopped (state : State) : Prop :=
  state.owner.unposted = true → state.posted = false ∧ state.stopped = false

theorem Unstopped.step (unstopped : Unstopped state)
    (taken : machine.step state label = some after) : Unstopped after := by
  rcases transition_of_step taken with moved | moved
  · cases moved with
    | stops place queued =>
      intro early
      have unqueued := (unstopped early).1
      simp [queued] at unqueued
    | _ => exact unstopped
  · cases moved with
    | storesStop before => exact fun _ => unstopped (by rw [before]; rfl)
    | storesDown before => exact fun _ => unstopped (by rw [before]; rfl)
    | loadsTimer before => exact fun _ => unstopped (by rw [before]; rfl)
    | cancels before cancelled => exact fun _ => unstopped (by rw [before]; rfl)
    | posts before => exact nofun
    | joins before => exact nofun

theorem reachable_unstopped (reached : machine.Reachable Machine.anyStep initial state) :
    Unstopped state := by
  have initially : Unstopped initial := fun _ => ⟨rfl, rfl⟩
  exact reached.invariant initially fun unstopped _ taken => unstopped.step taken

/-- The state that the first store of `disconnect` leaves. -/
theorem eq_of_storeStop (called : machine.step state .storeStop = some after) :
    state.owner = .idle ∧ after = { state with shouldStop := true, owner := .stopStored } := by
  simp only [machine, ioStep, ownerStep, Option.none_or, Option.ite_none_right_eq_some,
    Option.some.injEq] at called
  exact ⟨called.1, called.2.symm⟩

/-- A handler that starts after the store of `should_stop` ends at once. -/
theorem handler_idle {handler : IoThread} (stopped : state.shouldStop = true)
    (clear : handler ≠ .idle → state.shouldStop = false) : handler = .idle := by
  by_cases started : handler = .idle
  · exact started
  · simp [clear started] at stopped

/-- `disconnect` has stored `connected`. -/
def Owner.down : Owner → Bool
  | .idle | .stopStored => false
  | _ => true

/-- No reconnect is in progress or can start, and nothing has set `connected` again. -/
structure Subdued (state : State) : Prop where
  stopped : state.shouldStop = true
  elsewhere : state.io ≠ .attempting
  down : state.owner.down = true → state.connected = false

theorem Subdued.io (subdued : Subdued state) (moved : IoTransition state after) :
    Subdued after := by
  cases moved with
  | enters place reads waits retries handler clear =>
    refine ⟨subdued.stopped, ?_, subdued.down⟩
    rw [handler_idle subdued.stopped clear]
    nofun
  | drops place => exact ⟨subdued.stopped, nofun, fun _ => rfl⟩
  | loadsConnected place =>
    refine ⟨subdued.stopped, ?_, subdued.down⟩
    cases state.connected with
    | true => exact nofun
    | false => exact nofun
  | reconnects place => exact absurd place subdued.elsewhere
  | stops place queued => exact ⟨subdued.stopped, subdued.elsewhere, subdued.down⟩
  | _ => exact ⟨subdued.stopped, nofun, subdued.down⟩

theorem Subdued.owner (subdued : Subdued state) (moved : OwnerTransition state after) :
    Subdued after := by
  cases moved with
  | storesStop before => exact ⟨rfl, subdued.elsewhere, nofun⟩
  | storesDown before => exact ⟨subdued.stopped, subdued.elsewhere, fun _ => rfl⟩
  | loadsTimer before =>
    exact ⟨subdued.stopped, subdued.elsewhere, fun _ => subdued.down (by rw [before]; rfl)⟩
  | cancels before cancelled =>
    exact ⟨subdued.stopped, subdued.elsewhere, fun _ => subdued.down (by rw [before]; rfl)⟩
  | posts before =>
    exact ⟨subdued.stopped, subdued.elsewhere, fun _ => subdued.down (by rw [before]; rfl)⟩
  | joins before =>
    exact ⟨subdued.stopped, subdued.elsewhere, fun _ => subdued.down (by rw [before]; rfl)⟩

theorem Subdued.step (subdued : Subdued state) (taken : machine.step state label = some after) :
    Subdued after := by
  rcases transition_of_step taken with moved | moved
  · exact subdued.io moved
  · exact subdued.owner moved

/-- A reconnect that was in progress may succeed after `connected` was cleared. -/
theorem connected_after_disconnect (unstopped : Unstopped state)
    (stopStored : state.owner = .stopStored) (attempting : state.io = .attempting) :
    ∃ later, machine.Reachable Machine.anyStep state later ∧ later.owner = .returned ∧
      later.connected = true := by
  obtain ⟨unqueued, running⟩ := unstopped (by rw [stopStored]; rfl)
  have evaluated : ∃ later, machine.run Machine.anyStep state
      [.storeDown, .attemptEnds true, .startRead, .armTimer, .loadTimer, .cancelTimer, .postClose,
        .closeAndStop, .leaveLoop, .join] = some later ∧ later.owner = .returned ∧
          later.connected = true := by
    simp [Machine.run, Machine.anyStep, machine, ioStep, ownerStep, stopStored, attempting, running]
  obtain ⟨later, ran, returned⟩ := evaluated
  exact ⟨later, Machine.reachable_of_run ran, returned⟩

/-- After `disconnect` has returned `is_connected` is false, in every run that follows the
store of `should_stop`, exactly if no reconnect was in progress at that store. -/
theorem disconnected_reported_iff (reached : machine.Reachable Machine.anyStep initial state)
    (called : machine.step state .storeStop = some after) :
    (∀ {later : State}, machine.Reachable Machine.anyStep after later → later.owner = .returned →
      later.connected = false) ↔ state.io ≠ .attempting := by
  obtain ⟨idle, rfl⟩ := eq_of_storeStop called
  constructor
  · intro reported attempting
    have unstopped := (reachable_unstopped reached).step called
    obtain ⟨later, onward, returned, up⟩ := connected_after_disconnect unstopped rfl attempting
    simp [reported onward returned] at up
  · intro elsewhere later onward returned
    have begun : Subdued { state with shouldStop := true, owner := .stopStored } :=
      ⟨rfl, elsewhere, nofun⟩
    have subdued := onward.invariant begun fun subdued _ taken => subdued.step taken
    exact subdued.down (by rw [returned]; rfl)

/-- A client in the middle of a reconnect when `disconnect` is called. -/
theorem disconnected_reported_iff_attempting :
    ∃ state after : State, machine.Reachable Machine.anyStep initial state ∧
      machine.step state .storeStop = some after ∧ state.io = .attempting ∧
        ((∀ {later : State}, machine.Reachable Machine.anyStep after later →
          later.owner = .returned → later.connected = false) ↔ state.io ≠ .attempting) := by
  obtain ⟨state, reached, attempting, idle⟩ : ∃ state,
      machine.Reachable Machine.anyStep initial state ∧
        (state.io = .attempting ∧ state.owner = .idle) :=
    Machine.exists_reachable_of_run
      [.startRead, .armTimer, .readCompletes, .readEnds false, .scheduleRetry true, .retryFires]
      (by decide)
  have called : machine.step state .storeStop =
      some { state with shouldStop := true, owner := .stopStored } := by
    simp [machine, ioStep, ownerStep, idle]
  exact ⟨state, _, reached, called, attempting, disconnected_reported_iff reached called⟩

/-- Two accesses are enabled at the same time: that of the thread assigns `ping_timer` and
destroys the timer it held, that of the owner loads the pointer or uses the timer it has
loaded. -/
def BothEnabled (state : State) : Prop :=
  state.io = .beforeTimer ∧
    (state.owner = .downStored ∨ ∃ timer, state.owner = .timerLoaded timer)

/-- The handlers that go on to `do_ping_timer` without another look at `should_stop`. -/
def IoThread.rearms : IoThread → Bool
  | .beforeRead | .beforeTimer | .pingChecked | .pinging | .attempting => true
  | _ => false

/-- No handler that assigns `ping_timer` is in progress or can start. -/
structure Disarmed (state : State) : Prop where
  stopped : state.shouldStop = true
  elsewhere : state.io.rearms = false

theorem Disarmed.step (disarmed : Disarmed state)
    (taken : machine.step state label = some after) : Disarmed after := by
  have contradicted {claim : Prop} (rearms : state.io.rearms = true) : claim := by
    simp [disarmed.elsewhere] at rearms
  rcases transition_of_step taken with moved | moved
  · cases moved with
    | startsRead place reads => exact contradicted (by rw [place]; rfl)
    | armsTimer place => exact contradicted (by rw [place]; rfl)
    | enters place reads waits retries handler clear =>
      refine ⟨disarmed.stopped, ?_⟩
      rw [handler_idle disarmed.stopped clear]
      rfl
    | loadsConnected place => exact contradicted (by rw [place]; rfl)
    | pinged place => exact contradicted (by rw [place]; rfl)
    | reconnects place => exact contradicted (by rw [place]; rfl)
    | stops place queued => exact ⟨disarmed.stopped, disarmed.elsewhere⟩
    | _ => exact ⟨disarmed.stopped, rfl⟩
  · cases moved with
    | storesStop before => exact ⟨rfl, disarmed.elsewhere⟩
    | _ => exact ⟨disarmed.stopped, disarmed.elsewhere⟩

theorem Disarmed.apart (disarmed : Disarmed state) : ¬ BothEnabled state := by
  rintro ⟨place, -⟩
  have rearms := disarmed.elsewhere
  rw [place] at rearms
  cases rearms

/-- A schedule that brings the thread to the assignment when `disconnect` is about to load. -/
theorem bothEnabled_of_run (labels : List Label)
    (evaluated : ∃ later, machine.run Machine.anyStep state labels = some later ∧
      later.io = .beforeTimer ∧ later.owner = .downStored) :
    ∃ later, machine.Reachable Machine.anyStep state later ∧ BothEnabled later := by
  obtain ⟨later, ran, place, loads⟩ := evaluated
  exact ⟨later, Machine.reachable_of_run ran, place, .inl loads⟩

/-- A handler that rearms the timer may get to it while `disconnect` is about to load it. -/
theorem bothEnabled_after_disconnect (stopStored : state.owner = .stopStored)
    (rearms : state.io.rearms = true) :
    ∃ later, machine.Reachable Machine.anyStep state later ∧ BothEnabled later := by
  cases place : state.io with
  | beforeRead =>
    apply bothEnabled_of_run [.storeDown, .startRead]
    simp [Machine.run, Machine.anyStep, machine, ioStep, ownerStep, stopStored, place]
  | beforeTimer =>
    apply bothEnabled_of_run [.storeDown]
    simp [Machine.run, Machine.anyStep, machine, ioStep, ownerStep, stopStored, place]
  | pingChecked =>
    apply bothEnabled_of_run [.storeDown, .loadConnected]
    simp [Machine.run, Machine.anyStep, machine, ioStep, ownerStep, stopStored, place]
  | pinging =>
    apply bothEnabled_of_run [.storeDown, .pingEnds true]
    simp [Machine.run, Machine.anyStep, machine, ioStep, ownerStep, stopStored, place]
  | attempting =>
    apply bothEnabled_of_run [.storeDown, .attemptEnds true, .startRead]
    simp [Machine.run, Machine.anyStep, machine, ioStep, ownerStep, stopStored, place]
  | idle | readChecked | readingOn | reconnecting | ended =>
    rw [place] at rearms
    cases rearms

/-- Whatever happened before: an assignment of `ping_timer` and a use of it by `disconnect` are
never enabled at the same time, in any run that follows the store of `should_stop`, exactly if
the thread was in no handler that goes on to rearm the timer: a first connect, a reconnect or a
ping. -/
theorem ping_timer_apart_iff (called : machine.step state .storeStop = some after) :
    (∀ {later : State}, machine.Reachable Machine.anyStep after later → ¬ BothEnabled later) ↔
      state.io.rearms = false := by
  obtain ⟨idle, rfl⟩ := eq_of_storeStop called
  constructor
  · intro apart
    apply Bool.eq_false_iff.mpr
    intro rearms
    have stopStored :
        { state with shouldStop := true, owner := .stopStored }.owner = .stopStored := rfl
    obtain ⟨later, onward, both⟩ := bothEnabled_after_disconnect stopStored rearms
    exact apart onward both
  · intro elsewhere later onward
    have begun : Disarmed { state with shouldStop := true, owner := .stopStored } :=
      ⟨rfl, elsewhere⟩
    exact (onward.invariant begun fun disarmed _ taken => disarmed.step taken).apart

/-- A `disconnect` right after `connect`: the thread has yet to start its first timer. -/
theorem ping_timer_apart_iff_early :
    ∃ after : State, machine.step initial .storeStop = some after ∧
      initial.io.rearms = true ∧
        ((∀ {later : State}, machine.Reachable Machine.anyStep after later → ¬ BothEnabled later) ↔
          initial.io.rearms = false) :=
  ⟨_, rfl, rfl, ping_timer_apart_iff rfl⟩

end Bintrade.Ws.DisconnectRace
