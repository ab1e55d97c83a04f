import Bintrade.System.Refinement
import Bintrade.Ws.DisconnectRace
import Bintrade.Ws.OutstandingReads

/-! The handlers of the I/O thread at two levels. `DisconnectRace` takes them apart at their
accesses to what the threads share, `WebSocketClient` takes each as one step. The coarser model
is run beside the finer one, and follows it until `disconnect` is called. -/

namespace Bintrade.Ws.DisconnectRace

open Bintrade.System Bintrade.Core

/-- The step of the client that an access of the thread completes. A handler that fails does so
at the store of `connected`, one that rearms a timer or reads on where that is settled. Which of
several reads or timers is over is not told at this level. -/
def handled (state : State) (client : WebSocketClient.State) : Label → Option WebSocketClient.Label
  | .readEnds false => some (.readCompletes (client.reads.headD 0) (.error ""))
  | .readOn => some (.readCompletes (client.reads.headD 0) (.ok .binary))
  | .loadConnected => if state.connected then none else some (.pingFires (.ok ()))
  | .pingEnds true => some (.pingFires (.ok ()))
  | .pingEnds false => some (.pingFires (.error ""))
  | .pingAborted => some .pingAborted
  | .attemptEnds true => some (.retryFires 0 (.ok ()))
  | .attemptEnds false => some (.retryFires 0 (.error ""))
  | _ => none

/-- The client whose handlers run without interruption, beside the accesses. -/
def atomically (config : WebSocketConfig) :
    State → Label → WebSocketClient.State → WebSocketClient.State :=
  Machine.follow (WebSocketClient.machine config) handled

def withinLimit (client : WebSocketClient.State) : Label → Bool
  | .scheduleRetry allowed => allowed == !client.gaveUp
  | _ => true

/-- The attempts that are allowed are those that the client allows. -/
def Limited (observed : State × WebSocketClient.State) (label : Label) : Prop :=
  withinLimit observed.2 label = true

instance (observed : State × WebSocketClient.State) (label : Label) :
    Decidable (Limited observed label) :=
  inferInstanceAs (Decidable (_ = true))

/-- Moreover `disconnect` is not called. -/
def Undisturbed (observed : State × WebSocketClient.State) (label : Label) : Prop :=
  Limited observed label ∧ label ≠ .storeStop

/-- The reads that the handler in progress has taken from the loop, or has yet to start. -/
def IoThread.reads : IoThread → Nat
  | .beforeRead | .readChecked | .readingOn => 1
  | _ => 0

def IoThread.pings : IoThread → Nat
  | .beforeRead | .beforeTimer | .pingChecked | .pinging => 1
  | _ => 0

def IoThread.retries (gaveUp : Bool) : IoThread → Nat
  | .attempting => 1
  | .reconnecting => if gaveUp then 0 else 1
  | _ => 0

/-- The flags are the same, and the operations are, up to the handler in progress. -/
structure Follows (state : State) (client : WebSocketClient.State) : Prop where
  uncalled : state.owner = .idle
  unstopped : state.shouldStop = false
  uncancelled : state.cancelled = false
  unposted : state.posted = false
  running : client.shouldStop = false
  connected : client.connected = state.connected
  pinging : state.io = .pinging → state.connected = true
  reads : client.reads.length = state.reads + state.io.reads
  pings : client.pings = state.waits + state.io.pings
  retries : client.retries.length = state.retries + state.io.retries client.gaveUp

section Steps

variable {config : WebSocketConfig} {state after : State} {client : WebSocketClient.State}
  {label : Label}

theorem Follows.initial : Follows initial WebSocketClient.initial where
  uncalled := rfl
  unstopped := rfl
  uncancelled := rfl
  unposted := rfl
  running := rfl
  connected := rfl
  pinging := nofun
  reads := rfl
  pings := rfl
  retries := rfl

/-- The thread goes on in a handler or to the next one. -/
theorem Follows.moves {next : WebSocketClient.State} {io : IoThread} {connected : Bool}
    {pingTimer : Option Nat} {timers reads waits retries : Nat} (follows : Follows state client)
    (running : next.shouldStop = false) (same : next.connected = connected)
    (pinging : io = .pinging → connected = true)
    (readsSame : next.reads.length = reads + io.reads)
    (pingsSame : next.pings = waits + io.pings)
    (retriesSame : next.retries.length = retries + io.retries next.gaveUp) :
    Follows { state with
      io := io, connected := connected, pingTimer := pingTimer, timers := timers, reads := reads,
      waits := waits, retries := retries } next :=
  ⟨follows.uncalled, follows.unstopped, follows.uncancelled, follows.unposted, running, same,
    pinging, readsSame, pingsSame, retriesSame⟩

/-- Until `disconnect` is called, every step is one of the thread. -/
theorem Follows.io_step (follows : Follows state client)
    (undisturbed : Undisturbed (state, client) label)
    (taken : machine.step state label = some after) : ioStep state label = some after := by
  rcases Option.or_eq_some_iff.mp taken with moved | ⟨-, moved⟩
  · exact moved
  · have idle := follows.uncalled
    cases label with
    | storeStop => exact absurd rfl undisturbed.2
    | storeDown | loadTimer | cancelTimer | postClose | join => simp [ownerStep, idle] at moved
    | _ => cases moved

/-- A handler that fails leaves a timer behind, unless it gave up. -/
theorem attemptReconnect_retries {attempt : Nat} {delay : Int} {dropped : WebSocketClient.State}
    (running : dropped.shouldStop = false) :
    (WebSocketClient.attemptReconnect config attempt delay dropped).retries.length =
      dropped.retries.length + IoThread.reconnecting.retries
        (WebSocketClient.attemptReconnect config attempt delay dropped).gaveUp := by
  unfold WebSocketClient.attemptReconnect
  rw [if_neg (Bool.eq_false_iff.mp running)]
  split
  · simp [WebSocketClient.State.report, IoThread.retries]
  · simp [IoThread.retries]

theorem Follows.counts {io : IoThread} (follows : Follows state client) (place : state.io = io) :
    client.reads.length = state.reads + io.reads ∧ client.pings = state.waits + io.pings ∧
      client.retries.length = state.retries + io.retries client.gaveUp := by
  subst place
  exact ⟨follows.reads, follows.pings, follows.retries⟩

/-- A handler that fails stores `connected` and goes on to schedule an attempt. -/
theorem Follows.drops {attempt : Nat} {delay : Int} {dropped : WebSocketClient.State}
    (follows : Follows state client) (running : dropped.shouldStop = false)
    (down : dropped.connected = false) (reads : dropped.reads.length = state.reads)
    (pings : dropped.pings = state.waits) (retries : dropped.retries.length = state.retries) :
    Follows { state with connected := false, io := .reconnecting }
      (WebSocketClient.attemptReconnect config attempt delay dropped) := by
  apply follows.moves
  · rwa [WebSocketClient.attemptReconnect_shouldStop]
  · rwa [WebSocketClient.attemptReconnect_connected]
  · nofun
  · rwa [WebSocketClient.attemptReconnect_reads]
  · rwa [WebSocketClient.attemptReconnect_pings]
  · rw [attemptReconnect_retries running, retries]

theorem Follows.readFails (follows : Follows state client) (place : state.io = .readChecked) :
    Follows { state with connected := false, io := .reconnecting }
      (atomically config state (.readEnds false) client) := by
  obtain ⟨reads, pings, retries⟩ := follows.counts place
  obtain ⟨origin, rest, listed⟩ := List.exists_cons_of_length_eq_add_one reads
  have running : (client.withoutRead origin).shouldStop = false := follows.running
  have stepped : (WebSocketClient.machine config).step client (.readCompletes origin (.error "")) =
      some (WebSocketClient.handleRead config origin (.error "") (client.withoutRead origin)) :=
    if_pos (by rw [listed]; exact .head _)
  have shown : handled state client (.readEnds false) =
      some (.readCompletes origin (.error "")) := by
    simp [handled, listed]
  rw [atomically, Machine.follow_visible shown stepped, WebSocketClient.handleRead_error running]
  refine follows.drops running rfl ?_ pings retries
  rw [listed] at reads
  simpa [WebSocketClient.State.withoutRead, listed, IoThread.reads] using reads

theorem Follows.readsOn (follows : Follows state client) (place : state.io = .readingOn) :
    Follows { state with reads := state.reads + 1, io := .idle }
      (atomically config state .readOn client) := by
  obtain ⟨reads, pings, retries⟩ := follows.counts place
  obtain ⟨origin, rest, listed⟩ := List.exists_cons_of_length_eq_add_one reads
  have running : (client.withoutRead origin).shouldStop = false := follows.running
  have stepped :
      (WebSocketClient.machine config).step client (.readCompletes origin (.ok .binary)) =
        some (WebSocketClient.handleRead config origin (.ok .binary) (client.withoutRead origin)) :=
    if_pos (by rw [listed]; exact .head _)
  have shown : handled state client .readOn = some (.readCompletes origin (.ok .binary)) := by
    simp [handled, listed]
  rw [atomically, Machine.follow_visible shown stepped, WebSocketClient.handleRead_ok running]
  refine follows.moves running follows.connected nofun ?_ pings retries
  rw [listed] at reads
  simpa [WebSocketClient.State.withoutRead, listed, IoThread.reads] using reads

/-- A ping that is answered, or that finds no connection, leaves the client as it is. -/
theorem Follows.pinged {outcome : Except String Unit} (follows : Follows state client)
    (shown : handled state client label = some (.pingFires outcome))
    (waiting : 0 < client.pings)
    (answered : state.connected = true → ∀ message, outcome ≠ .error message) :
    atomically config state label client = client := by
  have stepped : (WebSocketClient.machine config).step client (.pingFires outcome) =
      some (WebSocketClient.handlePing config outcome client.withoutPing) := if_pos waiting
  rw [atomically, Machine.follow_visible shown stepped]
  have running : client.withoutPing.shouldStop = false := follows.running
  have up : client.withoutPing.connected = state.connected := follows.connected
  rw [WebSocketClient.handlePing_restarts running (by rwa [up])]
  have counted : client.pings - 1 + 1 = client.pings := by omega
  simp only [WebSocketClient.doPingTimer, WebSocketClient.State.withoutPing, counted]

/-- A handler of the ping timer that goes on to start the next one. -/
theorem Follows.rearms {outcome : Except String Unit} (follows : Follows state client)
    (place : state.io = .pinging ∨ state.io = .pingChecked)
    (shown : handled state client label = some (.pingFires outcome))
    (answered : state.connected = true → ∀ message, outcome ≠ .error message) :
    Follows { state with io := .beforeTimer } (atomically config state label client) := by
  have counts : client.reads.length = state.reads ∧ client.pings = state.waits + 1 ∧
      client.retries.length = state.retries := by
    rcases place with place | place <;> exact follows.counts place
  obtain ⟨reads, pings, retries⟩ := counts
  have waiting : 0 < client.pings := by omega
  rw [follows.pinged shown waiting answered]
  exact follows.moves follows.running follows.connected nofun reads pings retries

theorem Follows.pingFails (follows : Follows state client) (place : state.io = .pinging) :
    Follows { state with connected := false, io := .reconnecting }
      (atomically config state (.pingEnds false) client) := by
  obtain ⟨reads, pings, retries⟩ := follows.counts place
  have running : client.withoutPing.shouldStop = false := follows.running
  have stepped : (WebSocketClient.machine config).step client (.pingFires (.error "")) =
      some (WebSocketClient.handlePing config (.error "") client.withoutPing) :=
    if_pos (by rw [pings]; exact Nat.succ_pos _)
  have shown : handled state client (.pingEnds false) = some (.pingFires (.error "")) := rfl
  have up : client.withoutPing.connected = true := follows.connected.trans (follows.pinging place)
  rw [atomically, Machine.follow_visible shown stepped, WebSocketClient.handlePing_error running up]
  refine follows.drops running rfl reads ?_ retries
  rw [WebSocketClient.State.withoutPing, pings]
  rfl

theorem Follows.attempted {outcome : Except String Unit} (follows : Follows state client)
    (place : state.io = .attempting)
    (shown : handled state client label = some (.retryFires 0 outcome)) :
    ∃ retry, atomically config state label client =
        WebSocketClient.handleRetry config retry outcome (client.withoutRetry 0) ∧
      (client.withoutRetry 0).retries.length = state.retries := by
  obtain ⟨-, -, retries⟩ := follows.counts place
  obtain ⟨retry, rest, listed⟩ := List.exists_cons_of_length_eq_add_one retries
  have stepped : (WebSocketClient.machine config).step client (.retryFires 0 outcome) =
      some (WebSocketClient.handleRetry config retry outcome (client.withoutRetry 0)) := by
    simp [WebSocketClient.machine, WebSocketClient.step, WebSocketClient.State.withoutRetry, listed]
  refine ⟨retry, Machine.follow_visible shown stepped, ?_⟩
  rw [listed] at retries
  simpa [WebSocketClient.State.withoutRetry, listed, IoThread.retries] using retries

theorem Follows.reconnects (follows : Follows state client) (place : state.io = .attempting) :
    Follows { state with connected := true, io := .beforeRead }
      (atomically config state (.attemptEnds true) client) := by
  obtain ⟨reads, pings, -⟩ := follows.counts place
  have shown : handled state client (.attemptEnds true) = some (.retryFires 0 (.ok ())) := rfl
  obtain ⟨retry, moved, retries⟩ := follows.attempted place shown
  have running : (client.withoutRetry 0).shouldStop = false := follows.running
  rw [moved, WebSocketClient.handleRetry_ok running]
  refine follows.moves running rfl nofun ?_ ?_ retries
  · exact congrArg Nat.succ reads
  · exact congrArg Nat.succ pings

theorem Follows.attemptFails (follows : Follows state client) (place : state.io = .attempting) :
    Follows { state with connected := false, io := .reconnecting }
      (atomically config state (.attemptEnds false) client) := by
  obtain ⟨reads, pings, -⟩ := follows.counts place
  have shown : handled state client (.attemptEnds false) = some (.retryFires 0 (.error "")) := rfl
  obtain ⟨retry, moved, retries⟩ := follows.attempted place shown
  have running : (client.withoutRetry 0).shouldStop = false := follows.running
  rw [moved, WebSocketClient.handleRetry_error running]
  exact follows.drops running rfl reads pings retries

/-- A step inside a handler, or into one, that the coarser model does not see. -/
theorem Follows.proceeds {io : IoThread} {pingTimer : Option Nat}
    {timers reads waits retries : Nat} (follows : Follows state client)
    (hidden : handled state client label = none) (pinging : io = .pinging → state.connected = true)
    (readsSame : state.reads + state.io.reads = reads + io.reads)
    (pingsSame : state.waits + state.io.pings = waits + io.pings)
    (retriesSame : state.retries + state.io.retries client.gaveUp =
      retries + io.retries client.gaveUp) :
    Follows { state with
      io := io, pingTimer := pingTimer, timers := timers, reads := reads, waits := waits,
      retries := retries } (atomically config state label client) := by
  rw [atomically, Machine.follow_silent hidden]
  exact follows.moves follows.running follows.connected pinging
    (follows.reads.trans readsSame) (follows.pings.trans pingsSame)
    (follows.retries.trans retriesSame)

theorem Follows.loadsConnected (follows : Follows state client)
    (place : state.io = .pingChecked) :
    Follows { state with io := if state.connected then .pinging else .beforeTimer }
      (atomically config state .loadConnected client) := by
  rcases Bool.eq_false_or_eq_true state.connected with up | down
  · rw [if_pos up]
    refine follows.proceeds (if_pos up) (fun _ => up) ?_ ?_ ?_ <;> rw [place] <;> rfl
  · rw [if_neg (Bool.eq_false_iff.mp down)]
    refine follows.rearms (.inr place) (if_neg (Bool.eq_false_iff.mp down)) ?_
    intro up
    rw [down] at up
    cases up

theorem Follows.pingAborted (follows : Follows state client) (place : state.io = .idle)
    (spare : 1 < state.waits ∨ state.cancelled = true ∧ 0 < state.waits) :
    Follows { state with waits := state.waits - 1 }
      (atomically config state .pingAborted client) := by
  obtain ⟨reads, pings, retries⟩ := follows.counts place
  have several : 1 < state.waits := by
    rcases spare with several | ⟨cancelled, -⟩
    · exact several
    · rw [follows.uncancelled] at cancelled
      cases cancelled
  have stepped : (WebSocketClient.machine config).step client .pingAborted =
      some client.withoutPing := if_pos (.inl (by rw [pings]; exact several))
  have shown : handled state client .pingAborted = some .pingAborted := rfl
  rw [atomically, Machine.follow_visible shown stepped]
  refine follows.moves follows.running follows.connected follows.pinging follows.reads ?_
    follows.retries
  rw [WebSocketClient.State.withoutPing, pings, place]
  rfl

/-- A handler that starts takes its operation from the loop. -/
theorem Follows.enters {handler : IoThread} {reads waits retries : Nat}
    (follows : Follows state client) (hidden : handled state client label = none)
    (pinging : handler ≠ .pinging)
    (readsSame : state.reads + state.io.reads = reads + handler.reads)
    (pingsSame : state.waits + state.io.pings = waits + handler.pings)
    (retriesSame : state.retries + state.io.retries client.gaveUp =
      retries + handler.retries client.gaveUp) :
    Follows (enter { state with reads := reads, waits := waits, retries := retries } handler)
      (atomically config state label client) := by
  rw [enter, if_neg (Bool.eq_false_iff.mp follows.unstopped)]
  exact follows.proceeds hidden (fun started => absurd started pinging) readsSame pingsSame
    retriesSame

theorem Follows.step (follows : Follows state client)
    (undisturbed : Undisturbed (state, client) label)
    (taken : machine.step state label = some after) :
    Follows after (atomically config state label client) := by
  have running : ¬ state.shouldStop = true := Bool.eq_false_iff.mp follows.unstopped
  replace taken := follows.io_step undisturbed taken
  cases label with
  | startRead =>
    simp only [ioStep, if_neg running, Option.ite_none_right_eq_some, Option.some.injEq] at taken
    obtain ⟨place, rfl⟩ := taken
    refine follows.proceeds rfl (by simp) ?_ ?_ ?_ <;> rw [place] <;> rfl
  | armTimer =>
    simp only [ioStep, Option.ite_none_right_eq_some, Option.some.injEq] at taken
    obtain ⟨place, rfl⟩ := taken
    refine follows.proceeds rfl (by simp) ?_ ?_ ?_ <;> rw [place] <;> rfl
  | readCompletes =>
    simp only [ioStep, Option.ite_none_right_eq_some, Option.some.injEq] at taken
    obtain ⟨⟨place, -, outstanding⟩, rfl⟩ := taken
    refine follows.enters rfl (by simp) ?_ ?_ ?_ <;> rw [place]
    · exact (Nat.sub_add_cancel outstanding).symm
    · rfl
    · rfl
  | pingFires =>
    simp only [ioStep, Option.ite_none_right_eq_some, Option.some.injEq] at taken
    obtain ⟨⟨place, -, outstanding⟩, rfl⟩ := taken
    refine follows.enters rfl (by simp) ?_ ?_ ?_ <;> rw [place]
    · rfl
    · exact (Nat.sub_add_cancel outstanding).symm
    · rfl
  | retryFires =>
    simp only [ioStep, Option.ite_none_right_eq_some, Option.some.injEq] at taken
    obtain ⟨⟨place, -, outstanding⟩, rfl⟩ := taken
    refine follows.enters rfl (by simp) ?_ ?_ ?_ <;> rw [place]
    · rfl
    · rfl
    · exact (Nat.sub_add_cancel outstanding).symm
  | readEnds success =>
    simp only [ioStep, Option.ite_none_right_eq_some, Option.some.injEq] at taken
    obtain ⟨place, rfl⟩ := taken
    cases success with
    | true => refine follows.proceeds rfl (by simp) ?_ ?_ ?_ <;> rw [place] <;> rfl
    | false => exact follows.readFails place
  | readOn =>
    simp only [ioStep, if_neg running, Option.ite_none_right_eq_some, Option.some.injEq] at taken
    obtain ⟨place, rfl⟩ := taken
    exact follows.readsOn place
  | pingAborted =>
    simp only [ioStep, Option.ite_none_right_eq_some, Option.some.injEq] at taken
    obtain ⟨⟨place, -, spare⟩, rfl⟩ := taken
    exact follows.pingAborted place spare
  | loadConnected =>
    simp only [ioStep, Option.ite_none_right_eq_some, Option.some.injEq] at taken
    obtain ⟨place, rfl⟩ := taken
    exact follows.loadsConnected place
  | pingEnds success =>
    simp only [ioStep, Option.ite_none_right_eq_some, Option.some.injEq] at taken
    obtain ⟨place, rfl⟩ := taken
    cases success with
    | true => exact follows.rearms (.inl place) rfl (fun _ _ failed => by cases failed)
    | false => exact follows.pingFails place
  | attemptEnds success =>
    simp only [ioStep, Option.ite_none_right_eq_some, Option.some.injEq] at taken
    obtain ⟨place, rfl⟩ := taken
    cases success with
    | true => exact follows.reconnects place
    | false => exact follows.attemptFails place
  | scheduleRetry allowed =>
    simp only [ioStep, Option.ite_none_right_eq_some, Option.some.injEq] at taken
    obtain ⟨place, rfl⟩ := taken
    have decided : allowed = !client.gaveUp := beq_iff_eq.mp undisturbed.1
    refine follows.proceeds rfl (by simp) ?_ ?_ ?_ <;> rw [place]
    · rfl
    · rfl
    · rw [decided, follows.unstopped]
      cases client.gaveUp <;> rfl
  | closeAndStop => simp [ioStep, follows.unposted] at taken
  | leaveLoop =>
    simp only [ioStep, Option.ite_none_right_eq_some, Option.some.injEq] at taken
    obtain ⟨⟨place, -⟩, rfl⟩ := taken
    refine follows.proceeds rfl (by simp) ?_ ?_ ?_ <;> rw [place] <;> rfl
  | storeStop | storeDown | loadTimer | cancelTimer | postClose | join => cases taken

end Steps

end Bintrade.Ws.DisconnectRace
