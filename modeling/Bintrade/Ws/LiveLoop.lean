import Bintrade.Ws.ClientTransition
import Bintrade.Ws.EventLoop

/-! Whether a successful `connect` leaves a live event loop. The `io_context` of an
object that was used before is stopped, or holds a handler that will stop it. -/

namespace Bintrade.Ws.EventLoop

open Bintrade.System Bintrade.Core

/-- The read of the stream that `connect` opened is outstanding, or about to be
started. -/
def Awaiting (state : State) : Prop :=
  state.io = .notified ∨ state.opened ∈ state.client.reads

/-- The I/O thread is inside `run`, or on its way there, the loop is not stopped and no
handler has closed the stream. -/
def Live (state : State) : Prop :=
  (state.io = .notified ∨ state.io = .entering ∨ state.io = .looping) ∧
    state.stopped = false ∧ state.closed = false

instance (state : State) : Decidable (Awaiting state) :=
  inferInstanceAs (Decidable (_ ∨ _))

instance (state : State) : Decidable (Live state) :=
  inferInstanceAs (Decidable (_ ∧ _))

/-- The step ends the chain of reads on the stream that `connect` opened: its read fails, or
completes after a reconnect put another stream in its place. -/
def endsRead (state : State) : Label → Bool
  | .handler (.readCompletes stream outcome) =>
    stream = state.opened && (!outcome.toBool || state.client.stream ≠ state.opened)
  | _ => false

/-- Whether the chain of reads on the opened stream has ended. -/
def noteRead (state : State) (label : Label) (ended : Bool) : Bool :=
  endsRead state label || ended

/-- What holds between a successful `connect` and the next `disconnect`. Until the chain of
reads ends, the next one is outstanding and the loop is live to process it. Afterwards the
loop is live as long as it has anything to wait for, but whether it has depends on the
remaining attempts to reconnect. -/
def Served (observed : State × Bool) : Prop :=
  observed.1.online = true →
    (observed.2 = false → Awaiting observed.1 ∧ Live observed.1) ∧
      (hasWork observed.1 = true → Live observed.1)

def Label.isCall : Label → Bool
  | .connect | .disconnect => true
  | _ => false

/-- The steps up to the owner's next call. -/
def noCall (_ : State × Bool) (label : Label) : Prop := label.isCall = false

instance (observed : State × Bool) (label : Label) : Decidable (noCall observed label) :=
  inferInstanceAs (Decidable (_ = _))

section Used

variable {config : WebSocketConfig} {state after : State} {label : Label}

/-- An object that was used has an I/O thread, a stopped loop or a queued handler. -/
structure Used (state : State) : Prop where
  ended : state.io = .finished → state.stopped = true
  spent : state.io = .none → state.stopped = true ∨ 0 < state.posted
  called : state.called = true

theorem Used.step (used : Used state) (taken : (machine config).step state label = some after) :
    Used after := by
  cases transition_of_step taken with
  | connect idle unused => exact ⟨nofun, nofun, rfl⟩
  | connectSucceeds | connectFails => exact ⟨used.ended, used.spent, used.called⟩
  | disconnect idle => exact ⟨used.ended, fun _ => .inr (Nat.succ_pos _), rfl⟩
  | join joining ended => exact ⟨nofun, fun _ => .inl (used.ended ended), used.called⟩
  | attempt success connecting =>
    cases success with
    | true => exact ⟨nofun, nofun, used.called⟩
    | false => exact ⟨nofun, nofun, used.called⟩
  | startOperations notified => exact ⟨nofun, nofun, used.called⟩
  | enterLoop entering =>
    refine ⟨?_, ?_, used.called⟩
    · intro ended
      by_cases stopped : state.stopped = true
      · exact stopped
      · simp [stopped] at ended
    · intro unused
      by_cases stopped : state.stopped = true
      · exact .inl stopped
      · simp [stopped] at unused
  | handler looping running handled => exact ⟨used.ended, used.spent, used.called⟩
  | runPosted looping running queued => exact ⟨fun _ => rfl, fun _ => .inl rfl, used.called⟩
  | leaveLoop looping exhausted => exact ⟨fun _ => rfl, nofun, used.called⟩

/-- A call of the owner is the first thing that can happen to a fresh object. -/
theorem used_of_first (taken : (machine config).step initial label = some after) : Used after := by
  cases label with
  | connect =>
    cases taken
    exact ⟨nofun, nofun, rfl⟩
  | disconnect =>
    cases taken
    exact ⟨nofun, fun _ => .inr Nat.one_pos, rfl⟩
  | handler label => cases label <;> cases taken
  | _ => cases taken

theorem fresh_or_used (reached : (machine config).Reachable Machine.anyStep initial state) :
    state = initial ∨ Used state := by
  apply reached.invariant
  · exact .inl rfl
  · rintro before after label (rfl | used) _ taken
    · exact .inr (used_of_first taken)
    · exact .inr (used.step taken)

end Used

section First

variable {config : WebSocketConfig} {state after : State} {ended : Bool} {label : Label}

/-- The first `connect` of an object: nothing was posted, and the loop stops only when there
is nothing left to wait for, which a chain of reads that has not ended excludes. -/
structure First (state : State) (ended : Bool) : Prop where
  unposted : state.posted = 0
  unclosed : state.closed = false
  exhausted : state.stopped = true →
    hasWork state = false ∧ (state.io = .finished ∨ state.io = .none)
  gone : state.io = .finished → state.stopped = true
  early : state.io = .connecting →
    state.owner = .waiting ∧ state.outcome = none ∧ state.online = false
  launched : state.outcome = some true → state.io ≠ .none ∧ state.io ≠ .connecting
  failed : state.owner = .joining → state.outcome = some false
  returned : state.online = true → state.outcome = some true
  going : state.client.shouldStop = true → state.outcome = some false
  current : state.io = .notified → state.opened = state.client.stream
  reading : state.outcome = some true → ended = false → Awaiting state

/-- While the thread is on its way or in the loop, the loop is not stopped. -/
theorem First.running (first : First state ended) (unfinished : state.io ≠ .finished)
    (present : state.io ≠ .none) : ¬ state.stopped = true := by
  intro stopped
  rcases (first.exhausted stopped).2 with ended | absent
  · exact unfinished ended
  · exact present absent

theorem First.unstopped (first : First state ended) (success : state.outcome = some true) :
    state.client.shouldStop = false := by
  apply Bool.eq_false_iff.mpr
  intro told
  have failure := first.going told
  rw [success] at failure
  cases failure

theorem First.start (taken : (machine config).step initial .connect = some after) :
    First after false := by
  cases taken
  exact ⟨rfl, rfl, nofun, nofun, fun _ => ⟨rfl, rfl, rfl⟩, nofun, nofun, nofun, nofun, nofun,
    nofun⟩

section Handlers

variable {client next : WebSocketClient.State} {handled : WebSocketClient.Label}

/-- A handler that does not end the chain of reads leaves one outstanding. -/
theorem mem_reads_handler (running : client.shouldStop = false) (handler : handled ≠ .disconnect)
    (outstanding : state.opened ∈ client.reads)
    (goesOn : endsRead { state with client } (.handler handled) = false)
    (taken : (WebSocketClient.machine config).step client handled = some next) :
    state.opened ∈ next.reads := by
  have contradicted {claim : Prop} (stopped : client.shouldStop = true) : claim := by
    rw [running] at stopped
    cases stopped
  cases WebSocketClient.transition_of_step taken with
  | readStopped pending stopped => exact contradicted stopped
  | @readFails stream message pending going =>
    have other : state.opened ≠ stream := by
      rintro rfl
      simp [endsRead, Except.toBool] at goesOn
    rw [WebSocketClient.attemptReconnect_reads]
    exact (List.mem_erase_of_ne other).mpr outstanding
  | @readDelivers stream frame pending going =>
    by_cases own : state.opened = stream
    · subst own
      have current : client.stream = state.opened := by
        simpa [endsRead, Except.toBool] using goesOn
      rw [current]
      exact .head _
    · exact .tail _ ((List.mem_erase_of_ne own).mpr outstanding)
  | pingStopped pending stopped => exact contradicted stopped
  | pingFails =>
    rw [WebSocketClient.attemptReconnect_reads]
    exact outstanding
  | pingRestarts => exact outstanding
  | pingAborted => exact outstanding
  | retryStopped pending stopped => exact contradicted stopped
  | reconnects => exact .tail _ outstanding
  | retryFails =>
    rw [WebSocketClient.attemptReconnect_reads]
    exact outstanding
  | disconnect => exact absurd rfl handler

end Handlers

theorem First.handler {handled : WebSocketClient.Label} {client : WebSocketClient.State}
    (first : First state ended) (looping : state.io = .looping) (running : state.stopped = false)
    (handler : handled ≠ .disconnect)
    (taken : (WebSocketClient.machine config).step state.client handled = some client) :
    First { state with client } (noteRead state (.handler handled) ended) where
  unposted := first.unposted
  unclosed := first.unclosed
  exhausted stopped := absurd stopped (Bool.eq_false_iff.mp running)
  gone := first.gone
  early := first.early
  launched := first.launched
  failed := first.failed
  returned := first.returned
  going told := by
    rw [WebSocketClient.shouldStop_handler handler taken] at told
    exact first.going told
  current notified := by
    rw [looping] at notified
    cases notified
  reading := by
    intro success unended
    obtain ⟨goesOn, before⟩ := Bool.or_eq_false_iff.mp unended
    rcases first.reading success before with notified | outstanding
    · rw [looping] at notified
      cases notified
    · exact .inr (mem_reads_handler (first.unstopped success) handler outstanding goesOn taken)

theorem First.step (first : First state ended) (quiet : label.isCall = false)
    (taken : (machine config).step state label = some after) :
    First after (noteRead state label ended) := by
  cases transition_of_step taken with
  | connect | disconnect => cases quiet
  | connectSucceeds waiting success =>
    refine ⟨first.unposted, first.unclosed, first.exhausted, first.gone, ?_, first.launched, nofun,
      fun _ => success, first.going, first.current, first.reading⟩
    intro connecting
    exact absurd connecting (first.launched success).2
  | connectFails waiting failure =>
    refine ⟨first.unposted, first.unclosed, first.exhausted, first.gone, ?_, first.launched,
      fun _ => failure, first.returned, fun _ => failure, first.current, first.reading⟩
    intro connecting
    have unset := (first.early connecting).2.1
    rw [failure] at unset
    cases unset
  | join joining ended =>
    have outcome := first.failed joining
    have impossible {claim : Prop} (success : state.outcome = some true) : claim := by
      rw [success] at outcome
      cases outcome
    exact ⟨first.unposted, first.unclosed, fun stopped => ⟨(first.exhausted stopped).1, .inr rfl⟩,
      nofun, nofun, impossible, nofun, first.returned, first.going, nofun, impossible⟩
  | attempt success connecting =>
    obtain ⟨waiting, unset, offline⟩ := first.early connecting
    have running := first.running (by rw [connecting]; nofun) (by rw [connecting]; nofun)
    have notJoining : state.owner = .joining → some success = some false := by
      intro joining
      rw [waiting] at joining
      cases joining
    have notOnline : state.online = true → some success = some true := by
      intro online
      rw [offline] at online
      cases online
    have notTold : state.client.shouldStop = true → some success = some false := by
      intro told
      have failure := first.going told
      rw [unset] at failure
      cases failure
    refine ⟨first.unposted, rfl, fun stopped => absurd stopped running, ?_, ?_, ?_, notJoining,
      notOnline, notTold, fun _ => rfl, ?_⟩
    · cases success with
      | true => exact nofun
      | false => exact nofun
    · cases success with
      | true => exact nofun
      | false => exact nofun
    · rintro ⟨⟩
      exact ⟨nofun, nofun⟩
    · rintro ⟨⟩ -
      exact .inl rfl
  | startOperations notified =>
    have running := first.running (by rw [notified]; nofun) (by rw [notified]; nofun)
    refine ⟨first.unposted, first.unclosed, fun stopped => absurd stopped running, nofun, nofun,
      fun _ => ⟨nofun, nofun⟩, first.failed, first.returned, ?_, nofun, ?_⟩
    · intro told
      refine first.going ?_
      rw [← WebSocketClient.doRead_shouldStop]
      exact told
    · intro success unended
      right
      change state.opened ∈ (WebSocketClient.doRead state.client).reads
      rw [WebSocketClient.doRead_running (Bool.eq_false_iff.mp (first.unstopped success)),
        first.current notified]
      exact .head _
  | enterLoop entering =>
    have running := first.running (by rw [entering]; nofun) (by rw [entering]; nofun)
    rw [if_neg running]
    refine ⟨first.unposted, first.unclosed, fun stopped => absurd stopped running, nofun, nofun,
      fun _ => ⟨nofun, nofun⟩, first.failed, first.returned, first.going, nofun, ?_⟩
    intro success unended
    rcases first.reading success unended with notified | outstanding
    · rw [entering] at notified
      cases notified
    · exact .inr outstanding
  | handler looping running handled =>
    exact first.handler looping running (handler_ne_disconnect taken) handled
  | runPosted looping running queued =>
    have unposted := first.unposted
    omega
  | leaveLoop looping exhausted =>
    have running := first.running (by rw [looping]; nofun) (by rw [looping]; nofun)
    have idle : hasWork state = false := exhausted.resolve_left running
    refine ⟨first.unposted, first.unclosed, fun _ => ⟨idle, .inl rfl⟩, fun _ => rfl, nofun,
      fun _ => ⟨nofun, nofun⟩, first.failed, first.returned, first.going, nofun, ?_⟩
    intro success unended
    rcases first.reading success unended with notified | outstanding
    · rw [looping] at notified
      cases notified
    · exact .inr outstanding

theorem First.live (first : First state ended) (online : state.online = true)
    (working : state.io = .notified ∨ hasWork state = true) : Live state := by
  obtain ⟨present, launched⟩ := first.launched (first.returned online)
  have running : state.stopped = false := by
    apply Bool.eq_false_iff.mpr
    intro stopped
    obtain ⟨idle, gone⟩ := first.exhausted stopped
    rcases working with notified | work
    · rw [notified] at gone
      rcases gone with ended | absent
      · cases ended
      · cases absent
    · rw [idle] at work
      cases work
  refine ⟨?_, running, first.unclosed⟩
  cases phase : state.io with
  | none => exact absurd phase present
  | connecting => exact absurd phase launched
  | notified => exact .inl rfl
  | entering => exact .inr (.inl rfl)
  | looping => exact .inr (.inr rfl)
  | finished =>
    rw [first.gone phase] at running
    cases running

theorem hasWork_of_read {stream : Nat} (outstanding : stream ∈ state.client.reads) :
    hasWork state = true := by
  have waiting : state.client.reads.isEmpty = false :=
    List.isEmpty_eq_false_iff.mpr (List.ne_nil_of_mem outstanding)
  simp [hasWork, waiting]

theorem First.served (first : First state ended) : Served (state, ended) := by
  intro online
  refine ⟨fun unended => ?_, fun work => first.live online (.inr work)⟩
  have awaiting := first.reading (first.returned online) unended
  exact ⟨awaiting, first.live online (awaiting.imp_right hasWork_of_read)⟩

end First

section Reuse

variable {config : WebSocketConfig} {state connected : State}

/-- The object after a `connect` that succeeded and returned, with its thread past the
entry of `run`. -/
def reused (state : State) : State :=
  { state with
    client := WebSocketClient.doPingTimer (WebSocketClient.doRead
      { state.client with
        stream := state.client.stream + 1
        connected := true
        shouldStop := false })
    closed := false
    opened := state.client.stream + 1
    outcome := some true
    io := if state.stopped then .finished else .looping
    owner := .idle
    online := true
    called := true }

theorem reachable_reused (taken : (machine config).step state .connect = some connected) :
    ((machine config).observe noteRead).Reachable noCall (connected, false)
      (reused state, false) := by
  cases transition_of_step taken with
  | connect idle unused =>
    apply Machine.reachable_of_run
    change ((machine config).observe noteRead).run noCall _
      [.attempt true, .connectReturns, .startOperations, .enterLoop] = some (reused state, false)
    rfl

/-- A used object is connected again in vain: `run` returns at once, or the handler
that is still queued closes the new stream. -/
theorem unserved_of_used (used : Used state)
    (taken : (machine config).step state .connect = some connected) :
    ∃ later, ((machine config).observe noteRead).Reachable noCall (connected, false) later ∧
      ¬ Served later := by
  have reached := reachable_reused taken
  by_cases stopped : state.stopped = true
  · refine ⟨(reused state, false), reached, fun served => ?_⟩
    have running := ((served rfl).1 rfl).2.2.1
    rw [show state.stopped = false from running] at stopped
    cases stopped
  · cases transition_of_step taken with
    | connect idle unused =>
      have queued := (used.spent unused).resolve_left stopped
      have closes : ((machine config).observe noteRead).step (reused state, false) .runPosted =
          some (closeAndStop (reused state), false) := by
        simp [Machine.observe, machine, step, reused, stopped, queued, noteRead, endsRead]
      have quiet : noCall (reused state, false) .runPosted := rfl
      refine ⟨(closeAndStop (reused state), false), reached.next quiet closes, fun served => ?_⟩
      have unclosed := ((served rfl).1 rfl).2.2.2
      cases unclosed

end Reuse

/-- After a `connect`, until the next call of the owner, every state in which `connect` has
returned normally is served, exactly if the object was never used before: neither connected,
with any outcome, nor disconnected. Served means that the loop is live and the read of the
new stream outstanding until that read fails or its stream is replaced, and that the loop
stays live afterwards as long as it has work. -/
theorem connect_leaves_live_loop_iff {config : WebSocketConfig} {before connected : State}
    (reached : (machine config).Reachable Machine.anyStep initial before)
    (called : (machine config).step before .connect = some connected) :
    (∀ observed, ((machine config).observe noteRead).Reachable noCall (connected, false) observed →
      Served observed) ↔ before.called = false := by
  constructor
  · intro served
    rcases fresh_or_used reached with rfl | used
    · rfl
    · obtain ⟨later, reachable, unserved⟩ := unserved_of_used used called
      exact absurd (served later reachable) unserved
  · intro unused observed reachable
    rcases fresh_or_used reached with rfl | used
    · let Holds (observed : State × Bool) : Prop := First observed.1 observed.2
      have first : Holds observed := by
        refine reachable.invariant (First.start called) ?_
        intro before after label first quiet taken
        obtain ⟨moved, noted⟩ := Machine.observe_step taken
        rw [show Holds after = First after.1 after.2 from rfl, noted]
        exact First.step first quiet moved
      exact first.served
    · rw [used.called] at unused
      cases unused

theorem first_connect_leaves_live_loop :
    ∃ connected, (machine {}).step initial .connect = some connected ∧
      ∀ observed, ((machine {}).observe noteRead).Reachable noCall (connected, false) observed →
        Served observed :=
  ⟨_, rfl, (connect_leaves_live_loop_iff .start rfl).mpr rfl⟩

/-- Connect, disconnect and connect again: the second `connect` returns normally, its
read is outstanding, and the thread has left the loop. -/
theorem reconnected_loop_dead :
    ∃ state, (machine {}).Reachable Machine.anyStep initial state ∧
      (state.online = true ∧ Awaiting state ∧ ¬ Live state) :=
  Machine.exists_reachable_of_run
    [.connect, .attempt true, .startOperations, .enterLoop, .connectReturns, .disconnect,
      .runPosted, .leaveLoop, .join, .connect, .attempt true, .connectReturns, .startOperations,
      .enterLoop]
    (by decide)

end Bintrade.Ws.EventLoop
