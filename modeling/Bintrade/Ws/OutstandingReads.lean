import Bintrade.Ws.ClientTransition

/-! A connection that the client reports is read and pinged, and how often each stream is
read at a time. A handler that reads on does so from the current stream, so a read that
completed on a replaced stream starts a second one beside that of its successor. -/

namespace Bintrade.Ws.WebSocketClient

open Bintrade.System Bintrade.Core

variable {config : WebSocketConfig} {state after : State} {label : Label}

/-- A reported connection has a read and a ping timer, and no read is ahead of the
current stream. -/
structure Served (state : State) : Prop where
  running : state.connected = true → state.shouldStop = false
  reading : state.connected = true → state.stream ∈ state.reads
  pinging : state.connected = true → 0 < state.pings
  past : ∀ stream ∈ state.reads, stream ≤ state.stream

theorem Served.initial : Served initial where
  running _ := rfl
  reading _ := .head _
  pinging _ := Nat.zero_lt_one
  past := by
    intro stream outstanding
    exact Nat.le_of_eq (List.mem_singleton.mp outstanding)

/-- A handler that drops the connection only has to keep its reads in the past. -/
theorem Served.dropped (down : state.connected = false)
    (past : ∀ stream ∈ state.reads, stream ≤ state.stream) : Served state := by
  have never {claim : Prop} (up : state.connected = true) : claim := by
    rw [down] at up
    cases up
  exact ⟨never, never, never, past⟩

theorem Served.step (served : Served state)
    (taken : (machine config).step state label = some after) : Served after := by
  have past := served.past
  have stopped (stop : state.shouldStop = true) : state.connected = false := by
    apply Bool.eq_false_iff.mpr
    intro up
    rw [served.running up] at stop
    cases stop
  cases transition_of_step taken with
  | readStopped outstanding stop =>
    exact Served.dropped (stopped stop) fun stream left => past stream (List.mem_of_mem_erase left)
  | readFails outstanding running =>
    apply Served.dropped
    · simp
    · simp only [attemptReconnect_reads, attemptReconnect_stream]
      exact fun stream left => past stream (List.mem_of_mem_erase left)
  | readDelivers outstanding running =>
    refine ⟨fun _ => running, fun _ => .head _, served.pinging, ?_⟩
    intro stream left
    rcases List.mem_cons.mp left with current | earlier
    · exact Nat.le_of_eq current
    · exact past stream (List.mem_of_mem_erase earlier)
  | pingStopped waiting stop => exact Served.dropped (stopped stop) past
  | pingFails waiting running up =>
    apply Served.dropped
    · simp
    · simp only [attemptReconnect_reads, attemptReconnect_stream]
      exact past
  | pingRestarts waiting running answered => exact served
  | pingAborted spare =>
    refine ⟨served.running, served.reading, ?_, past⟩
    intro up
    rcases spare with spare | ⟨stop, -⟩
    · exact Nat.sub_pos_of_lt spare
    · rw [show state.connected = true from up] at stopped
      cases stopped stop
  | retryStopped pending stop => exact Served.dropped (stopped stop) past
  | reconnects pending running =>
    refine ⟨fun _ => running, fun _ => .head _, fun _ => Nat.succ_pos _, ?_⟩
    intro stream left
    rcases List.mem_cons.mp left with current | earlier
    · exact Nat.le_of_eq current
    · exact Nat.le_succ_of_le (past stream earlier)
  | retryFails pending running =>
    apply Served.dropped
    · simp [State.report]
    · simp only [attemptReconnect_reads, attemptReconnect_stream]
      exact fun stream left => Nat.le_succ_of_le (past stream left)
  | disconnect => exact Served.dropped rfl past

theorem reachable_served
    (reached : (machine config).Reachable Machine.anyStep initial state) : Served state :=
  reached.invariant Served.initial fun served _ taken => served.step taken

/-- A read completes with a frame on a replaced stream while the current one is read, and the
client was not told to stop. -/
def startsSecondRead (state : State) : Label → Bool
  | .readCompletes stream (.ok _) =>
    !state.shouldStop && stream != state.stream && state.reads.contains state.stream
  | _ => false

/-- Whether two reads have been outstanding on one stream at any time so far. -/
def noteDoubled (config : WebSocketConfig) (state : State) (label : Label) (doubled : Bool) :
    Bool :=
  doubled || (step config state label).any fun after => !decide after.reads.Nodup

def Doubled (observed : State × Bool) : Prop := observed.2 = true

def readsAlone (observed : State × Bool) (label : Label) : Prop :=
  startsSecondRead observed.1 label = false

instance (observed : State × Bool) (label : Label) : Decidable (readsAlone observed label) :=
  inferInstanceAs (Decidable (_ = false))

/-- Reading on after a completed read starts a second one exactly if the current stream
is still read. -/
theorem nodup_readOn {stream : Nat} (single : state.reads.Nodup) :
    (state.stream :: state.reads.erase stream).Nodup ↔
      ¬ (stream ≠ state.stream ∧ state.stream ∈ state.reads) := by
  rw [List.nodup_cons, and_iff_left (single.erase stream)]
  by_cases current : stream = state.stream
  · subst current
    simp [single.not_mem_erase]
  · rw [List.mem_erase_of_ne (Ne.symm current)]
    simp [current]

theorem Served.nodup_step (served : Served state) (single : state.reads.Nodup)
    (taken : (machine config).step state label = some after) :
    after.reads.Nodup ↔ startsSecondRead state label = false := by
  cases transition_of_step taken with
  | readStopped outstanding stop =>
    rename_i stream outcome
    refine iff_of_true (single.erase stream) ?_
    cases outcome <;> simp [startsSecondRead, stop]
  | @readFails stream message outstanding running =>
    refine iff_of_true ?_ rfl
    rw [attemptReconnect_reads]
    exact single.erase stream
  | readDelivers outstanding running =>
    rw [nodup_readOn single]
    simp [startsSecondRead, running]
  | reconnects pending running =>
    refine iff_of_true (List.nodup_cons.mpr ⟨?_, single⟩) rfl
    intro ahead
    exact Nat.not_succ_le_self _ (served.past _ ahead)
  | pingFails waiting running up =>
    rw [attemptReconnect_reads]
    exact iff_of_true single rfl
  | retryFails pending running =>
    rw [attemptReconnect_reads]
    exact iff_of_true single rfl
  | _ => exact iff_of_true single rfl

/-- As long as nothing was doubled, each stream is read once at most. -/
theorem nodup_of_not_doubled {observed : State × Bool}
    (reached : ((machine config).observe (noteDoubled config)).Reachable Machine.anyStep
      (initial, false) observed)
    (clean : ¬ Doubled observed) : observed.1.reads.Nodup := by
  cases reached with
  | start => exact List.nodup_cons.mpr ⟨nofun, List.nodup_nil⟩
  | next earlier _ taken =>
    obtain ⟨moved, noted⟩ := Machine.observe_step taken
    have evaluated : step config _ _ = some observed.1 := moved
    rw [Doubled, noted, noteDoubled, evaluated] at clean
    simp at clean
    exact clean.2

/-- In every run, no stream ever has two reads outstanding at once exactly if no read
completes with a frame on a replaced stream while the stream that replaced it is read and the
client has not been told to stop. -/
theorem reads_never_doubled_iff {doubled : Bool}
    (reached : ((machine config).observe (noteDoubled config)).Reachable Machine.anyStep
      (initial, false) (state, doubled)) :
    ¬ Doubled (state, doubled) ↔
      ((machine config).observe (noteDoubled config)).Reachable readsAlone
        (initial, false) (state, doubled) := by
  refine Machine.Reachable.good_iff reached nofun ?_
  intro before after label earlier taken
  obtain ⟨moved, noted⟩ := Machine.observe_step taken
  have evaluated : step config before.1 label = some after.1 := moved
  by_cases already : Doubled before
  · refine iff_of_true ?_ (.inl already)
    rw [Doubled, noted, noteDoubled, show before.2 = true from already]
    rfl
  · have served := reachable_served earlier.unobserved
    have kept := served.nodup_step (nodup_of_not_doubled earlier already) moved
    rw [or_iff_right already, readsAlone, ← kept, Doubled, noted, noteDoubled, evaluated]
    simp [Bool.eq_false_iff.mpr already]

/-- A ping fails, the reconnect succeeds, and then a frame arrives on the stream that was
replaced. -/
theorem reads_never_doubled_iff_stale :
    ∃ observed : State × Bool,
      ((machine ⟨5, 10⟩).observe (noteDoubled ⟨5, 10⟩)).Reachable Machine.anyStep
        (initial, false) observed ∧
      (observed.1.reads = [1, 1] ∧ observed.2 = true) ∧
      (¬ Doubled observed ↔
        ((machine ⟨5, 10⟩).observe (noteDoubled ⟨5, 10⟩)).Reachable readsAlone
          (initial, false) observed) := by
  have stale : ∃ observed : State × Bool,
      ((machine ⟨5, 10⟩).observe (noteDoubled ⟨5, 10⟩)).Reachable Machine.anyStep
        (initial, false) observed ∧
      (observed.1.reads = [1, 1] ∧ observed.2 = true) :=
    Machine.exists_reachable_of_run
      [.pingFires (.error "broken pipe"), .retryFires 0 (.ok ()), .readCompletes 0 (.ok .binary)]
      (by decide)
  obtain ⟨observed, reached, doubled⟩ := stale
  exact ⟨observed, reached, doubled, reads_never_doubled_iff reached⟩

end Bintrade.Ws.WebSocketClient
