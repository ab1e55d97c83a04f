import Bintrade.Ws.WebSocketClient

/-! One reconnect chain at a time. A read error ends the only read before it starts a
chain, and the chain starts the next read; a failed ping starts a chain beside a read
that is still outstanding. -/

namespace Bintrade.Ws.WebSocketClient

open Bintrade.System Bintrade.Core

/-- A chain is pending or a read is outstanding on the current stream, never both, and
no read is outstanding on a replaced stream. -/
structure Chain (state : State) : Prop where
  single : state.retries.length ≤ 1
  reading : state.reads = [] ∨ state.reads = [state.stream] ∧ state.retries = []
  alive : state.connected = true → state.reads = [state.stream]
  stopped : state.shouldStop = true → state.connected = false
  unaffected : state.staleEffect = false

section Chain

variable {config : WebSocketConfig} {state : State}

theorem Chain.initial : Chain initial where
  single := Nat.zero_le 1
  reading := .inr ⟨rfl, rfl⟩
  alive _ := rfl
  stopped := nofun
  unaffected := rfl

/-- A chain may be started where none is pending and nothing is read. -/
theorem Chain.attemptReconnect {attempt : Nat} {delay : Int} (chain : Chain state)
    (idle : state.reads = []) (none : state.retries = []) :
    Chain (attemptReconnect config attempt delay state) := by
  have down : state.connected = false := by
    apply Bool.eq_false_iff.mpr
    intro up
    have outstanding := chain.alive up
    rw [idle] at outstanding
    cases outstanding
  unfold WebSocketClient.attemptReconnect
  split
  · exact chain
  · split
    · exact ⟨chain.single, chain.reading, chain.alive, chain.stopped, chain.unaffected⟩
    · refine ⟨?_, .inl idle, ?_, chain.stopped, chain.unaffected⟩
      · simp [none]
      · intro up
        rw [down] at up
        cases up

/-- A read may be started where none is outstanding and no chain is pending. -/
theorem Chain.doRead (running : ¬ state.shouldStop = true) (idle : state.reads = [])
    (none : state.retries = []) (clean : state.staleEffect = false) : Chain (doRead state) := by
  have started : state.stream :: state.reads = [state.stream] := by rw [idle]
  rw [doRead_running running]
  refine ⟨?_, .inr ⟨started, none⟩, fun _ => started, fun stop => absurd stop running, clean⟩
  simp [none]

theorem Chain.doPingTimer (chain : Chain state) : Chain (doPingTimer state) :=
  ⟨chain.single, chain.reading, chain.alive, chain.stopped, chain.unaffected⟩

theorem Chain.readCompletes {stream : Nat} {outcome : Except String Frame} (chain : Chain state)
    (outstanding : stream ∈ state.reads) :
    Chain (handleRead config stream outcome { state with reads := state.reads.erase stream }) := by
  obtain ⟨same, none⟩ : state.reads = [state.stream] ∧ state.retries = [] := by
    rcases chain.reading with idle | busy
    · rw [idle] at outstanding
      cases outstanding
    · exact busy
  have current : stream = state.stream := by
    rw [same] at outstanding
    exact List.mem_singleton.mp outstanding
  have erased : state.reads.erase stream = [] := by
    rw [same, current]
    simp
  rw [erased]
  unfold handleRead
  split
  · rename_i stop
    refine ⟨chain.single, .inl rfl, ?_, chain.stopped, chain.unaffected⟩
    intro up
    have down := chain.stopped stop
    rw [show state.connected = true from up] at down
    cases down
  · rename_i running
    split
    · apply Chain.attemptReconnect
      · refine ⟨chain.single, .inl rfl, nofun, fun _ => rfl, ?_⟩
        simp [State.report, current, chain.unaffected]
      · rfl
      · exact none
    · exact Chain.doRead running rfl none chain.unaffected
    · exact Chain.doRead running rfl none chain.unaffected

theorem Chain.retryFires {index : Nat} {retry : Retry} {outcome : Except String Unit}
    (chain : Chain state) (pending : state.retries[index]? = some retry) :
    Chain (handleRetry config retry outcome
      { state with retries := state.retries.eraseIdx index }) := by
  have idle : state.reads = [] := by
    rcases chain.reading with idle | ⟨-, none⟩
    · exact idle
    · rw [none] at pending
      cases pending
  have last : state.retries.eraseIdx index = [] := by
    obtain ⟨below, -⟩ := List.getElem?_eq_some_iff.mp pending
    have single := chain.single
    apply List.eq_nil_of_length_eq_zero
    rw [List.length_eraseIdx_of_lt below]
    omega
  rw [last]
  unfold handleRetry
  split
  · exact ⟨Nat.zero_le 1, .inl idle, chain.alive, chain.stopped, chain.unaffected⟩
  · rename_i running
    split
    · apply Chain.doPingTimer
      apply Chain.doRead
      · exact running
      · exact idle
      · rfl
      · exact chain.unaffected
    · apply Chain.attemptReconnect
      · exact ⟨Nat.zero_le 1, .inl idle, nofun, fun _ => rfl, chain.unaffected⟩
      · exact idle
      · rfl

theorem Chain.pingFires {outcome : Except String Unit} (chain : Chain state)
    (answered : state.connected = true → ∀ message, outcome ≠ .error message) :
    Chain (handlePing config outcome { state with pings := state.pings - 1 }) := by
  unfold handlePing
  split
  · exact ⟨chain.single, chain.reading, chain.alive, chain.stopped, chain.unaffected⟩
  · split
    · rename_i up
      split
      · rename_i message
        exact absurd rfl (answered up message)
      · exact ⟨chain.single, chain.reading, chain.alive, chain.stopped, chain.unaffected⟩
    · exact ⟨chain.single, chain.reading, chain.alive, chain.stopped, chain.unaffected⟩

end Chain

/-- No ping fails while a read is outstanding on the stream that it pinged. -/
def pingsInTime (state : State) : Label → Bool
  | .pingFires (.error _) => !(state.connected && state.reads.contains state.stream)
  | _ => true

def pingAnswered (state : State) (label : Label) : Prop := pingsInTime state label = true

instance (state : State) (label : Label) : Decidable (pingAnswered state label) :=
  inferInstanceAs (Decidable (pingsInTime state label = true))

theorem Chain.step {config : WebSocketConfig} {state after : State} {label : Label}
    (chain : Chain state) (answered : pingAnswered state label)
    (taken : (machine config).step state label = some after) : Chain after := by
  cases label with
  | readCompletes stream outcome =>
    simp only [machine, WebSocketClient.step] at taken
    split at taken <;> cases taken
    exact chain.readCompletes ‹_›
  | pingFires outcome =>
    simp only [machine, WebSocketClient.step] at taken
    split at taken <;> cases taken
    apply chain.pingFires
    rintro up message rfl
    simp [pingAnswered, pingsInTime, up, chain.alive up] at answered
  | pingAborted =>
    simp only [machine, WebSocketClient.step] at taken
    split at taken <;> cases taken
    exact ⟨chain.single, chain.reading, chain.alive, chain.stopped, chain.unaffected⟩
  | retryFires index outcome =>
    simp only [machine, WebSocketClient.step] at taken
    split at taken <;> cases taken
    exact chain.retryFires ‹_›
  | disconnect =>
    simp only [machine, WebSocketClient.step] at taken
    cases taken
    exact ⟨chain.single, chain.reading, nofun, fun _ => rfl, chain.unaffected⟩

/-- In every run in which no ping fails while a read is outstanding on its stream, at
most one reconnect timer is pending, at most one read is outstanding on the current
stream, and no completion on a replaced stream drops the connection. -/
theorem single_reconnect_chain {config : WebSocketConfig} {state : State}
    (reached : (machine config).Reachable pingAnswered initial state) :
    state.retries.length ≤ 1 ∧ state.reads.count state.stream ≤ 1 ∧
      state.staleEffect = false := by
  have chain : Chain state :=
    reached.invariant Chain.initial fun chain answered taken => chain.step answered taken
  refine ⟨chain.single, ?_, chain.unaffected⟩
  rcases chain.reading with idle | ⟨busy, -⟩
  · simp [idle]
  · simp [busy]

/-- A read error and the reconnect that follows it. -/
theorem reconnect_after_read_error :
    ∃ state, (machine ⟨5, 10⟩).Reachable pingAnswered initial state ∧
      (state.stream = 1 ∧ state.connected = true) ∧
        state.retries.length ≤ 1 ∧ state.reads.count state.stream ≤ 1 ∧
          state.staleEffect = false := by
  have reconnected : ∃ state, (machine ⟨5, 10⟩).Reachable pingAnswered initial state ∧
      (state.stream = 1 ∧ state.connected = true) :=
    Machine.exists_reachable_of_run
      [.readCompletes 0 (.error "reset"), .retryFires 0 (.ok ())] (by decide)
  obtain ⟨state, reached, current⟩ := reconnected
  exact ⟨state, reached, current, single_reconnect_chain reached⟩

/-- A ping fails, and then the read that was outstanding on the same stream: two
reconnect timers are pending. -/
theorem two_reconnect_chains :
    ∃ state, (machine ⟨5, 10⟩).Reachable Machine.anyStep initial state ∧
      (state.shouldStop = false ∧ state.retries.length = 2) :=
  Machine.exists_reachable_of_run
    [.pingFires (.error "broken pipe"), .readCompletes 0 (.error "reset")] (by decide)

end Bintrade.Ws.WebSocketClient
