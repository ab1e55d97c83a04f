import Bintrade.Ws.Backoff
import Bintrade.Ws.ClientTransition
import Bintrade.System.Rounding
import Mathlib.Algebra.BigOperators.Group.List.Basic

/-! The timers of `attempt_reconnect` in every run, however many chains are pending at
once: what they wait for, and how many attempts one failure can lead to. -/

namespace Bintrade.Ws.WebSocketClient

open Bintrade.System Bintrade.Core

/-- `jitter`, on milliseconds, for a number drawn from `dist(0.75, 1.25)`. -/
def jitter (rounding : Rounding) (drawn : ℚ) (base : Int) : Int :=
  truncate (rounding.round (rounding.round base * drawn))

/-- The milliseconds for which the timer of an attempt is set. -/
def Retry.wait (rounding : Rounding) (drawn : ℚ) (retry : Retry) : Int :=
  jitter rounding drawn (retry.delay * 1000)

/-- A delay of whole seconds is stretched or shortened by a quarter at most, with nothing
lost to rounding. -/
theorem wait_bounds (rounding : Rounding) {drawn : ℚ} (low : 3 / 4 ≤ drawn)
    (high : drawn ≤ 5 / 4) {retry : Retry} (nonnegative : 0 ≤ retry.delay)
    (fits : 1250 * retry.delay ≤ 2 ^ 53) :
    750 * retry.delay ≤ retry.wait rounding drawn ∧
      retry.wait rounding drawn ≤ 1250 * retry.delay := by
  have exactly : rounding.round ((retry.delay * 1000 : Int) : ℚ) = (retry.delay * 1000 : Int) := by
    apply rounding.exact
    rw [abs_of_nonneg (by omega)]
    omega
  have positive : (0 : ℚ) ≤ retry.delay := by exact_mod_cast nonnegative
  unfold Retry.wait jitter
  rw [exactly]
  refine rounding.truncate_bounds (by omega) (by omega) fits ?_ ?_
  · push_cast
    nlinarith
  · push_cast
    nlinarith

variable {config : WebSocketConfig} {state after : State} {label : Label}

/-- Every pending timer belongs to an allowed attempt and has the delay of that attempt. -/
def TimersOnBackoff (config : WebSocketConfig) (state : State) : Prop :=
  ∀ retry ∈ state.retries, retry.attempt < config.maxReconnectAttempts ∧
    retry.delay = backoff config.reconnectInterval retry.attempt

/-- `attempt_reconnect` starts at most the timer it was called for. -/
theorem mem_attemptReconnect {attempt : Nat} {delay : Int} {retry : Retry}
    (pending : retry ∈ (attemptReconnect config attempt delay state).retries) :
    retry ∈ state.retries ∨ retry = ⟨attempt, delay⟩ ∧ attempt < config.maxReconnectAttempts := by
  unfold attemptReconnect at pending
  split at pending
  · exact .inl pending
  · split at pending
    · exact .inl pending
    · rename_i left
      rcases List.mem_append.mp pending with earlier | started
      · exact .inl earlier
      · exact .inr ⟨List.mem_singleton.mp started, Int.not_le.mp left⟩

theorem TimersOnBackoff.attemptReconnect {attempt : Nat} {delay : Int}
    (timers : TimersOnBackoff config state)
    (scheduled : delay = backoff config.reconnectInterval attempt) :
    TimersOnBackoff config (attemptReconnect config attempt delay state) := by
  intro retry pending
  rcases mem_attemptReconnect pending with earlier | ⟨rfl, allowed⟩
  · exact timers retry earlier
  · exact ⟨allowed, scheduled⟩

theorem TimersOnBackoff.withoutRetry (timers : TimersOnBackoff config state) (index : Nat) :
    TimersOnBackoff config (state.withoutRetry index) :=
  fun retry pending => timers retry (List.mem_of_mem_eraseIdx pending)

theorem TimersOnBackoff.step (timers : TimersOnBackoff config state)
    (taken : (machine config).step state label = some after) : TimersOnBackoff config after := by
  cases transition_of_step taken with
  | readFails outstanding running =>
    apply TimersOnBackoff.attemptReconnect
    · exact timers
    · rfl
  | pingFails waiting running up =>
    apply TimersOnBackoff.attemptReconnect
    · exact timers
    · rfl
  | @retryStopped index retry outcome pending stopped => exact timers.withoutRetry index
  | @reconnects index retry pending running => exact timers.withoutRetry index
  | @retryFails index retry message pending running =>
    obtain ⟨-, scheduled⟩ := timers retry (List.mem_of_getElem? pending)
    apply TimersOnBackoff.attemptReconnect
    · exact timers.withoutRetry index
    · rw [scheduled, backoff_succ]
  | _ => exact timers

theorem reachable_timersOnBackoff
    (reached : (machine config).Reachable Machine.anyStep initial state) :
    TimersOnBackoff config state := by
  have initially : TimersOnBackoff config initial := nofun
  exact reached.invariant initially fun timers _ taken => timers.step taken

/-- From the second attempt on the delay is capped at a minute. -/
theorem backoff_le_minute {interval : Int} {attempt : Nat} (later : 0 < attempt) :
    backoff interval attempt ≤ 60 := by
  unfold backoff
  rw [if_neg later.ne']
  exact min_le_right _ _

theorem backoff_fits {interval : Int} (nonnegative : 0 ≤ interval)
    (representable : interval ≤ 7378697629) (attempt : Nat) :
    0 ≤ backoff interval attempt ∧ backoff interval attempt ≤ 7378697629 := by
  obtain ⟨low, -⟩ := backoff_bounds nonnegative (by omega) attempt
  refine ⟨low, ?_⟩
  cases attempt with
  | zero => exact representable
  | succ attempt =>
    have capped : backoff interval (attempt + 1) ≤ 60 := backoff_le_minute (Nat.succ_pos _)
    omega

/-- In every run, with any number of chains at once, each pending reconnect timer belongs
to an attempt that is allowed and was set to its backoff delay give or take a quarter,
whatever was drawn and however the product was rounded. From the second attempt on that is
at most 75 seconds. The interval is one whose longest wait fits the nanoseconds of the timer,
which are 64 bits wide; then all waits fit. -/
theorem retry_timers_bounded (nonnegative : 0 ≤ config.reconnectInterval)
    (representable : config.reconnectInterval ≤ 7378697629)
    (reached : (machine config).Reachable Machine.anyStep initial state) {retry : Retry}
    (pending : retry ∈ state.retries) (rounding : Rounding) {drawn : ℚ} (low : 3 / 4 ≤ drawn)
    (high : drawn ≤ 5 / 4) :
    retry.attempt < config.maxReconnectAttempts ∧
      750 * backoff config.reconnectInterval retry.attempt ≤ retry.wait rounding drawn ∧
      retry.wait rounding drawn ≤ 1250 * backoff config.reconnectInterval retry.attempt ∧
      (0 < retry.attempt → retry.wait rounding drawn ≤ 75000) ∧
      1000000 * retry.wait rounding drawn < 2 ^ 63 := by
  obtain ⟨allowed, scheduled⟩ := reachable_timersOnBackoff reached retry pending
  obtain ⟨positive, fits⟩ := backoff_fits nonnegative representable retry.attempt
  rw [← scheduled] at positive fits ⊢
  obtain ⟨lower, upper⟩ := wait_bounds rounding low high positive (by omega)
  refine ⟨allowed, lower, upper, ?_, by omega⟩
  intro later
  have capped : retry.delay ≤ 60 := by
    rw [scheduled]
    exact backoff_le_minute later
  omega

/-- A read error after a failed reconnect leaves two timers; the older one waits for twice
the interval. -/
theorem retry_timers_bounded_twice :
    ∃ state, (machine ⟨5, 10⟩).Reachable Machine.anyStep initial state ∧
      state.retries = [⟨1, 10⟩, ⟨0, 5⟩] ∧
        ((1 : Nat) < (10 : Int) ∧
          750 * backoff 5 1 ≤ Retry.wait Rounding.identity (6 / 5) ⟨1, 10⟩ ∧
          Retry.wait Rounding.identity (6 / 5) ⟨1, 10⟩ ≤ 1250 * backoff 5 1 ∧
          (0 < 1 → Retry.wait Rounding.identity (6 / 5) ⟨1, 10⟩ ≤ 75000) ∧
          1000000 * Retry.wait Rounding.identity (6 / 5) ⟨1, 10⟩ < 2 ^ 63) := by
  obtain ⟨state, reached, timers⟩ : ∃ state,
      (machine ⟨5, 10⟩).Reachable Machine.anyStep initial state ∧
        state.retries = [⟨1, 10⟩, ⟨0, 5⟩] :=
    Machine.exists_reachable_of_run
      [.pingFires (.error "broken pipe"), .retryFires 0 (.error "refused"),
        .readCompletes 0 (.error "reset")] (by decide)
  have pending : (⟨1, 10⟩ : Retry) ∈ state.retries := by
    rw [timers]
    exact List.mem_cons_self
  exact ⟨state, reached, timers, retry_timers_bounded (by decide) (by decide) reached pending
    Rounding.identity (by norm_num) (by norm_num)⟩

/-- The failures that a running client handled, and its attempts to reconnect. A read error
counts as one even if a ping has found the connection lost before. -/
structure Tally where
  failures : Nat
  attempts : Nat
  deriving DecidableEq

def noteFailure (state : State) (label : Label) (tally : Tally) : Tally :=
  if state.shouldStop then tally
  else
    match label with
    | .readCompletes _ (.error _) => { tally with failures := tally.failures + 1 }
    | .pingFires (.error _) =>
      if state.connected then { tally with failures := tally.failures + 1 } else tally
    | .retryFires _ _ => { tally with attempts := tally.attempts + 1 }
    | _ => tally

/-- The attempts that a pending timer can still lead to, its own included. -/
def Retry.left (config : WebSocketConfig) (retry : Retry) : Nat :=
  config.maxReconnectAttempts.toNat - retry.attempt

def attemptsLeft (config : WebSocketConfig) (state : State) : Nat :=
  (state.retries.map (Retry.left config)).sum

theorem attemptsLeft_attemptReconnect (attempt : Nat) (delay : Int) :
    attemptsLeft config (attemptReconnect config attempt delay state) ≤
      attemptsLeft config state + (config.maxReconnectAttempts.toNat - attempt) := by
  unfold attemptReconnect
  split
  · exact Nat.le_add_right _ _
  · split
    · exact Nat.le_add_right _ _
    · simp [attemptsLeft, Retry.left]

theorem attemptsLeft_withoutRetry {index : Nat} {retry : Retry}
    (pending : state.retries[index]? = some retry) :
    attemptsLeft config state =
      retry.left config + attemptsLeft config (state.withoutRetry index) := by
  obtain ⟨inside, rfl⟩ := List.getElem?_eq_some_iff.mp pending
  have rearranged := List.getElem_cons_eraseIdx_perm inside
  exact ((rearranged.map (Retry.left config)).sum_eq).symm

/-- The attempts made and those still to come are at most as many as the failures allow. -/
def WithinFailures (config : WebSocketConfig) (observed : State × Tally) : Prop :=
  observed.2.attempts + attemptsLeft config observed.1 ≤
    config.maxReconnectAttempts.toNat * observed.2.failures

/-- A failure that is handled allows all attempts of one chain. -/
theorem WithinFailures.failed {tally : Tally} {dropped : State} {delay : Int}
    (within : WithinFailures config (state, tally)) (same : dropped.retries = state.retries) :
    WithinFailures config (attemptReconnect config 0 delay dropped,
      { tally with failures := tally.failures + 1 }) := by
  have started : attemptsLeft config (attemptReconnect config 0 delay dropped) ≤ _ :=
    attemptsLeft_attemptReconnect 0 delay
  have unchanged : attemptsLeft config dropped = attemptsLeft config state := by
    rw [attemptsLeft, same, attemptsLeft]
  simp only [WithinFailures, Nat.mul_add, Nat.mul_one] at within ⊢
  omega

/-- An attempt uses up its timer, and a failed one starts at most the next. -/
theorem WithinFailures.attempted {tally : Tally} {index : Nat} {retry : Retry}
    (within : WithinFailures config (state, tally)) (timers : TimersOnBackoff config state)
    (pending : state.retries[index]? = some retry)
    (onward : attemptsLeft config after ≤ attemptsLeft config (state.withoutRetry index) +
      (config.maxReconnectAttempts.toNat - (retry.attempt + 1))) :
    WithinFailures config (after, { tally with attempts := tally.attempts + 1 }) := by
  obtain ⟨allowed, -⟩ := timers retry (List.mem_of_getElem? pending)
  have fewer : attemptsLeft config state = retry.left config + _ :=
    attemptsLeft_withoutRetry pending
  simp only [WithinFailures, Retry.left] at within fewer ⊢
  omega

theorem WithinFailures.quiet {tally noted : Tally} (within : WithinFailures config (state, tally))
    (same : after.retries = state.retries) (unchanged : noted = tally) :
    WithinFailures config (after, noted) := by
  simp only [WithinFailures, attemptsLeft, same, unchanged] at within ⊢
  exact within

/-- A ping that starts the next timer is no failure. -/
theorem noteFailure_pingRestarts {outcome : Except String Unit} (tally : Tally)
    (answered : state.connected = true → ∀ message, outcome ≠ .error message) :
    noteFailure state (.pingFires outcome) tally = tally := by
  unfold noteFailure
  split
  · rfl
  · cases outcome with
    | ok _ => rfl
    | error message => exact if_neg fun up => answered up message rfl

theorem WithinFailures.step {tally : Tally} (within : WithinFailures config (state, tally))
    (timers : TimersOnBackoff config state)
    (taken : (machine config).step state label = some after) :
    WithinFailures config (after, noteFailure state label tally) := by
  cases transition_of_step taken with
  | readStopped outstanding stopped => exact within.quiet rfl (if_pos stopped)
  | readFails outstanding running =>
    simp only [noteFailure, running]
    exact within.failed rfl
  | readDelivers outstanding running => exact within.quiet rfl (by simp [noteFailure])
  | pingStopped waiting stopped => exact within.quiet rfl (if_pos stopped)
  | pingFails waiting running up =>
    simp only [noteFailure, running, up]
    exact within.failed rfl
  | pingRestarts waiting running answered =>
    exact within.quiet rfl (noteFailure_pingRestarts tally answered)
  | pingAborted spare => exact within.quiet rfl (by simp [noteFailure])
  | retryStopped pending stopped =>
    have fewer : attemptsLeft config state = _ := attemptsLeft_withoutRetry pending
    simp only [noteFailure, stopped, if_true, WithinFailures] at within ⊢
    omega
  | reconnects pending running =>
    simp only [noteFailure, running]
    exact within.attempted timers pending (Nat.le_add_right _ _)
  | retryFails pending running =>
    simp only [noteFailure, running]
    exact within.attempted timers pending (attemptsLeft_attemptReconnect _ _)
  | disconnect => exact within.quiet rfl (by simp [noteFailure])

theorem reachable_withinFailures {observed : State × Tally}
    (reached : ((machine config).observe noteFailure).Reachable Machine.anyStep (initial, ⟨0, 0⟩)
      observed) : WithinFailures config observed := by
  induction reached with
  | start => exact Nat.le_refl 0
  | next earlier _ taken ih =>
    obtain ⟨moved, noted⟩ := Machine.observe_step taken
    rw [WithinFailures, noted]
    exact ih.step (reachable_timersOnBackoff earlier.unobserved) moved

/-- In every run, each failed read or ping that a running client handles leads to
`max_reconnect_attempts` attempts at most, however the chains of several failures overlap. -/
theorem attempts_within_failures {tally : Tally}
    (reached : ((machine config).observe noteFailure).Reachable Machine.anyStep (initial, ⟨0, 0⟩)
      (state, tally)) :
    tally.attempts ≤ config.maxReconnectAttempts.toNat * tally.failures :=
  (Nat.le_add_right _ _).trans (reachable_withinFailures reached)

/-- A connection is lost once, but its ping and its read both fail. At one attempt each they
lead to two attempts. -/
theorem attempts_within_failures_twice :
    ∃ observed : State × Tally,
      ((machine ⟨5, 1⟩).observe noteFailure).Reachable Machine.anyStep (initial, ⟨0, 0⟩) observed ∧
        observed.2 = ⟨2, 2⟩ ∧ observed.2.attempts ≤ Int.toNat 1 * observed.2.failures := by
  obtain ⟨observed, reached, counted⟩ : ∃ observed : State × Tally,
      ((machine ⟨5, 1⟩).observe noteFailure).Reachable Machine.anyStep (initial, ⟨0, 0⟩) observed ∧
        observed.2 = ⟨2, 2⟩ :=
    Machine.exists_reachable_of_run
      [.pingFires (.error "broken pipe"), .readCompletes 0 (.error "reset"),
        .retryFires 0 (.ok ()), .retryFires 0 (.error "refused")] (by decide)
  exact ⟨observed, reached, counted, attempts_within_failures reached⟩

end Bintrade.Ws.WebSocketClient
