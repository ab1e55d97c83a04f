import Bintrade.Ws.Recovery
import Mathlib.Algebra.Ring.Int.Defs

/-! The schedule of a reconnect chain. The delay is doubled and capped from one attempt
to the next; the attempts are numbered, and the chain ends with the first that succeeds
or with a report that it gives up. -/

namespace Bintrade.Ws.WebSocketClient

open Bintrade.System Bintrade.Core

/-- A timer that fired, and how the attempt ended. -/
structure Fired where
  retry : Retry
  outcome : Except String Unit

/-- The attempts of a run, in order. -/
def noteAttempt (state : State) (label : Label) (attempts : List Fired) : List Fired :=
  match label with
  | .retryFires index outcome =>
    match state.retries[index]? with
    | some retry => attempts ++ [⟨retry, outcome⟩]
    | none => attempts
  | _ => attempts

/-- The seconds before an attempt: the interval, then its double, capped at a minute. -/
def backoff (interval : Int) (attempt : Nat) : Int :=
  if attempt = 0 then interval else min (interval * 2 ^ attempt) 60

/-- The steps of a client that is not told to stop, apart from those that start a chain. -/
def keepsChain (state : State) : Label → Bool
  | .readCompletes _ (.error _) => false
  | .pingFires (.error _) => !state.connected
  | .disconnect => false
  | _ => true

def chainOnly (observed : State × List Fired) (label : Label) : Prop :=
  keepsChain observed.1 label = true

instance (observed : State × List Fired) (label : Label) : Decidable (chainOnly observed label) :=
  inferInstanceAs (Decidable (_ = true))

/-- How often the client reported that it gives up. -/
def giveUps (state : State) : Nat := state.reports.count givingUp

/-- The first attempts of a chain, all of which failed. -/
def failures (interval : Int) (messages : List String) : List Fired :=
  messages.mapIdx fun attempt message => ⟨⟨attempt, backoff interval attempt⟩, .error message⟩

/-- Where a chain stands: the pending timers, the attempts so far, and how often it was
given up. -/
inductive Course (limit interval : Int) : List Retry → List Fired → Nat → Prop where
  | pending {messages : List String} (left : messages.length < limit) :
      Course limit interval [⟨messages.length, backoff interval messages.length⟩]
        (failures interval messages) 0
  | succeeded {messages : List String} (left : messages.length < limit) :
      Course limit interval []
        (failures interval messages ++
          [⟨⟨messages.length, backoff interval messages.length⟩, .ok ()⟩]) 0
  | gaveUp {messages : List String} (spent : messages.length = limit.toNat) :
      Course limit interval [] (failures interval messages) 1

section Schedule

variable {interval limit : Int}

theorem backoff_succ (attempt : Nat) :
    min (backoff interval attempt * 2) 60 = backoff interval (attempt + 1) := by
  have doubled : interval * 2 ^ (attempt + 1) = interval * 2 ^ attempt * 2 := by
    rw [pow_succ, mul_assoc]
  unfold backoff
  rw [if_neg (Nat.succ_ne_zero attempt), doubled]
  split
  · rename_i first
    rw [first, pow_zero, mul_one]
  · omega

theorem length_failures (messages : List String) :
    (failures interval messages).length = messages.length :=
  List.length_mapIdx

theorem failures_append (messages : List String) (message : String) :
    failures interval (messages ++ [message]) = failures interval messages ++
      [⟨⟨messages.length, backoff interval messages.length⟩, .error message⟩] :=
  List.mapIdx_concat

theorem Course.attempts {pending : List Retry} {attempts : List Fired} {count : Nat}
    (course : Course limit interval pending attempts count) {attempt : Nat} {fired : Fired}
    (made : attempts[attempt]? = some fired) :
    fired.retry = ⟨attempt, backoff interval attempt⟩ := by
  have earlier {messages : List String}
      (found : (failures interval messages)[attempt]? = some fired) :
      fired.retry = ⟨attempt, backoff interval attempt⟩ := by
    rw [failures, List.getElem?_mapIdx] at found
    obtain ⟨message, -, rfl⟩ := Option.map_eq_some_iff.mp found
    rfl
  cases course with
  | pending left => exact earlier made
  | gaveUp spent => exact earlier made
  | @succeeded messages left =>
    by_cases before : attempt < (failures interval messages).length
    · rw [List.getElem?_append_left before] at made
      exact earlier made
    · rw [List.getElem?_append_right (by omega)] at made
      obtain ⟨last, rfl⟩ := List.getElem?_eq_some_iff.mp made
      have same : attempt = messages.length := by
        rw [length_failures] at last before
        simp at last
        omega
      subst same
      simp [length_failures]

end Schedule

/-- A running client whose chain is on its course since its reports numbered `base`. -/
structure OnCourse (config : WebSocketConfig) (interval : Int) (base : Nat)
    (observed : State × List Fired) : Prop where
  running : observed.1.shouldStop = false
  course : ∃ count,
    Course config.maxReconnectAttempts interval observed.1.retries observed.2 count ∧
      giveUps observed.1 = base + count

section Steps

variable {config : WebSocketConfig} {interval : Int} {state : State} {messages : List String}

theorem giveUps_report {message : String} (other : message ≠ givingUp) :
    giveUps (state.report message) = giveUps state := by
  simp [giveUps, State.report, other]

/-- `attempt_reconnect` starts the next timer or gives up. -/
theorem onCourse_attemptReconnect (running : state.shouldStop = false) (none : state.retries = [])
    (within : messages.length ≤ config.maxReconnectAttempts.toNat) :
    OnCourse config interval (giveUps state)
      (attemptReconnect config messages.length (backoff interval messages.length) state,
        failures interval messages) := by
  unfold attemptReconnect
  rw [if_neg (Bool.eq_false_iff.mp running)]
  split
  · rename_i exhausted
    refine ⟨running, 1, ?_, ?_⟩
    · change Course _ _ state.retries _ 1
      rw [none]
      exact .gaveUp (by omega)
    · simp [giveUps, State.report, givingUp]
  · rename_i left
    refine ⟨running, 0, ?_, rfl⟩
    rw [none]
    exact .pending (by omega)

theorem reconnecting_ne_givingUp (attempt : Nat) :
    "Reconnecting (attempt " ++ toString attempt ++ ")..." ≠ givingUp := by
  intro same
  have letters := congrArg String.toList same
  simp [givingUp] at letters

theorem failed_ne_givingUp (message : String) :
    "Reconnect attempt failed: " ++ message ≠ givingUp := by
  intro same
  have letters := congrArg String.toList same
  simp [givingUp] at letters

/-- An attempt ends the chain or takes it to its next timer. -/
theorem onCourse_handleRetry (running : state.shouldStop = false) (none : state.retries = [])
    (left : messages.length < config.maxReconnectAttempts) (outcome : Except String Unit) :
    OnCourse config interval (giveUps state)
      (handleRetry config ⟨messages.length, backoff interval messages.length⟩ outcome state,
        failures interval messages ++
          [⟨⟨messages.length, backoff interval messages.length⟩, outcome⟩]) := by
  have announced : giveUps (replaceStream ⟨messages.length, backoff interval messages.length⟩
      state) = giveUps state :=
    giveUps_report (reconnecting_ne_givingUp _)
  unfold handleRetry
  rw [if_neg (Bool.eq_false_iff.mp running)]
  cases outcome with
  | ok _ =>
    refine ⟨?_, 0, ?_, ?_⟩
    · simp [doPingTimer, doRead, replaceStream, running]
    · simp only [doPingTimer, doRead, replaceStream, running, none]
      exact .succeeded left
    · simpa [giveUps, doPingTimer, doRead, replaceStream, running] using announced
  | error message =>
    have failed (dropped : State) (stillRunning : dropped.shouldStop = false)
        (stillNone : dropped.retries = []) :
        OnCourse config interval (giveUps dropped)
          (attemptReconnect config (messages ++ [message]).length
            (backoff interval (messages ++ [message]).length) dropped,
            failures interval (messages ++ [message])) :=
      onCourse_attemptReconnect stillRunning stillNone
        (by rw [List.length_append, List.length_singleton]; omega)
    rw [← announced, backoff_succ, ← failures_append,
      ← giveUps_report (failed_ne_givingUp message)]
    have next := failed ({ replaceStream ⟨messages.length, backoff interval messages.length⟩ state
      with connected := false }.report ("Reconnect attempt failed: " ++ message)) running none
    rw [List.length_append, List.length_singleton] at next
    exact next

/-- The only timer is that of the next attempt. -/
theorem OnCourse.retryFires {base index : Nat} {attempts : List Fired} {retry : Retry}
    (on : OnCourse config interval base (state, attempts))
    (found : state.retries[index]? = some retry) (outcome : Except String Unit) :
    OnCourse config interval base
      (handleRetry config retry outcome { state with retries := state.retries.eraseIdx index },
        attempts ++ [⟨retry, outcome⟩]) := by
  obtain ⟨count, course, counted⟩ := on.course
  simp only at course counted
  generalize pending : state.retries = retries at course found
  cases course with
  | @pending messages left =>
    obtain ⟨first, rfl⟩ := List.getElem?_eq_some_iff.mp found
    obtain rfl : index = 0 := by simpa using first
    have fired (rest : State) (stillRunning : rest.shouldStop = false)
        (none : rest.retries = []) :
        OnCourse config interval (giveUps rest)
          (handleRetry config ⟨messages.length, backoff interval messages.length⟩ outcome rest,
            failures interval messages ++
              [⟨⟨messages.length, backoff interval messages.length⟩, outcome⟩]) :=
      onCourse_handleRetry stillRunning none left outcome
    have same : giveUps state = base := counted
    rw [← same]
    exact fired { state with retries := [] } on.running rfl
  | succeeded left => cases found
  | gaveUp spent => cases found

end Steps

theorem OnCourse.step {config : WebSocketConfig} {interval : Int} {base : Nat}
    {observed after : State × List Fired} {label : Label}
    (on : OnCourse config interval base observed) (allowed : chainOnly observed label)
    (taken : ((machine config).observe noteAttempt).step observed label = some after) :
    OnCourse config interval base after := by
  obtain ⟨moved, noted⟩ := Machine.observe_step taken
  obtain ⟨state, attempts⟩ := observed
  obtain ⟨next, later⟩ := after
  subst noted
  have running : ¬ state.shouldStop = true := Bool.eq_false_iff.mp on.running
  cases label with
  | readCompletes stream outcome =>
    simp only [machine, WebSocketClient.step] at moved
    split at moved
    · cases moved
      cases outcome with
      | error message => cases allowed
      | ok frame =>
        cases frame <;>
          simp only [handleRead, doRead, if_neg running] <;>
          exact ⟨on.running, on.course⟩
    · cases moved
  | pingFires outcome =>
    simp only [machine, WebSocketClient.step] at moved
    split at moved
    · cases moved
      simp only [handlePing, if_neg running]
      split
      · rename_i up
        cases outcome with
        | error message => simp [chainOnly, keepsChain, up] at allowed
        | ok _ => exact ⟨on.running, on.course⟩
      · exact ⟨on.running, on.course⟩
    · cases moved
  | pingAborted =>
    simp only [machine, WebSocketClient.step] at moved
    split at moved <;> cases moved
    exact ⟨on.running, on.course⟩
  | retryFires index outcome =>
    simp only [machine, WebSocketClient.step] at moved
    split at moved
    · rename_i retry found
      cases moved
      simp only [noteAttempt, found]
      exact on.retryFires found outcome
    · cases moved
  | disconnect => cases allowed

theorem backoff_bounds {interval : Int} (nonnegative : 0 ≤ interval)
    (representable : 1000 * interval < 2 ^ 63) (attempt : Nat) :
    0 ≤ backoff interval attempt ∧ 1000 * backoff interval attempt < 2 ^ 63 := by
  unfold backoff
  split
  · exact ⟨nonnegative, representable⟩
  · have doubled : 0 ≤ interval * 2 ^ attempt :=
      Int.mul_nonneg nonnegative (Int.pow_nonneg (by decide))
    omega

/-- What a chain of reconnects keeps to, with the attempts it has made so far. -/
structure Scheduled (limit interval : Int) (before : Nat) (state : State)
    (attempts : List Fired) : Prop where
  /-- Every attempt is made after its own wait, whose milliseconds are in range. -/
  waited : ∀ (attempt : Nat) (fired : Fired), attempts[attempt]? = some fired →
    fired.retry = ⟨attempt, backoff interval attempt⟩ ∧
      0 ≤ 1000 * fired.retry.delay ∧ 1000 * fired.retry.delay < 2 ^ 63
  /-- The first attempt that succeeds is the last, and nothing is given up. -/
  succeeded : ∀ (attempt : Nat) (fired : Fired), attempts[attempt]? = some fired →
    fired.outcome = .ok () →
    attempt < limit ∧ attempts.length = attempt + 1 ∧ state.retries = [] ∧ giveUps state = before
  /-- As long as none succeeded, the next one is pending, or all were made and the client
  gave up once. -/
  failed : (∀ fired ∈ attempts, fired.outcome ≠ .ok ()) →
    (attempts.length < limit ∧ giveUps state = before ∧
        state.retries = [⟨attempts.length, backoff interval attempts.length⟩]) ∨
      (attempts.length = max limit 0 ∧ giveUps state = before + 1 ∧ state.retries = [])

theorem failures_failed {interval : Int} {messages : List String} {fired : Fired}
    (made : fired ∈ failures interval messages) : fired.outcome ≠ .ok () := by
  obtain ⟨attempt, inside, rfl⟩ := List.mem_mapIdx.mp made
  intro impossible
  cases impossible

/-- The chain that `attempt_reconnect(0, interval)` starts where none is pending, with any
outcomes of its attempts, and whatever else happens that starts no other chain. -/
theorem backoff_schedule {config : WebSocketConfig} {interval : Int} {start state : State}
    {attempts : List Fired} (nonnegative : 0 ≤ interval) (representable : 1000 * interval < 2 ^ 63)
    (running : start.shouldStop = false) (unchained : start.retries = [])
    (reached : ((machine config).observe noteAttempt).Reachable chainOnly
      (attemptReconnect config 0 interval start, []) (state, attempts)) :
    Scheduled config.maxReconnectAttempts interval (giveUps start) state attempts := by
  have begun : OnCourse config interval (giveUps start)
      (attemptReconnect config 0 interval start, []) :=
    @onCourse_attemptReconnect config interval start [] running unchained (Nat.zero_le _)
  have on := reached.invariant begun OnCourse.step
  obtain ⟨count, course, counted⟩ := on.course
  simp only at course counted
  constructor
  · intro attempt fired made
    obtain ⟨low, high⟩ := backoff_bounds nonnegative representable attempt
    rw [course.attempts made]
    exact ⟨rfl, Int.mul_nonneg (by decide) low, high⟩
  · intro attempt fired made success
    generalize state.retries = pending at course ⊢
    cases course with
    | pending left => exact absurd success (failures_failed (List.mem_of_getElem? made))
    | gaveUp spent => exact absurd success (failures_failed (List.mem_of_getElem? made))
    | @succeeded messages left =>
      -- Only the last attempt is not one of the failures.
      have atEnd : attempt = messages.length := by
        by_cases before : attempt < (failures interval messages).length
        · rw [List.getElem?_append_left before] at made
          exact absurd success (failures_failed (List.mem_of_getElem? made))
        · obtain ⟨inside, -⟩ := List.getElem?_eq_some_iff.mp made
          rw [List.length_append, length_failures, List.length_singleton] at inside
          rw [length_failures] at before
          omega
      rw [List.length_append, length_failures, List.length_singleton, atEnd]
      exact ⟨left, rfl, rfl, counted⟩
  · intro noneSucceeded
    generalize state.retries = pending at course ⊢
    cases course with
    | pending left =>
      rw [length_failures]
      exact .inl ⟨left, counted, rfl⟩
    | gaveUp spent =>
      rw [length_failures]
      exact .inr ⟨by omega, counted, rfl⟩
    | succeeded left =>
      exact absurd rfl (noneSucceeded _ (List.mem_append_right _ List.mem_cons_self))

/-- Three attempts are allowed at an interval of forty seconds: the second waits a minute,
and its success ends the chain. -/
theorem backoff_schedule_recovers :
    ∃ (state : State) (attempts : List Fired),
      ((machine ⟨40, 3⟩).observe noteAttempt).Reachable chainOnly
          (attemptReconnect ⟨40, 3⟩ 0 40 initial, []) (state, attempts) ∧
        attempts.map Fired.retry = [⟨0, 40⟩, ⟨1, 60⟩] ∧
        Scheduled 3 40 (giveUps initial) state attempts := by
  obtain ⟨⟨state, attempts⟩, reached, waits⟩ : ∃ observed : State × List Fired,
      ((machine ⟨40, 3⟩).observe noteAttempt).Reachable chainOnly
          (attemptReconnect ⟨40, 3⟩ 0 40 initial, []) observed ∧
        observed.2.map Fired.retry = [⟨0, 40⟩, ⟨1, 60⟩] :=
    Machine.exists_reachable_of_run
      [.retryFires 0 (.error "Connection refused"), .retryFires 0 (.ok ())] (by decide)
  exact ⟨state, attempts, reached, waits,
    backoff_schedule (by decide) (by decide) rfl rfl reached⟩

end Bintrade.Ws.WebSocketClient
