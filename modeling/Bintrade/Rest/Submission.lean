import Bintrade.Rest.HttpClient

/-! How often one `execute` writes its request. -/

namespace Bintrade.Rest.HttpClient

open Bintrade.System Bintrade.Core

/-- The call that takes the step. -/
def Label.task : Label → Nat
  | .execute task _ => task
  | .connectStep task _ => task
  | .write task _ _ => task
  | .read task _ _ => task

/-- An attempt that failed with a given exception, before or after the request was
written. -/
inductive FailedAttempt (message : Message) (failure : Failure) : List Event → Prop where
  | unwritten : FailedAttempt message failure [.broke failure]
  | written (conn : Option Nat) :
      FailedAttempt message failure [.wrote conn message, .broke failure]

/-- What one attempt may have done so far. -/
inductive Attempt (message : Message) : List Event → Prop where
  | started : Attempt message []
  | wrote (conn : Option Nat) : Attempt message [.wrote conn message]
  | answered (conn : Option Nat) : Attempt message [.wrote conn message, .received]
  | failed {failure : Failure} {events : List Event}
      (ended : FailedAttempt message failure events) : Attempt message events

/-- What happened before an attempt: nothing before the first, and before the second
one attempt that failed with a transport error. -/
def Earlier (message : Message) : Nat → List Event → Prop
  | 0, events => events = []
  | 1, events => ∃ text, FailedAttempt message (.system text) events
  | _, _ => False

def Event.isWrite : Event → Bool
  | .wrote _ _ => true
  | _ => false

/-- The events of a call, told apart by its phase. -/
def Phase.Log (message : Message) (events : List Event) : Phase → Prop
  | .notStarted => events = []
  | .connecting attempt _ _ _ _ => Earlier message attempt events
  | .writing attempt _ _ _ => Earlier message attempt events
  | .reading attempt conn _ _ =>
    ∃ earlier, Earlier message attempt earlier ∧ events = earlier ++ [.wrote conn message]
  | .returned _ => ∃ attempt earlier last, Earlier message attempt earlier ∧
      Attempt message last ∧ events = earlier ++ last
  | .failed _ => ∃ attempt earlier last, Earlier message attempt earlier ∧
      Attempt message last ∧ events = earlier ++ last

section Log

variable {settings : Settings} {state after : State} {task attempt : Nat} {message : Message}

theorem Earlier.attempt_lt {events : List Event} (earlier : Earlier message attempt events) :
    attempt < maxAttempts := by
  rcases attempt with _ | _ | attempt
  · decide
  · decide
  · exact earlier.elim

theorem Acquired.history (acquired : Acquired state task attempt after) :
    after.history = state.history := by
  cases acquired <;> rfl

theorem Acquired.phase_of_ne {other : Nat} (acquired : Acquired state task attempt after)
    (different : other ≠ task) : after.phase other = state.phase other := by
  cases acquired <;> exact Function.update_of_ne different _ _

/-- The call that acquires a connection is in the same attempt, or has failed. -/
theorem Acquired.log (acquired : Acquired state task attempt after)
    (earlier : Earlier message attempt (state.history task)) :
    (after.phase task).Log message (after.history task) := by
  have ended (error : Exception) :
      (Phase.failed error).Log message (state.history task) :=
    ⟨attempt, state.history task, [], earlier, .started, by simp⟩
  rw [acquired.history]
  cases acquired with
  | reused | reconnecting | created =>
    simp only [startRequest, State.setPhase, Function.update_self]
    exact earlier
  | abandoned found idle dead error | discarded error =>
    simp only [State.setPhase, Function.update_self]
    exact ended error

/-- A failed request ends the call, unless a transport error ends the first attempt. -/
theorem Caught.log {wasPreconnected sni : Bool} {failure : Failure} {earlier last : List Event}
    (caught : Caught state task attempt wasPreconnected sni failure after)
    (before : Earlier message attempt earlier) (failed : FailedAttempt message failure last)
    (events : state.history task = earlier ++ last) :
    (after.phase task).Log message (after.history task) := by
  cases caught with
  | ended text final =>
    simp only [State.setPhase, Function.update_self]
    exact ⟨attempt, earlier, last, before, .failed failed, events⟩
  | @retried text again more =>
    have first : attempt = 0 := by
      have within := before.attempt_lt
      unfold maxAttempts at within more
      omega
    subst first
    have nothing : earlier = [] := before
    apply (acquired state task (0 + 1) sni).log
    rw [events, nothing]
    exact ⟨text, failed⟩

theorem requestFails_log {earlier pending : List Event} {conn : Option Nat}
    (before : Earlier message attempt earlier) (events : state.history task = earlier ++ pending)
    {failure : Failure} (failed : FailedAttempt message failure (pending ++ [.broke failure]))
    (poolSize : Nat) (wasPreconnected sni : Bool) :
    ((requestFails poolSize state task attempt conn wasPreconnected failure sni).phase task).Log
      message
      ((requestFails poolSize state task attempt conn wasPreconnected failure sni).history
        task) := by
  apply (caught poolSize state task attempt conn wasPreconnected failure sni).log before failed
  simp [State.record, State.setPool, events]

theorem Caught.of_ne {wasPreconnected sni : Bool} {failure : Failure} {other : Nat}
    (caught : Caught state task attempt wasPreconnected sni failure after)
    (different : other ≠ task) :
    after.phase other = state.phase other ∧ after.history other = state.history other := by
  cases caught with
  | ended text final => exact ⟨Function.update_of_ne different _ _, rfl⟩
  | retried again more =>
    have retried := acquired state task (attempt + 1) sni
    exact ⟨retried.phase_of_ne different, congrFun retried.history other⟩

theorem requestFails_other {other : Nat} (different : other ≠ task) (poolSize : Nat)
    (conn : Option Nat) (wasPreconnected : Bool) (failure : Failure) (sni : Bool) :
    (requestFails poolSize state task attempt conn wasPreconnected failure sni).phase other =
        state.phase other ∧
      (requestFails poolSize state task attempt conn wasPreconnected failure sni).history other =
        state.history other := by
  obtain ⟨phase, history⟩ :=
    (caught poolSize state task attempt conn wasPreconnected failure sni).of_ne different
  rw [phase, history]
  exact ⟨rfl, Function.update_of_ne different _ _⟩

/-- A step of one call leaves the others where they are. -/
theorem step_other {label : Label} {other : Nat}
    (taken : (machine settings).step state label = some after) (different : other ≠ label.task) :
    after.phase other = state.phase other ∧ after.history other = state.history other := by
  cases transition_of_step taken with
  | execute fresh acquired =>
    exact ⟨acquired.phase_of_ne different, congrFun acquired.history other⟩
  | connectFails | connectAdvances | connectCompletes =>
    exact ⟨Function.update_of_ne different _ _, rfl⟩
  | writeCompletes | readCompletes =>
    exact ⟨Function.update_of_ne different _ _, Function.update_of_ne different _ _⟩
  | writeFails | readFails => exact requestFails_other different _ _ _ _ _

theorem log_step {label : Label} {task : Nat}
    (log : (state.phase task).Log (buildRequest settings (settings.request task))
      (state.history task))
    (taken : (machine settings).step state label = some after) :
    (after.phase task).Log (buildRequest settings (settings.request task))
      (after.history task) := by
  by_cases own : task = label.task
  · cases transition_of_step taken with
    | @execute actor sni after fresh acquired =>
      obtain rfl : task = actor := own
      rw [fresh] at log
      exact acquired.log log
    | @connectFails actor attempt slot position created stage message waiting =>
      obtain rfl : task = actor := own
      rw [waiting] at log
      simp only [connectFails, State.setPhase, State.setPool, Function.update_self]
      exact ⟨_, _, [], log, .started, by simp⟩
    | @connectAdvances actor attempt slot position created stage later waiting =>
      obtain rfl : task = actor := own
      rw [waiting] at log
      simp only [State.setPhase, Function.update_self]
      exact log
    | @connectCompletes actor attempt slot position created waiting =>
      obtain rfl : task = actor := own
      rw [waiting] at log
      simp only [connectCompletes, startRequest, State.setPhase, State.setPool,
        Function.update_self]
      exact log
    | @writeCompletes actor attempt conn reserved wasPreconnected sni waiting =>
      obtain rfl : task = actor := own
      rw [waiting] at log
      simp only [State.setPhase, State.record, Function.update_self]
      exact ⟨_, log, rfl⟩
    | @writeFails actor attempt conn reserved wasPreconnected sni failure waiting =>
      obtain rfl : task = actor := own
      rw [waiting] at log
      exact requestFails_log log (List.append_nil _).symm .unwritten _ _ _
    | @readCompletes actor attempt conn reserved wasPreconnected sni raw waiting =>
      obtain rfl : task = actor := own
      rw [waiting] at log
      obtain ⟨earlier, before, events⟩ := log
      simp only [State.setPhase, State.record, State.setPool, Function.update_self]
      exact ⟨_, earlier, _, before, .answered conn, by rw [events]; simp⟩
    | @readFails actor attempt conn reserved wasPreconnected sni failure waiting =>
      obtain rfl : task = actor := own
      rw [waiting] at log
      obtain ⟨earlier, before, events⟩ := log
      exact requestFails_log before events (.written _) _ _ _
  · obtain ⟨phase, events⟩ := step_other taken own
    rw [phase, events]
    exact log

end Log

/-- Every phase shows at most two attempts, the first of which, if there are two,
failed with a transport error. -/
theorem Phase.Log.attempts {message : Message} {events : List Event} {phase : Phase}
    (log : phase.Log message events) :
    ∃ attempt earlier last, Earlier message attempt earlier ∧ Attempt message last ∧
      events = earlier ++ last := by
  cases phase with
  | notStarted => exact ⟨0, [], [], rfl, .started, log⟩
  | connecting attempt slot position created stage =>
    exact ⟨attempt, events, [], log, .started, by simp⟩
  | writing attempt conn reserved wasPreconnected =>
    exact ⟨attempt, events, [], log, .started, by simp⟩
  | reading attempt conn reserved wasPreconnected =>
    obtain ⟨earlier, before, same⟩ := log
    exact ⟨attempt, earlier, _, before, .wrote conn, same⟩
  | returned response => exact log
  | failed error => exact log

theorem Attempt.writes {message : Message} {events : List Event}
    (attempt : Attempt message events) : events.countP Event.isWrite ≤ 1 := by
  cases attempt with
  | started | wrote | answered => simp [List.countP_cons, Event.isWrite]
  | failed ended =>
    cases ended with
    | unwritten | written => simp [List.countP_cons, Event.isWrite]

theorem Earlier.writes {message : Message} {attempt : Nat} {events : List Event}
    (earlier : Earlier message attempt events) : events.countP Event.isWrite ≤ 1 := by
  match attempt, earlier with
  | 0, nothing =>
    have empty : events = [] := nothing
    simp [empty]
  | 1, ⟨text, failed⟩ => exact (Attempt.failed failed).writes

theorem reachable_log {settings : Settings} {start state : State} {task : Nat}
    (fresh : start.phase task = .notStarted) (quiet : start.history task = [])
    (reached : (machine settings).Reachable Machine.anyStep start state) :
    (state.phase task).Log (buildRequest settings (settings.request task))
      (state.history task) := by
  apply reached.invariant
  · rw [fresh, quiet]
    rfl
  · intro before after label log _ taken
    exact log_step log taken

/-- One `execute`, in whatever pool it starts: its request is written at most once in
an attempt, a second attempt follows only a transport error of the first, and nothing
follows a response. -/
theorem request_written_per_attempt {settings : Settings} {start state : State} {task : Nat}
    (fresh : start.phase task = .notStarted) (quiet : start.history task = [])
    (reached : (machine settings).Reachable Machine.anyStep start state) :
    (∃ attempt earlier last,
      Earlier (buildRequest settings (settings.request task)) attempt earlier ∧
      Attempt (buildRequest settings (settings.request task)) last ∧
        state.history task = earlier ++ last) ∧
      (state.history task).countP Event.isWrite ≤ 2 := by
  obtain ⟨attempt, earlier, last, before, now, events⟩ :=
    (reachable_log fresh quiet reached).attempts
  refine ⟨⟨attempt, earlier, last, before, now, events⟩, ?_⟩
  have earlierWrites := before.writes
  have lastWrites := now.writes
  rw [events, List.countP_append]
  omega

/-- Two calls connect, one after the other, and the first of them is answered on a connection
that stays open. -/
def warmUp : List Label :=
  [.execute 0 true] ++ connect 0 ++ [.execute 1 true] ++ connect 1 ++
    [.write 0 (.ok ()) true, .read 0 (.ok ⟨11, 200, [], ""⟩) true]

/-- A third order reuses the idle connection; its request is written, the connection
breaks before the response is read, and the request is written again. -/
theorem order_written_twice :
    ∃ state, (machine orderClient).Reachable Machine.anyStep initial state ∧
      ((orderClient.request 2).verb = .post ∧ (state.history 2).countP Event.isWrite = 2) :=
  Machine.exists_reachable_of_run
    (warmUp ++ [.execute 2 true, .write 2 (.ok ()) true,
      .read 2 (.error (.system "end of stream")) true] ++ connect 2 ++ [.write 2 (.ok ()) true])
    (by decide)

end Bintrade.Rest.HttpClient
