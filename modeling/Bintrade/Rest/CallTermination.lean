import Bintrade.System.Progress
import Bintrade.Rest.Submission

/-! Every `execute` comes to an end. It has two attempts of at most five operations each,
and whatever it waits for it goes on from, with a result or an exception. -/

namespace Bintrade.Rest.HttpClient

open Bintrade.System Bintrade.Core

def Stage.left : Stage → Nat
  | .resolving => 5
  | .connecting => 4
  | .handshaking => 3

/-- The operations of the attempts that may follow. -/
def followingOperations (attempt : Nat) : Nat := if attempt = 0 then 5 else 0

/-- A bound on the steps that a call still has before it. -/
def Phase.left : Phase → Nat
  | .notStarted => 11
  | .connecting attempt _ _ _ stage => followingOperations attempt + stage.left
  | .writing attempt _ _ _ => followingOperations attempt + 2
  | .reading attempt _ _ _ => followingOperations attempt + 1
  | .returned _ | .failed _ => 0

def stepsLeft (task : Nat) (state : State) : Nat := (state.phase task).left

/-- The call has returned or thrown. -/
def Phase.ended : Phase → Bool
  | .returned _ | .failed _ => true
  | _ => false

variable {settings : Settings} {state after : State} {task attempt : Nat}

theorem Acquired.left_le (acquired : Acquired state task attempt after) :
    (after.phase task).left ≤ followingOperations attempt + 5 := by
  cases acquired <;>
    simp [startRequest, State.setPhase, State.setPool, Phase.left, Stage.left]

/-- A failed request leaves the second attempt at most. -/
theorem Caught.left_lt {wasPreconnected sni : Bool} {failure : Failure}
    (caught : Caught state task attempt wasPreconnected sni failure after)
    (within : attempt < maxAttempts) :
    (after.phase task).left < followingOperations attempt + 1 := by
  cases caught with
  | ended text final => simp [State.setPhase, Phase.left]
  | retried again more =>
    have first : attempt = 0 := by
      unfold maxAttempts at within more
      omega
    subst first
    -- No attempt follows the second one.
    exact Nat.lt_succ_of_le (acquired state task (0 + 1) sni).left_le

theorem requestFails_left_lt {conn : Option Nat} (within : attempt < maxAttempts) (poolSize : Nat)
    (wasPreconnected : Bool) (failure : Failure) (sni : Bool) :
    ((requestFails poolSize state task attempt conn wasPreconnected failure sni).phase task).left <
      followingOperations attempt + 1 :=
  (caught poolSize state task attempt conn wasPreconnected failure sni).left_lt within

/-- The attempt that a call is in, if it is in one. -/
def Phase.attempt? : Phase → Option Nat
  | .connecting attempt _ _ _ _ | .writing attempt _ _ _ | .reading attempt _ _ _ => some attempt
  | _ => none

theorem Phase.Log.attempt_lt {message : Message} {events : List Event} {phase : Phase}
    (log : phase.Log message events) (current : phase.attempt? = some attempt) :
    attempt < maxAttempts := by
  cases phase with
  | connecting | writing =>
    cases current
    exact Earlier.attempt_lt log
  | reading =>
    cases current
    obtain ⟨earlier, before, -⟩ := log
    exact before.attempt_lt
  | notStarted | returned | failed => cases current

theorem connectStep_left_lt {outcome : Except String Unit}
    (taken : (machine settings).step state (.connectStep task outcome) = some after) :
    (after.phase task).left < (state.phase task).left := by
  simp only [machine, step] at taken
  split at taken <;> cases taken
  · rename_i waiting
    simp only [waiting, connectFails, State.setPhase, Function.update_self, Phase.left]
    cases ‹Stage› <;> simp [Stage.left]
  · rename_i waiting
    simp [waiting, State.setPhase, Phase.left, Stage.left]
  · rename_i waiting
    simp [waiting, State.setPhase, Phase.left, Stage.left]
  · rename_i waiting
    simp [waiting, connectCompletes, startRequest, State.setPhase, Phase.left, Stage.left]

/-- Every step of a call leaves it fewer steps. -/
theorem left_lt_of_step {label : Label}
    (log : (state.phase label.task).Log (buildRequest settings (settings.request label.task))
      (state.history label.task))
    (taken : (machine settings).step state label = some after) :
    (after.phase label.task).left < (state.phase label.task).left := by
  cases label with
  | execute task sni =>
    cases transition_of_step taken with
    | execute fresh acquired =>
      have bounded := acquired.left_le
      simp only [Label.task, fresh, Phase.left, followingOperations, if_true] at bounded ⊢
      omega
  | connectStep task outcome => exact connectStep_left_lt taken
  | write task outcome sni =>
    simp only [Label.task] at log ⊢
    cases transition_of_step taken with
    | writeCompletes waiting => simp [waiting, State.setPhase, Phase.left]
    | writeFails waiting =>
      have within := log.attempt_lt (by rw [waiting]; rfl)
      rw [waiting]
      exact (requestFails_left_lt within _ _ _ _).trans (Nat.lt_succ_self _)
  | read task outcome sni =>
    simp only [Label.task] at log ⊢
    cases transition_of_step taken with
    | readCompletes waiting => simp [waiting, State.setPhase, Phase.left]
    | readFails waiting =>
      have within := log.attempt_lt (by rw [waiting]; rfl)
      rw [waiting]
      exact requestFails_left_lt within _ _ _ _

/-- A call that has not ended has a step to take. -/
theorem enabled_of_not_ended (running : (state.phase task).ended = false) :
    ∃ label, label.task = task ∧ ((machine settings).step state label).isSome := by
  cases place : state.phase task with
  | notStarted => exact ⟨.execute task true, rfl, by simp [machine, step, place]⟩
  | connecting attempt slot position created stage =>
    exact ⟨.connectStep task (.error ""), rfl, by simp [machine, step, place]⟩
  | writing attempt conn reserved wasPreconnected =>
    exact ⟨.write task (.ok ()) true, rfl, by simp [machine, step, place]⟩
  | reading attempt conn reserved wasPreconnected =>
    exact ⟨.read task (.error (.standard "")) true, rfl, by simp [machine, step, place]⟩
  | returned | failed =>
    rw [place] at running
    cases running

/-- In every interleaving of any number of calls and with any outcomes of their operations,
a call takes eleven steps at most, and until it has returned or thrown it has one to take. -/
theorem execute_terminates {count : Nat}
    (reached : ((machine settings).observe
      (Machine.countWhere fun _ label => label.task = task)).Reachable
        (Machine.unlogged Machine.anyStep) (initial, 0) (state, count)) :
    count + (state.phase task).left ≤ 11 ∧
      ((state.phase task).ended = false →
        ∃ label, label.task = task ∧ ((machine settings).step state label).isSome) := by
  have bounded : count + stepsLeft task state ≤ stepsLeft task initial := by
    apply reached.count_le
    intro before after label earlier _ taken
    unfold stepsLeft
    by_cases own : label.task = task
    · subst own
      simp only [decide_true, Bool.toNat_true]
      exact left_lt_of_step (reachable_log rfl rfl earlier) taken
    · obtain ⟨same, -⟩ := step_other taken (Ne.symm own)
      simp [own, same]
  exact ⟨bounded, enabled_of_not_ended⟩

/-- Both attempts of a call on two connections, each up to the failed read. -/
theorem execute_terminates_retried :
    ∃ observed : State × Nat,
      ((machine orderClient).observe
        (Machine.countWhere fun _ label => label.task = 1)).Reachable
          (Machine.unlogged Machine.anyStep) (initial, 0) observed ∧
      ((observed.1.phase 1).ended = true ∧ observed.2 = 11) ∧
      observed.2 + (observed.1.phase 1).left ≤ 11 := by
  have retried : ∃ observed : State × Nat,
      ((machine orderClient).observe
        (Machine.countWhere fun _ label => label.task = 1)).Reachable
          (Machine.unlogged Machine.anyStep) (initial, 0) observed ∧
      ((observed.1.phase 1).ended = true ∧ observed.2 = 11) :=
    Machine.exists_reachable_of_run
      ([.execute 0 true] ++ connect 0 ++ [.execute 1 true] ++ connect 1 ++
        [.write 1 (.ok ()) true, .read 1 (.error (.system "reset")) true] ++ connect 1 ++
        [.write 1 (.ok ()) true, .read 1 (.error (.system "reset")) true]) (by decide)
  obtain ⟨observed, reached, ended⟩ := retried
  exact ⟨observed, reached, ended, (execute_terminates reached).1⟩

end Bintrade.Rest.HttpClient
