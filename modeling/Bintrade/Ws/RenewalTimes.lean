import Bintrade.Ws.KeepAlive

/-! When the keep-alive thread renews the listen key. The thread computes each deadline
from the clock it reads after the last renewal, so the delays of its rounds do not add up:
two calls of `keep_alive()` are 25 minutes apart and the delays of one round. -/

namespace Bintrade.Ws.KeepAlive

open Bintrade.System Bintrade.Core Bintrade.Rest

/-- Everything one step can do. -/
inductive Transition (state : State) : Label → State → Prop where
  | lock (locking : state.thread = .locking) :
      Transition state .lock { state with thread := .checking }
  | leave (checking : state.thread = .checking) (told : state.stopKeepAlive = true) :
      Transition state .check { state with thread := .finished }
  | wait (checking : state.thread = .checking) (looping : state.stopKeepAlive = false) :
      Transition state .check { state with thread := .waiting (state.now + interval) }
  | notified {wakeup : Nat} (waiting : state.thread = .waiting wakeup)
      (told : state.stopKeepAlive = true) :
      Transition state .wake { state with thread := .checking }
  | timedOut {wakeup : Nat} (waiting : state.thread = .waiting wakeup)
      (late : wakeup ≤ state.now) : Transition state .wake { state with thread := .renewing }
  | spurious {wakeup : Nat} (waiting : state.thread = .waiting wakeup) :
      Transition state .wake state
  | renewed {services : Services} (renewing : state.thread = .renewing) :
      Transition state (.renew services) { state with thread := .locking }
  | renewalFailed {services : Services} {error : Exception} (renewing : state.thread = .renewing) :
      Transition state (.renew services) { state with thread := .terminated error }
  | tick (elapsed : Nat) (running : ∀ error, state.thread ≠ .terminated error) :
      Transition state (.tick elapsed) { state with now := state.now + elapsed }
  | signalStop (unlocked : state.thread ≠ .checking) :
      Transition state .signalStop { state with stopKeepAlive := true }

theorem transition_of_step {state after : State} {label : Label}
    (taken : machine.step state label = some after) : Transition state label after := by
  cases label with
  | lock =>
    simp only [machine, step] at taken
    split at taken <;> cases taken
    exact .lock ‹_›
  | check =>
    simp only [machine, step] at taken
    split at taken
    · split at taken <;> cases taken
      · exact .leave ‹_› ‹_›
      · rename_i looping
        exact .wait ‹_› (Bool.eq_false_iff.mpr looping)
    · cases taken
  | wake =>
    simp only [machine, step] at taken
    split at taken
    · split at taken
      · cases taken
        exact .notified ‹_› ‹_›
      · split at taken <;> cases taken
        · exact .timedOut ‹_› ‹_›
        · exact .spurious ‹_›
    · cases taken
  | renew services =>
    obtain ⟨renewing, ⟨-, rfl⟩ | ⟨error, -, rfl⟩⟩ := step_renew taken
    · exact .renewed renewing
    · exact .renewalFailed renewing
  | tick elapsed =>
    have running := not_terminated_of_step taken
    simp only [machine, step] at taken
    cases taken
    exact .tick elapsed running
  | signalStop =>
    simp only [machine, step] at taken
    split at taken <;> cases taken
    exact .signalStop ‹_›

/-- When the thread came to where it stands, and when it called `keep_alive()`. -/
structure Times where
  since : Nat
  renewals : List Nat

def noteTimes (state : State) (label : Label) (times : Times) : Times :=
  match label with
  | .lock | .check | .wake => { times with since := state.now }
  | .renew _ => ⟨state.now, times.renewals ++ [state.now]⟩
  | .tick _ | .signalStop => times

/-- The last call of `keep_alive()`, or the start of the thread. -/
def lastCall (start : Nat) (renewals : List Nat) : Nat := renewals.getLast?.getD start

/-- Until when the thread goes on from where it stands, if each wait for the mutex, each
look at the flag, each wake-up after its deadline and each request takes `slack` at most. -/
def dueBy (slack : Nat) (state : State) (times : Times) : Option Nat :=
  match state.thread with
  | .locking | .checking | .renewing => some (times.since + slack)
  | .waiting wakeup => some (wakeup + slack)
  | .finished | .terminated _ => none

def inTime (slack : Nat) (observed : State × Times) : Label → Bool
  | .tick elapsed =>
    (dueBy slack observed.1 observed.2).all fun due => observed.1.now + elapsed ≤ due
  | _ => true

/-- Runs without a longer delay. -/
def Prompt (slack : Nat) (observed : State × Times) (label : Label) : Prop :=
  inTime slack observed label = true

instance (slack : Nat) (observed : State × Times) (label : Label) :
    Decidable (Prompt slack observed label) :=
  inferInstanceAs (Decidable (_ = true))

/-- How far two consecutive calls of `keep_alive()` are apart. -/
def Spaced (slack earlier later : Nat) : Prop :=
  earlier + interval ≤ later ∧ later ≤ earlier + interval + 4 * slack

/-- Where the clock can be, by the place of the thread. -/
def Thread.OnTime (slack last since now : Nat) (told : Bool) : Thread → Prop
  | .locking => since = last ∧ last ≤ now ∧ now ≤ since + slack
  | .checking => last ≤ now ∧ now ≤ since + slack ∧ since ≤ last + interval + 3 * slack ∧
      (told = false → since ≤ last + slack)
  | .waiting wakeup => last + interval ≤ wakeup ∧ wakeup ≤ last + interval + 2 * slack ∧
      last ≤ now ∧ now ≤ wakeup + slack
  | .renewing => last + interval ≤ now ∧ now ≤ since + slack ∧
      since ≤ last + interval + 3 * slack
  | .finished => True
  | .terminated _ => now = last

structure Scheduled (slack start : Nat) (observed : State × Times) : Prop where
  spaced : (start :: observed.2.renewals).IsChain (Spaced slack)
  onTime : observed.1.thread.OnTime slack (lastCall start observed.2.renewals) observed.2.since
    observed.1.now observed.1.stopKeepAlive

section Schedule

variable {slack start : Nat} {state next : State} {times later : Times} {label : Label}

theorem Scheduled.initial (slack : Nat) (listenKey : String) (start : Nat) :
    Scheduled slack start (initial listenKey start, ⟨start, []⟩) where
  spaced := List.IsChain.singleton start
  onTime := by simp [Thread.OnTime, KeepAlive.initial, lastCall]

/-- The chain is extended by a call that keeps its distance from the last one. -/
theorem isChain_append_call {renewals : List Nat} {now : Nat}
    (spaced : (start :: renewals).IsChain (Spaced slack))
    (distance : Spaced slack (lastCall start renewals) now) :
    (start :: (renewals ++ [now])).IsChain (Spaced slack) := by
  induction renewals generalizing start with
  | nil => simpa [lastCall] using distance
  | cons first rest ih =>
    obtain ⟨apart, remaining⟩ := List.isChain_cons_cons.mp spaced
    refine List.isChain_cons_cons.mpr ⟨apart, ih remaining ?_⟩
    simpa [lastCall, List.getLast?_cons] using distance

/-- Time passes only up to where the thread goes on. -/
theorem now_le_of_prompt {elapsed due : Nat} (allowed : Prompt slack (state, times) (.tick elapsed))
    (place : dueBy slack state times = some due) : state.now + elapsed ≤ due := by
  simpa [Prompt, inTime, place] using allowed

theorem onTime_tick {elapsed : Nat} (running : ∀ error, state.thread ≠ .terminated error)
    (allowed : Prompt slack (state, times) (.tick elapsed))
    (onTime : state.thread.OnTime slack (lastCall start times.renewals) times.since state.now
      state.stopKeepAlive) :
    state.thread.OnTime slack (lastCall start times.renewals) times.since (state.now + elapsed)
      state.stopKeepAlive := by
  cases place : state.thread with
  | checking =>
    have bounded := now_le_of_prompt allowed (by rw [dueBy, place])
    rw [place] at onTime
    obtain ⟨after, -, reached, looping⟩ := onTime
    exact ⟨by omega, bounded, reached, looping⟩
  | locking | waiting wakeup | renewing =>
    have bounded := now_le_of_prompt allowed (by rw [dueBy, place])
    simp only [place, Thread.OnTime] at onTime ⊢
    omega
  | finished => trivial
  | terminated error => exact absurd place (running error)

theorem onTime_signalStop (unlocked : state.thread ≠ .checking)
    (onTime : state.thread.OnTime slack (lastCall start times.renewals) times.since state.now
      state.stopKeepAlive) :
    state.thread.OnTime slack (lastCall start times.renewals) times.since state.now true := by
  cases place : state.thread with
  | checking => exact absurd place unlocked
  | _ =>
    rw [place] at onTime
    exact onTime

theorem Scheduled.step (scheduled : Scheduled slack start (state, times))
    (allowed : Prompt slack (state, times) label)
    (taken : (machine.observe noteTimes).step (state, times) label = some (next, later)) :
    Scheduled slack start (next, later) := by
  obtain ⟨moved, noted⟩ := Machine.observe_step taken
  obtain ⟨spaced, onTime⟩ := scheduled
  dsimp only at moved noted spaced onTime
  subst noted
  cases transition_of_step moved with
  | lock locking =>
    refine ⟨spaced, ?_⟩
    simp only [locking, Thread.OnTime, noteTimes] at onTime ⊢
    omega
  | leave checking told => exact ⟨spaced, trivial⟩
  | wait checking looping =>
    refine ⟨spaced, ?_⟩
    simp only [checking, looping, Thread.OnTime, noteTimes] at onTime ⊢
    obtain ⟨after, passed, -, recent⟩ := onTime
    have recent := recent trivial
    omega
  | notified waiting told =>
    refine ⟨spaced, ?_⟩
    simp only [waiting, told, Thread.OnTime, noteTimes] at onTime ⊢
    exact ⟨by omega, by omega, by omega, nofun⟩
  | timedOut waiting late =>
    refine ⟨spaced, ?_⟩
    simp only [waiting, Thread.OnTime, noteTimes] at onTime ⊢
    omega
  | spurious waiting =>
    refine ⟨spaced, ?_⟩
    simp only [waiting, Thread.OnTime, noteTimes] at onTime ⊢
    omega
  | renewed renewing | renewalFailed renewing =>
    simp only [renewing, Thread.OnTime] at onTime
    refine ⟨isChain_append_call spaced ⟨onTime.1, by omega⟩, ?_⟩
    simp [Thread.OnTime, noteTimes, lastCall]
  | tick elapsed running => exact ⟨spaced, onTime_tick running allowed onTime⟩
  | signalStop unlocked =>
    have still := onTime_signalStop unlocked onTime
    exact ⟨spaced, still⟩

theorem Scheduled.reachable {listenKey : String} {observed : State × Times}
    (reached : (machine.observe noteTimes).Reachable (Prompt slack)
      (KeepAlive.initial listenKey start, ⟨start, []⟩) observed) :
    Scheduled slack start observed :=
  reached.invariant (.initial slack listenKey start) Scheduled.step

theorem Scheduled.now_le (scheduled : Scheduled slack start (state, times))
    (running : state.thread ≠ .finished) :
    state.now ≤ lastCall start times.renewals + interval + 4 * slack := by
  have onTime := scheduled.onTime
  dsimp only at onTime
  cases place : state.thread with
  | finished => exact absurd place running
  | _ =>
    simp only [place, Thread.OnTime] at onTime
    omega

end Schedule

/-- In every run of the keep-alive thread beside `stop()` in which no single delay of the
thread is longer than `slack`, two consecutive calls of `keep_alive()` are at least 25 minutes
apart and at most four delays more, and so is the present from the last call as long as the
thread runs. -/
theorem renewals_on_schedule {slack start : Nat} {listenKey : String} {observed : State × Times}
    (reached : (machine.observe noteTimes).Reachable (Prompt slack)
      (initial listenKey start, ⟨start, []⟩) observed) :
    (start :: observed.2.renewals).IsChain (Spaced slack) ∧
      (observed.1.thread ≠ .finished →
        observed.1.now ≤ lastCall start observed.2.renewals + interval + 4 * slack) := by
  have scheduled := Scheduled.reachable reached
  exact ⟨scheduled.spaced, scheduled.now_le⟩

/-- A round of the loop with a delay of one second at each place of it. -/
def slowRound : List Label :=
  [.tick 1000, .lock, .tick 1000, .check, .tick (interval + 1000), .wake, .tick 1000,
    .renew (answering (.ok ⟨200, "", .empty⟩))]

/-- Two such rounds: the distance of the calls is the largest one, and does not grow. -/
theorem renewals_on_schedule_delayed :
    ∃ observed : State × Times,
      (machine.observe noteTimes).Reachable (Prompt 1000) (initial "key" 0, ⟨0, []⟩) observed ∧
      observed.2.renewals = [interval + 4000, 2 * (interval + 4000)] ∧
      (0 :: observed.2.renewals).IsChain (Spaced 1000) := by
  have delayed : ∃ observed : State × Times,
      (machine.observe noteTimes).Reachable (Prompt 1000) (initial "key" 0, ⟨0, []⟩) observed ∧
      observed.2.renewals = [interval + 4000, 2 * (interval + 4000)] :=
    Machine.exists_reachable_of_run (slowRound ++ slowRound) (by decide)
  obtain ⟨observed, reached, calls⟩ := delayed
  exact ⟨observed, reached, calls, (renewals_on_schedule reached).1⟩

end Bintrade.Ws.KeepAlive
