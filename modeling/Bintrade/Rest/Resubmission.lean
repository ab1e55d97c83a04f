import Bintrade.Rest.Retry

/-! When a request is written a second time. By design this happens after a connection from
the pool turned out to be stale, and on a connection that the second attempt establishes. -/

namespace Bintrade.Rest.HttpClient

open Bintrade.System Bintrade.Core

/-- The attempt failed with one of the transport errors that `reset` tells to be a reset
connection or its end. -/
def failedBy (reset : String → Bool) : Option (Except Failure RawResponse) → Bool
  | some (.error (.system message)) => reset message
  | _ => false

/-- A second attempt follows a first one that ran on a reused connection and found it reset,
and runs on a connection of its own. -/
def resubmitsStale (reset : String → Bool) : List Trial → Bool
  | [] | [_] => true
  | [second, first] => first.found.isSome && failedBy reset first.outcome && second.onOwn
  | _ => false

/-- A transport error in the first attempt, if the pool is crowded so that it is retried, is a
reset of a reused connection and leaves no idle connection for the second attempt. -/
def designedFailure (reset : String → Bool) (settings : Settings) (pool : List Slot)
    (conn : Option Nat) : Failure → List Trial → Bool
  | .system message, [first] =>
    !first.crowded || (first.found.isSome && reset message &&
      ((releaseConnection settings.poolSize pool conn false).find? idleConnected).isNone)
  | _, _ => true

def designed (reset : String → Bool) (settings : Settings) (state : State) (trials : List Trial)
    (label : Label) : Bool :=
  match label, state.phase label.task with
  | .connectStep _ (.ok _), .connecting _ slot position _ .handshaking =>
    recognizesConnection state.pool slot position trials
  | .write _ (.error failure) _, .writing _ conn _ _ =>
    designedFailure reset settings state.pool conn failure trials
  | .read _ (.error failure) _, .reading _ conn _ _ =>
    designedFailure reset settings state.pool conn failure trials
  | _, _ => true

/-- The steps of a run in which a call is retried only where the design retries it. -/
def Designed (reset : String → Bool) (settings : Settings) (task : Nat)
    (observed : State × List Trial) (label : Label) : Prop :=
  label.task = task → designed reset settings observed.1 observed.2 label = true

instance (reset : String → Bool) (settings : Settings) (task : Nat)
    (observed : State × List Trial) (label : Label) :
    Decidable (Designed reset settings task observed label) :=
  inferInstanceAs (Decidable (_ → _))

theorem failedBy_cases {reset : String → Bool} {outcome : Option (Except Failure RawResponse)}
    (failed : failedBy reset outcome = true) :
    ∃ message, outcome = some (.error (.system message)) ∧ reset message = true := by
  rcases outcome with _ | (failure | raw)
  · cases failed
  · cases failure with
    | system message => exact ⟨message, rfl, failed⟩
    | standard _ => cases failed
  · cases failed

theorem resubmitsStale_cases {reset : String → Bool} {trials : List Trial}
    (stale : resubmitsStale reset trials = true) :
    trials.length ≤ 1 ∨ ∃ second first message, trials = [second, first] ∧
      first.found.isSome = true ∧ first.outcome = some (.error (.system message)) ∧
        reset message = true ∧ second.onOwn = true := by
  rcases trials with _ | ⟨second, _ | ⟨first, _ | _⟩⟩
  · exact .inl (Nat.zero_le 1)
  · exact .inl (Nat.le_refl 1)
  · simp only [resubmitsStale, Bool.and_eq_true] at stale
    obtain ⟨⟨found, failed⟩, own⟩ := stale
    obtain ⟨message, broke, reset⟩ := failedBy_cases failed
    exact .inr ⟨second, first, message, rfl, found, broke, reset, own⟩
  · cases stale

/-- The latest attempt has its write before it. -/
def Phase.unwritten : Phase → Nat
  | .connecting _ _ _ _ _ | .writing _ _ _ _ => 1
  | .notStarted | .reading _ _ _ _ | .returned _ | .failed _ => 0

/-- Each attempt writes at most once, and a second one is made by design only. -/
structure Submitted (reset : String → Bool) (task : Nat) (state : State) (trials : List Trial) :
    Prop where
  bounded : (state.history task).countP Event.isWrite + (state.phase task).unwritten ≤
    trials.length
  stale : resubmitsStale reset trials = true

section Steps

variable {reset : String → Bool} {settings : Settings} {state after : State}
  {task attempt : Nat} {label : Label} {trials earlier : List Trial} {latest : Trial}

theorem Phase.unwritten_le_one (phase : Phase) : phase.unwritten ≤ 1 := by
  cases phase <;> simp [unwritten]

theorem length_onLatest (change : Trial → Trial) (trials : List Trial) :
    (onLatest change trials).length = trials.length := by
  cases trials <;> rfl

/-- Ending the latest attempt does not change how it came about. -/
theorem resubmitsStale_finish (outcome : Except Failure RawResponse)
    (preceding : Preceding attempt earlier) :
    resubmitsStale reset (latest.finish outcome :: earlier) =
      resubmitsStale reset (latest :: earlier) := by
  rcases preceding.cases with ⟨-, rfl⟩ | ⟨-, first, failure, rfl, -⟩ <;> rfl

theorem Submitted.fails {conn : Option Nat} {wasPreconnected : Bool} {failure : Failure}
    (label : Label) (reserved : Nat)
    (submitted : Submitted reset label.task state (latest :: earlier))
    (held : (state.phase label.task).held? = some (conn, reserved))
    (fails : step settings state label.withSni = some
      (requestFails settings.poolSize state label.task attempt conn wasPreconnected failure true))
    (preceding : Preceding attempt earlier)
    (flag : wasPreconnected = (attempt = 0 && latest.crowded))
    (byDesign : designedFailure reset settings state.pool conn failure (latest :: earlier) = true)
    (sni : Bool) :
    Submitted reset label.task
      (requestFails settings.poolSize state label.task attempt conn wasPreconnected failure sni)
      (noteFailed settings state label failure (latest :: earlier)) := by
  have goesOn := retries_iff fails
  have ends := caught settings.poolSize state label.task attempt conn wasPreconnected failure sni
  have written := submitted.bounded
  rw [noteFailed_eq held]
  generalize requestFails settings.poolSize state label.task attempt conn wasPreconnected failure
    sni = after at ends ⊢
  cases ends with
  | ended message final =>
    rw [if_neg (fun again => not_again final (goesOn.mp again))]
    refine ⟨?_, (resubmitsStale_finish _ preceding).trans submitted.stale⟩
    simp only [State.setPhase, State.record, State.setPool, Function.update_self, Phase.unwritten,
      List.countP_append, List.countP_singleton, Event.isWrite, List.length_cons] at written ⊢
    simp only [Bool.false_eq_true, if_false]
    omega
  | @retried text again more =>
    rw [if_pos (goesOn.mpr ⟨⟨text, rfl⟩, again, more⟩)]
    rcases preceding.cases with ⟨rfl, rfl⟩ | ⟨rfl, -⟩
    · have crowded : latest.crowded = true := by
        rw [again] at flag
        simpa using flag.symm
      simp only [designedFailure, crowded, Bool.not_true, Bool.false_or, Bool.and_eq_true]
        at byDesign
      refine ⟨?_, ?_⟩
      · have pending := Phase.unwritten_le_one
          ((acquire ((state.setPool (releaseConnection settings.poolSize state.pool conn
            false)).record label.task (.broke (.system text))) label.task (0 + 1) sni).phase
              label.task)
        rw [(acquired _ label.task (0 + 1) sni).history]
        simp only [State.record, State.setPool, Function.update_self, List.countP_append,
          List.countP_singleton, Event.isWrite, List.length_cons, List.length_nil,
          Bool.false_eq_true, if_false] at written pending ⊢
        omega
      · simp only [resubmitsStale, Trial.onOwn_begin, Bool.and_eq_true]
        exact ⟨byDesign.1, byDesign.2⟩
    · exact absurd rfl more

/-- A step that neither writes nor starts an attempt. -/
theorem Submitted.unchanged (submitted : Submitted reset task state trials)
    (history : (after.history task).countP Event.isWrite ≤
      (state.history task).countP Event.isWrite)
    (phase : (after.phase task).unwritten ≤ (state.phase task).unwritten) :
    Submitted reset task after trials :=
  ⟨Nat.le_trans (Nat.add_le_add history phase) submitted.bounded, submitted.stale⟩

theorem Submitted.execute {sni : Bool} (submitted : Submitted reset task state trials)
    (tells : (state.phase task).Tells trials) (fresh : state.phase task = .notStarted)
    (acquired : Acquired state task 0 after) :
    Submitted reset task after
      (noteTrial settings task state (.execute task sni) trials) := by
  rw [fresh] at tells
  obtain rfl : trials = [] := tells
  have noted : noteTrial settings task state (.execute task sni) [] = [.begin state.pool] :=
    if_pos rfl
  have written := submitted.bounded
  have pending := Phase.unwritten_le_one (after.phase task)
  rw [noted]
  refine ⟨?_, rfl⟩
  rw [acquired.history]
  simp only [List.length_nil, List.length_singleton] at written ⊢
  omega

theorem Submitted.connects {slot position : Nat} {created : Bool}
    (submitted : Submitted reset task state trials) (tells : (state.phase task).Tells trials)
    (waiting : state.phase task = .connecting attempt slot position created .handshaking)
    (byDesign : designed reset settings state trials (.connectStep task (.ok ())) = true) :
    Submitted reset task (connectCompletes state task attempt slot position)
      (noteTrial settings task state (.connectStep task (.ok ())) trials) := by
  have there := getElem?_onSlot_id state.pool slot position
    (fun slot => { slot with connected := true }) fun _ => rfl
  have noted : noteTrial settings task state (.connectStep task (.ok ())) trials =
      onLatest (.connect slot (onSlot state.pool slot fun slot => { slot with connected := true })
        (state.pool[position]?.map Slot.id)) trials := by
    rw [← there]
    simp [noteTrial, waiting, Label.task]
  have written := submitted.bounded
  rw [waiting] at tells written
  simp only [designed, Label.task, waiting] at byDesign
  rw [noted]
  refine ⟨?_, ?_⟩
  · rw [length_onLatest]
    simp only [connectCompletes, startRequest, State.setPhase, State.setPool, Function.update_self]
    exact written
  · obtain ⟨latest, earlier, rfl, preceding, rfl⟩ := tells
    rcases preceding.cases with ⟨-, rfl⟩ | ⟨-, first, failure, rfl, -⟩
    · rfl
    · have before := submitted.stale
      simp only [resubmitsStale, Bool.and_eq_true] at before
      simp only [recognizesConnection, decide_eq_true_eq] at byDesign
      simp only [onLatest, resubmitsStale, before.1, Bool.and_self, Bool.true_and, Trial.connect,
        Trial.onOwn, byDesign]
      simp

theorem Submitted.connectStep {outcome : Except String Unit}
    (submitted : Submitted reset task state trials) (tells : (state.phase task).Tells trials)
    (byDesign : designed reset settings state trials (.connectStep task outcome) = true)
    (taken : (machine settings).step state (.connectStep task outcome) = some after) :
    Submitted reset task after
      (noteTrial settings task state (.connectStep task outcome) trials) := by
  cases located : state.phase task with
  | connecting attempt slot position created stage =>
    cases outcome with
    | error message =>
      simp only [machine, step, located] at taken
      cases taken
      have noted : noteTrial settings task state (.connectStep task (.error message)) trials =
          trials := if_pos rfl
      rw [noted]
      apply submitted.unchanged
      · exact Nat.le_refl _
      · simp [connectFails, State.setPhase, Phase.unwritten]
    | ok _ =>
      cases stage with
      | handshaking =>
        simp only [machine, step, located] at taken
        cases taken
        exact submitted.connects tells located byDesign
      | resolving | connecting =>
        simp only [machine, step, located] at taken
        cases taken
        have noted : noteTrial settings task state (.connectStep task (.ok ())) trials =
            trials := by
          simp [noteTrial, located, Label.task]
        rw [noted]
        apply submitted.unchanged
        · exact Nat.le_refl _
        · simp [State.setPhase, located, Phase.unwritten]
  | _ =>
    simp only [machine, step, located] at taken
    cases taken

theorem Submitted.write {outcome : Except Failure Unit} {sni : Bool}
    (submitted : Submitted reset task state trials) (tells : (state.phase task).Tells trials)
    (byDesign : designed reset settings state trials (.write task outcome sni) = true)
    (taken : (machine settings).step state (.write task outcome sni) = some after) :
    Submitted reset task after
      (noteTrial settings task state (.write task outcome sni) trials) := by
  cases transition_of_step taken with
  | writeCompletes waiting =>
    have noted : noteTrial settings task state (.write task (.ok ()) sni) trials = trials :=
      if_pos rfl
    have written := submitted.bounded
    rw [waiting] at written
    rw [noted]
    refine ⟨?_, submitted.stale⟩
    simp only [State.setPhase, State.record, Function.update_self, List.countP_append,
      List.countP_singleton, Event.isWrite, if_true, Phase.unwritten] at written ⊢
    omega
  | @writeFails _ attempt conn reserved wasPreconnected _ failure waiting =>
    rw [waiting] at tells
    obtain ⟨latest, earlier, rfl, preceding, running, flag⟩ := tells
    have noted : noteTrial settings task state (.write task (.error failure) sni)
        (latest :: earlier) = noteFailed settings state (.write task (.error failure) sni) failure
          (latest :: earlier) := if_pos rfl
    rw [noted]
    exact submitted.fails (.write task (.error failure) sni) reserved
      (by simp [Label.task, waiting, Phase.held?])
      (by simp [step, Label.withSni, Label.task, waiting]) preceding flag
      (by simpa [designed, Label.task, waiting] using byDesign) sni

theorem Submitted.read {outcome : Except Failure RawResponse} {sni : Bool}
    (submitted : Submitted reset task state trials) (tells : (state.phase task).Tells trials)
    (byDesign : designed reset settings state trials (.read task outcome sni) = true)
    (taken : (machine settings).step state (.read task outcome sni) = some after) :
    Submitted reset task after
      (noteTrial settings task state (.read task outcome sni) trials) := by
  cases transition_of_step taken with
  | @readCompletes _ attempt conn reserved wasPreconnected _ raw waiting =>
    rw [waiting] at tells
    obtain ⟨latest, earlier, rfl, preceding, running, -⟩ := tells
    have noted : noteTrial settings task state (.read task (.ok raw) sni) (latest :: earlier) =
        latest.finish (.ok raw) :: earlier := if_pos rfl
    have written := submitted.bounded
    rw [noted]
    refine ⟨?_, (resubmitsStale_finish _ preceding).trans submitted.stale⟩
    simp only [State.setPhase, State.record, State.setPool, Function.update_self,
      List.countP_append, List.countP_singleton, Event.isWrite, Phase.unwritten, List.length_cons,
      Bool.false_eq_true, if_false] at written ⊢
    omega
  | @readFails _ attempt conn reserved wasPreconnected _ failure waiting =>
    rw [waiting] at tells
    obtain ⟨latest, earlier, rfl, preceding, running, flag⟩ := tells
    have noted : noteTrial settings task state (.read task (.error failure) sni)
        (latest :: earlier) = noteFailed settings state (.read task (.error failure) sni) failure
          (latest :: earlier) := if_pos rfl
    rw [noted]
    exact submitted.fails (.read task (.error failure) sni) reserved
      (by simp [Label.task, waiting, Phase.held?])
      (by simp [step, Label.withSni, Label.task, waiting]) preceding flag
      (by simpa [designed, Label.task, waiting] using byDesign) sni

theorem submitted_step {before after : State × List Trial}
    (submitted : Submitted reset task before.1 before.2)
    (tells : (before.1.phase task).Tells before.2)
    (byDesign : Designed reset settings task before label)
    (taken : ((machine settings).observe (noteTrial settings task)).step before label =
      some after) :
    Submitted reset task after.1 after.2 := by
  obtain ⟨moved, noted⟩ := Machine.observe_step taken
  rw [noted]
  by_cases own : label.task = task
  · have asked := byDesign own
    subst own
    cases label with
    | execute actor sni =>
      cases transition_of_step moved with
      | execute fresh acquired => exact submitted.execute tells fresh acquired
    | connectStep actor outcome => exact submitted.connectStep tells asked moved
    | write actor outcome sni => exact submitted.write tells asked moved
    | read actor outcome sni => exact submitted.read tells asked moved
  · obtain ⟨phase, history⟩ := step_other moved (Ne.symm own)
    rw [noteTrial_other own]
    apply submitted.unchanged
    · rw [history]
    · rw [phase]

theorem reachable_submitted {start : State} {observed : State × List Trial}
    (fresh : start.phase task = .notStarted) (quiet : start.history task = [])
    (reached : ((machine settings).observe (noteTrial settings task)).Reachable
      (Designed reset settings task) (start, []) observed) :
    Submitted reset task observed.1 observed.2 := by
  induction reached with
  | start =>
    refine ⟨?_, rfl⟩
    simp [fresh, quiet, Phase.unwritten]
  | next earlier byDesign taken ih =>
    exact submitted_step ih (reachable_tells fresh earlier.free) byDesign taken

end Steps

/-- One `execute`, in whatever pool it starts and whatever the other calls do, in a run in which
it is retried by design only: its request is written at most once, unless the first attempt ran
on a connection from the pool and failed with a reset. Then it is written at most once more, on
a connection that the second attempt established. In every run there is at most one write in an
attempt and none after a response. -/
theorem request_written_again_if_stale {reset : String → Bool} {settings : Settings}
    {start state : State} {task : Nat} {trials : List Trial}
    (fresh : start.phase task = .notStarted) (quiet : start.history task = [])
    (reached : ((machine settings).observe (noteTrial settings task)).Reachable
      (Designed reset settings task) (start, []) (state, trials)) :
    (∃ attempt earlier last,
      Earlier (buildRequest settings (settings.request task)) attempt earlier ∧
      Attempt (buildRequest settings (settings.request task)) last ∧
        state.history task = earlier ++ last) ∧
      ((state.history task).countP Event.isWrite ≤ 1 ∨
        (state.history task).countP Event.isWrite = 2 ∧
          ∃ second first message, trials = [second, first] ∧ first.found.isSome = true ∧
            first.outcome = some (.error (.system message)) ∧ reset message = true ∧
              second.onOwn = true) := by
  obtain ⟨attempts, twice⟩ := request_written_per_attempt fresh quiet reached.unobserved
  refine ⟨attempts, ?_⟩
  obtain ⟨bounded, stale⟩ := reachable_submitted fresh quiet reached
  simp only at bounded stale twice
  rcases resubmitsStale_cases stale with one | two
  · exact .inl (by omega)
  · rcases Nat.lt_or_ge ((state.history task).countP Event.isWrite) 2 with once | again
    · exact .inl (by omega)
    · exact .inr ⟨by omega, two⟩

/-- An order reuses the idle connection of two, which the server has closed: its request is
written twice. -/
theorem stale_order_written_again :
    ∃ state trials,
      ((machine orderClient).observe (noteTrial orderClient 2)).Reachable
        (Designed (· = "end of stream") orderClient 2) (initial, []) (state, trials) ∧
      (state.history 2).countP Event.isWrite = 2 ∧
      ∃ second first message, trials = [second, first] ∧ first.found.isSome = true ∧
        first.outcome = some (.error (.system message)) ∧ message = "end of stream" ∧
          second.onOwn = true := by
  obtain ⟨⟨state, trials⟩, reached, twice⟩ : ∃ observed : State × List Trial,
      ((machine orderClient).observe (noteTrial orderClient 2)).Reachable
          (Designed (· = "end of stream") orderClient 2) (initial, []) observed ∧
        (observed.1.history 2).countP Event.isWrite = 2 :=
    Machine.exists_reachable_of_run
      (warmUp ++ [.execute 2 true, .write 2 (.ok ()) true,
        .read 2 (.error (.system "end of stream")) true] ++ connect 2 ++ [.write 2 (.ok ()) true])
      (by decide)
  refine ⟨state, trials, reached, twice, ?_⟩
  rcases (request_written_again_if_stale rfl rfl reached).2 with once | again
  · exact absurd (twice ▸ once) (by decide)
  · obtain ⟨-, second, first, message, both, found, broke, reset, own⟩ := again
    exact ⟨second, first, message, both, found, broke, of_decide_eq_true reset, own⟩

end Bintrade.Rest.HttpClient
