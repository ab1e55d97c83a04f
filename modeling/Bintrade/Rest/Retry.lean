import Bintrade.Rest.PoolIdentity
import Bintrade.Rest.PoolOwnership
import Bintrade.Rest.Submission

/-! When `execute` makes a second attempt. It keeps no record of where a connection came from:
after `acquire_connection` has returned, it takes the size of the pool as a sign that the
connection was reused. -/

namespace Bintrade.Rest.HttpClient

open Bintrade.System Bintrade.Core

/-- One pass of the loop in `execute`: the slot that the first scan of `acquire_connection`
found, the connection that `do_connect` established, the pool and the pointer when
`acquire_connection` returned, and how the request ended. -/
structure Trial where
  found : Option Nat
  made : Option Nat
  acquired : Option (List Slot × Option Nat)
  outcome : Option (Except Failure RawResponse)

/-- `acquire_connection` is called. -/
def Trial.begin (pool : List Slot) : Trial where
  found := (pool.find? idleConnected).map Slot.id
  made := none
  acquired := (pool.find? idleConnected).map fun slot =>
    (onSlot pool slot.id Slot.reserve, some slot.id)
  outcome := none

/-- `do_connect` returns, and with it `acquire_connection`. -/
def Trial.connect (slot : Nat) (pool : List Slot) (conn : Option Nat) (trial : Trial) : Trial :=
  { trial with made := some slot, acquired := some (pool, conn) }

def Trial.finish (outcome : Except Failure RawResponse) (trial : Trial) : Trial :=
  { trial with outcome := some outcome }

def isTransportError : Option (Except Failure RawResponse) → Bool
  | some (.error (.system _)) => true
  | _ => false

/-- The attempt ran on a reused connection and failed with a transport error. -/
def Trial.stale (trial : Trial) : Bool := trial.found.isSome && isTransportError trial.outcome

/-- The attempt runs, if it runs, on a connection that it established itself. -/
def Trial.onOwn (trial : Trial) : Bool :=
  trial.found.isNone && trial.acquired.all fun returned => returned.2 = trial.made

/-- When `acquire_connection` returned, there was more than one connection in the pool, or
the connection was not connected. -/
def Trial.crowded (trial : Trial) : Bool :=
  trial.acquired.any fun returned => 1 < returned.1.length || !isConnected returned.1 returned.2

/-- The same step, should setting the SNI host name work. -/
def Label.withSni : Label → Label
  | .execute task _ => .execute task true
  | .connectStep task outcome => .connectStep task outcome
  | .write task outcome _ => .write task outcome true
  | .read task outcome _ => .read task outcome true

/-- After a failed request, the call goes on to another attempt. -/
def retries (settings : Settings) (state : State) (label : Label) : Bool :=
  (step settings state label.withSni).any fun after => (after.phase label.task).slot?.isSome

def onLatest (change : Trial → Trial) : List Trial → List Trial
  | [] => []
  | latest :: earlier => change latest :: earlier

def noteFailed (settings : Settings) (state : State) (label : Label) (failure : Failure)
    (trials : List Trial) : List Trial :=
  let ended := onLatest (.finish (.error failure)) trials
  match (state.phase label.task).held? with
  | some (conn, _) =>
    if retries settings state label then
      .begin (releaseConnection settings.poolSize state.pool conn false) :: ended
    else ended
  | none => ended

/-- The attempts of one call, the latest first. -/
def noteTrial (settings : Settings) (task : Nat) (state : State) (label : Label)
    (trials : List Trial) : List Trial :=
  if label.task = task then
    match label with
    | .execute _ _ => .begin state.pool :: trials
    | .connectStep _ (.ok _) =>
      match state.phase task with
      | .connecting _ slot position _ .handshaking =>
        let pool := onSlot state.pool slot fun slot => { slot with connected := true }
        onLatest (.connect slot pool (pool[position]?.map Slot.id)) trials
      | _ => trials
    | .write _ (.error failure) _ => noteFailed settings state label failure trials
    | .read _ (.error failure) _ => noteFailed settings state label failure trials
    | .read _ (.ok raw) _ => onLatest (.finish (.ok raw)) trials
    | _ => trials
  else trials

/-- There are at most two attempts, a second one exactly if the first is stale, and it runs on
a connection of its own. -/
def retriesStale : List Trial → Bool
  | [] => true
  | [first] => !first.stale
  | [second, first] => first.stale && second.onOwn
  | _ => false

/-- What is expected of the attempts of a call. A response ends the last of them, and is
returned. -/
structure RetriesStale (task : Nat) (state : State) (trials : List Trial) : Prop where
  attempts : retriesStale trials = true
  answered : ∀ trial ∈ trials, ∀ raw, trial.outcome = some (.ok raw) →
    trials.head? = some trial ∧ state.phase task = .returned (toResponse raw)

/-- Where the first attempt fails with a transport error, it ran on a reused connection exactly
if the pool was crowded, and then no idle connection is left for the second attempt. -/
def recognizesFailure (settings : Settings) (pool : List Slot) (conn : Option Nat) :
    Failure → List Trial → Bool
  | .system _, [first] =>
    first.found.isSome == first.crowded &&
      (!first.crowded ||
        ((releaseConnection settings.poolSize pool conn false).find? idleConnected).isNone)
  | _, _ => true

/-- Where the second attempt has connected, its reference points to its connection. -/
def recognizesConnection (pool : List Slot) (slot position : Nat) : List Trial → Bool
  | [_, _] => pool[position]?.map Slot.id = some slot
  | _ => true

def recognized (settings : Settings) (state : State) (trials : List Trial) (label : Label) :
    Bool :=
  match label, state.phase label.task with
  | .connectStep _ (.ok _), .connecting _ slot position _ .handshaking =>
    recognizesConnection state.pool slot position trials
  | .write _ (.error failure) _, .writing _ conn _ _ =>
    recognizesFailure settings state.pool conn failure trials
  | .read _ (.error failure) _, .reading _ conn _ _ =>
    recognizesFailure settings state.pool conn failure trials
  | _, _ => true

def recognizes (settings : Settings) (task : Nat) (observed : State × List Trial)
    (label : Label) : Prop :=
  label.task = task → recognized settings observed.1 observed.2 label = true

instance (settings : Settings) (task : Nat) (observed : State × List Trial) (label : Label) :
    Decidable (recognizes settings task observed label) :=
  inferInstanceAs (Decidable (_ → _))

/-- A second attempt was made or left out wrongly, or not on a connection of its own. -/
def Misjudged (observed : State × List Trial) : Prop := ¬ retriesStale observed.2 = true

/-- The attempts before a given one have failed. -/
def Preceding : Nat → List Trial → Prop
  | 0, earlier => earlier = []
  | 1, earlier => ∃ first failure, earlier = [first] ∧ first.outcome = some (.error failure)
  | _, _ => False

/-- The attempts of a call, told by its phase. -/
def Phase.Tells (trials : List Trial) : Phase → Prop
  | .notStarted => trials = []
  | .connecting attempt _ _ _ _ =>
    ∃ latest earlier, trials = latest :: earlier ∧ Preceding attempt earlier ∧
      latest = ⟨none, none, none, none⟩
  | .writing attempt _ _ wasPreconnected | .reading attempt _ _ wasPreconnected =>
    ∃ latest earlier, trials = latest :: earlier ∧ Preceding attempt earlier ∧
      latest.outcome = none ∧ wasPreconnected = (attempt = 0 && latest.crowded)
  | .returned response =>
    ∃ attempt latest earlier raw, trials = latest :: earlier ∧ Preceding attempt earlier ∧
      latest.outcome = some (.ok raw) ∧ response = toResponse raw
  | .failed _ =>
    ∃ attempt latest earlier, trials = latest :: earlier ∧ Preceding attempt earlier ∧
      ∀ raw, latest.outcome ≠ some (.ok raw)

section Trials

variable (trial : Trial)

theorem Trial.not_stale (running : trial.outcome = none) : trial.stale = false := by
  rw [stale, running]
  exact Bool.and_false _

@[simp] theorem Trial.stale_finish_system (text : String) :
    (trial.finish (.error (.system text))).stale = trial.found.isSome := by
  simp [stale, finish, isTransportError]

@[simp] theorem Trial.stale_finish_standard (text : String) :
    (trial.finish (.error (.standard text))).stale = false := by
  simp [stale, finish, isTransportError]

@[simp] theorem Trial.stale_finish_ok (raw : RawResponse) :
    (trial.finish (.ok raw)).stale = false := by
  simp [stale, finish, isTransportError]

@[simp] theorem Trial.onOwn_finish (outcome : Except Failure RawResponse) :
    (trial.finish outcome).onOwn = trial.onOwn := rfl

@[simp] theorem Trial.onOwn_begin (pool : List Slot) :
    (Trial.begin pool).onOwn = (pool.find? idleConnected).isNone := by
  unfold onOwn begin
  cases pool.find? idleConnected <;> rfl

end Trials

section Attempts

variable {settings : Settings} {state after : State} {task attempt : Nat} {label : Label}
  {earlier : List Trial}

theorem Preceding.cases (preceding : Preceding attempt earlier) :
    (attempt = 0 ∧ earlier = []) ∨ (attempt = 1 ∧
      ∃ first failure, earlier = [first] ∧ first.outcome = some (.error failure)) := by
  rcases attempt with _ | _ | attempt
  · exact .inl ⟨rfl, preceding⟩
  · exact .inr ⟨rfl, preceding⟩
  · exact preceding.elim

theorem Preceding.broken (preceding : Preceding attempt earlier) :
    ∀ trial ∈ earlier, ∀ raw, trial.outcome ≠ some (.ok raw) := by
  intro trial member raw received
  rcases preceding.cases with ⟨-, rfl⟩ | ⟨-, first, failure, rfl, ended⟩
  · cases member
  · rw [List.mem_singleton.mp member, ended] at received
    cases received

theorem Preceding.unanswered {latest : Trial} (preceding : Preceding attempt earlier)
    (running : ∀ raw, latest.outcome ≠ some (.ok raw)) :
    ∀ trial ∈ latest :: earlier, ∀ raw, trial.outcome ≠ some (.ok raw) := by
  intro trial member
  rcases List.mem_cons.mp member with rfl | old
  · exact running
  · exact preceding.broken trial old

theorem startConnect_tells {slot position : Nat} {created sni : Bool}
    (preceding : Preceding attempt earlier) :
    ((startConnect state task attempt slot position created sni).phase task).Tells
      (⟨none, none, none, none⟩ :: earlier) := by
  cases sni with
  | true =>
    simp only [startConnect, State.setPhase, if_true, Function.update_self]
    exact ⟨_, earlier, rfl, preceding, rfl⟩
  | false =>
    simp only [startConnect, connectFails, State.setPhase, Bool.false_eq_true, if_false,
      Function.update_self]
    exact ⟨attempt, _, earlier, rfl, preceding, by simp⟩

theorem acquire_tells (preceding : Preceding attempt earlier) (sni : Bool) :
    ((acquire state task attempt sni).phase task).Tells (.begin state.pool :: earlier) := by
  unfold acquire Trial.begin
  cases connected : state.pool.find? idleConnected with
  | some slot =>
    simp only [startRequest, State.setPhase, Function.update_self]
    exact ⟨_, earlier, rfl, preceding, rfl, rfl⟩
  | none =>
    cases unconnected : state.pool.find? idleUnconnected with
    | some slot => exact startConnect_tells preceding
    | none => exact startConnect_tells preceding

theorem slot?_acquire (state : State) (task attempt : Nat) :
    ((acquire state task attempt true).phase task).slot?.isSome = true := by
  unfold acquire
  cases connected : state.pool.find? idleConnected with
  | some slot => simp [startRequest, State.setPhase, Phase.slot?]
  | none =>
    cases unconnected : state.pool.find? idleUnconnected with
    | some slot => simp [startConnect, State.setPhase, Phase.slot?]
    | none => simp [startConnect, State.setPhase, Phase.slot?]

theorem not_again {wasPreconnected : Bool} {failure : Failure}
    (final : ∀ text, failure = .system text → wasPreconnected = false ∨ attempt + 1 = maxAttempts) :
    ¬ ((∃ text, failure = .system text) ∧ wasPreconnected = true ∧
      attempt + 1 ≠ maxAttempts) := by
  rintro ⟨⟨text, system⟩, again, more⟩
  rcases final text system with fresh | last
  · rw [again] at fresh
    cases fresh
  · exact more last

/-- The call goes on exactly if a transport error ends an attempt that counts as made on a
reused connection and is not the last. -/
theorem retries_iff {conn : Option Nat} {wasPreconnected : Bool} {failure : Failure}
    (fails : step settings state label.withSni = some
      (requestFails settings.poolSize state label.task attempt conn wasPreconnected failure true)) :
    retries settings state label = true ↔
      (∃ text, failure = .system text) ∧ wasPreconnected = true ∧ attempt + 1 ≠ maxAttempts := by
  have ends := caught settings.poolSize state label.task attempt conn wasPreconnected failure true
  rw [retries, fails, Option.any_some]
  generalize requestFails settings.poolSize state label.task attempt conn wasPreconnected failure
    true = after at ends
  cases ends with
  | ended message final =>
    refine iff_of_false ?_ (not_again final)
    simp [State.setPhase, Phase.slot?]
  | retried again more =>
    exact iff_of_true (slot?_acquire _ _ _) ⟨⟨_, rfl⟩, again, more⟩

section Failures

variable {conn : Option Nat} {reserved : Nat} {wasPreconnected : Bool} {failure : Failure}
  {latest : Trial}

theorem noteFailed_eq (held : (state.phase label.task).held? = some (conn, reserved)) :
    noteFailed settings state label failure (latest :: earlier) =
      if retries settings state label then
        .begin (releaseConnection settings.poolSize state.pool conn false) ::
          latest.finish (.error failure) :: earlier
      else latest.finish (.error failure) :: earlier := by
  rw [noteFailed, held]
  rfl

theorem requestFails_tells (held : (state.phase label.task).held? = some (conn, reserved))
    (fails : step settings state label.withSni = some
      (requestFails settings.poolSize state label.task attempt conn wasPreconnected failure true))
    (preceding : Preceding attempt earlier) (sni : Bool) :
    ((requestFails settings.poolSize state label.task attempt conn wasPreconnected failure
      sni).phase label.task).Tells
        (noteFailed settings state label failure (latest :: earlier)) := by
  have goesOn := retries_iff fails
  have ends := caught settings.poolSize state label.task attempt conn wasPreconnected failure sni
  rw [noteFailed_eq held]
  generalize requestFails settings.poolSize state label.task attempt conn wasPreconnected failure
    sni = after at ends ⊢
  cases ends with
  | ended message final =>
    rw [if_neg (fun again => not_again final (goesOn.mp again))]
    simp only [State.setPhase, Function.update_self]
    exact ⟨attempt, _, earlier, rfl, preceding, by simp [Trial.finish]⟩
  | @retried text again more =>
    rw [if_pos (goesOn.mpr ⟨⟨text, rfl⟩, again, more⟩)]
    rcases preceding.cases with ⟨rfl, rfl⟩ | ⟨rfl, -⟩
    · have once : Preceding 1 [latest.finish (.error (.system text))] := ⟨_, _, rfl, rfl⟩
      exact acquire_tells once sni
    · exact absurd rfl more

/-- The decision on a failed request is right exactly if the connection is recognized. -/
theorem noteFailed_judged (held : (state.phase label.task).held? = some (conn, reserved))
    (fails : step settings state label.withSni = some
      (requestFails settings.poolSize state label.task attempt conn wasPreconnected failure true))
    (preceding : Preceding attempt earlier) (running : latest.outcome = none)
    (flag : wasPreconnected = (attempt = 0 && latest.crowded)) :
    retriesStale (noteFailed settings state label failure (latest :: earlier)) = true ↔
      retriesStale (latest :: earlier) = true ∧
        recognizesFailure settings state.pool conn failure (latest :: earlier) = true := by
  have goesOn := retries_iff fails
  rw [noteFailed_eq held]
  rcases preceding.cases with ⟨rfl, rfl⟩ | ⟨rfl, first, broken, rfl, -⟩
  · have good : latest.stale = false := latest.not_stale running
    cases failure with
    | standard text =>
      have stops : ¬ retries settings state label = true := by
        intro again
        obtain ⟨⟨system, impossible⟩, -⟩ := goesOn.mp again
        cases impossible
      rw [if_neg stops]
      simp [retriesStale, recognizesFailure, good]
    | system text =>
      have onlyCrowd : retries settings state label = true ↔ latest.crowded = true := by
        rw [goesOn, flag]
        simp [maxAttempts]
      by_cases crowded : latest.crowded = true
      · rw [if_pos (onlyCrowd.mpr crowded)]
        simp [retriesStale, recognizesFailure, good, crowded]
      · rw [if_neg (fun again => crowded (onlyCrowd.mp again))]
        simp [retriesStale, recognizesFailure, good, crowded]
  · have stops : ¬ retries settings state label = true := fun again => (goesOn.mp again).2.2 rfl
    rw [if_neg stops]
    simp [retriesStale, recognizesFailure]

end Failures

section Steps

variable {trials : List Trial}

/-- What a step of the call adds to its attempts agrees with its phase, and is right exactly
if the attempts were right before and the step is recognized. -/
structure Judged (settings : Settings) (task : Nat) (label : Label) (state : State)
    (trials : List Trial) (after : State) : Prop where
  tells : (after.phase task).Tells (noteTrial settings task state label trials)
  right : retriesStale (noteTrial settings task state label trials) = true ↔
    retriesStale trials = true ∧ recognized settings state trials label = true

theorem Judged.unchanged (tells : (after.phase task).Tells trials)
    (noted : noteTrial settings task state label trials = trials)
    (asked : recognized settings state trials label = true) :
    Judged settings task label state trials after := by
  refine ⟨?_, ?_⟩
  · rw [noted]
    exact tells
  · rw [noted, asked]
    simp

theorem judged_execute {sni : Bool} (tells : (state.phase task).Tells trials)
    (taken : (machine settings).step state (.execute task sni) = some after) :
    Judged settings task (.execute task sni) state trials after := by
  have noted : noteTrial settings task state (.execute task sni) trials =
      .begin state.pool :: trials := if_pos rfl
  cases located : state.phase task with
  | notStarted =>
    simp only [machine, step, located] at taken
    cases taken
    rw [located] at tells
    obtain rfl : trials = [] := tells
    have first : Preceding 0 [] := rfl
    refine ⟨?_, ?_⟩
    · rw [noted]
      exact acquire_tells first sni
    · rw [noted]
      have running : (Trial.begin state.pool).stale = false := Trial.not_stale _ rfl
      simp [retriesStale, recognized, running]
  | _ =>
    simp only [machine, step, located] at taken
    cases taken

theorem judged_connects {attempt slot position : Nat} {created : Bool}
    (waiting : state.phase task = .connecting attempt slot position created .handshaking)
    (tells : (state.phase task).Tells trials) :
    Judged settings task (.connectStep task (.ok ())) state trials
      (connectCompletes state task attempt slot position) := by
  rw [waiting] at tells
  obtain ⟨latest, earlier, rfl, preceding, rfl⟩ := tells
  have there := getElem?_onSlot_id state.pool slot position
    (fun slot => { slot with connected := true }) fun _ => rfl
  have noted : noteTrial settings task state (.connectStep task (.ok ()))
      (⟨none, none, none, none⟩ :: earlier) =
        ⟨none, some slot, some (onSlot state.pool slot fun slot => { slot with connected := true },
          state.pool[position]?.map Slot.id), none⟩ :: earlier := by
    rw [← there]
    simp [noteTrial, waiting, Label.task, onLatest, Trial.connect]
  have asked : recognized settings state (⟨none, none, none, none⟩ :: earlier)
      (.connectStep task (.ok ())) =
        recognizesConnection state.pool slot position (⟨none, none, none, none⟩ :: earlier) := by
    simp [recognized, Label.task, waiting]
  refine ⟨?_, ?_⟩
  · rw [noted, ← there]
    simp only [connectCompletes, startRequest, State.setPhase, State.setPool, Function.update_self]
    exact ⟨_, earlier, rfl, preceding, rfl, rfl⟩
  · rw [noted, asked]
    rcases preceding.cases with ⟨-, rfl⟩ | ⟨-, first, failure, rfl, -⟩
    · simp [retriesStale, recognizesConnection, Trial.stale]
    · simp [retriesStale, recognizesConnection, Trial.onOwn]

theorem judged_connectStep {outcome : Except String Unit} (tells : (state.phase task).Tells trials)
    (taken : (machine settings).step state (.connectStep task outcome) = some after) :
    Judged settings task (.connectStep task outcome) state trials after := by
  cases located : state.phase task with
  | connecting attempt slot position created stage =>
    cases outcome with
    | error message =>
      simp only [machine, step, located] at taken
      cases taken
      refine Judged.unchanged ?_ (if_pos rfl) rfl
      rw [located] at tells
      obtain ⟨latest, earlier, trials, preceding, rfl⟩ := tells
      simp only [connectFails, State.setPhase, Function.update_self]
      exact ⟨attempt, _, earlier, trials, preceding, by simp⟩
    | ok _ =>
      cases stage with
      | handshaking =>
        simp only [machine, step, located] at taken
        cases taken
        exact judged_connects located tells
      | resolving | connecting =>
        simp only [machine, step, located] at taken
        cases taken
        rw [located] at tells
        apply Judged.unchanged
        · simp only [State.setPhase, Function.update_self]
          exact tells
        · simp [noteTrial, located, Label.task]
        · simp [recognized, located, Label.task]
  | _ =>
    simp only [machine, step, located] at taken
    cases taken

/-- A failed request, of whichever operation. -/
theorem judged_fails {conn : Option Nat} {reserved : Nat} {wasPreconnected : Bool}
    {failure : Failure} {latest : Trial}
    (held : (state.phase label.task).held? = some (conn, reserved))
    (fails : step settings state label.withSni = some
      (requestFails settings.poolSize state label.task attempt conn wasPreconnected failure true))
    (noted : noteTrial settings label.task state label (latest :: earlier) =
      noteFailed settings state label failure (latest :: earlier))
    (asked : recognized settings state (latest :: earlier) label =
      recognizesFailure settings state.pool conn failure (latest :: earlier))
    (preceding : Preceding attempt earlier) (running : latest.outcome = none)
    (flag : wasPreconnected = (attempt = 0 && latest.crowded)) (sni : Bool) :
    Judged settings label.task label state (latest :: earlier)
      (requestFails settings.poolSize state label.task attempt conn wasPreconnected failure
        sni) := by
  refine ⟨?_, ?_⟩
  · rw [noted]
    exact requestFails_tells held fails preceding sni
  · rw [noted, asked]
    exact noteFailed_judged held fails preceding running flag

theorem judged_write {outcome : Except Failure Unit} {sni : Bool}
    (tells : (state.phase task).Tells trials)
    (taken : (machine settings).step state (.write task outcome sni) = some after) :
    Judged settings task (.write task outcome sni) state trials after := by
  cases transition_of_step taken with
  | writeCompletes waiting =>
    rw [waiting] at tells
    refine Judged.unchanged ?_ (if_pos rfl) rfl
    simp only [State.setPhase, Function.update_self]
    exact tells
  | @writeFails _ attempt conn reserved wasPreconnected _ failure waiting =>
    rw [waiting] at tells
    obtain ⟨latest, earlier, rfl, preceding, running, flag⟩ := tells
    exact @judged_fails settings state attempt (.write task (.error failure) sni) earlier conn
      reserved wasPreconnected failure latest (by simp [Label.task, waiting, Phase.held?])
      (by simp [step, Label.withSni, Label.task, waiting]) (if_pos rfl)
      (by simp [recognized, Label.task, waiting]) preceding running flag sni

theorem judged_read {outcome : Except Failure RawResponse} {sni : Bool}
    (tells : (state.phase task).Tells trials)
    (taken : (machine settings).step state (.read task outcome sni) = some after) :
    Judged settings task (.read task outcome sni) state trials after := by
  cases transition_of_step taken with
  | @readCompletes _ attempt conn reserved wasPreconnected _ raw waiting =>
    rw [waiting] at tells
    obtain ⟨latest, earlier, rfl, preceding, running, -⟩ := tells
    have noted : noteTrial settings task state (.read task (.ok raw) sni) (latest :: earlier) =
        latest.finish (.ok raw) :: earlier := if_pos rfl
    refine ⟨?_, ?_⟩
    · rw [noted]
      simp only [State.setPhase, Function.update_self]
      exact ⟨attempt, _, earlier, raw, rfl, preceding, rfl, rfl⟩
    · rw [noted]
      rcases preceding.cases with ⟨-, rfl⟩ | ⟨-, first, failure, rfl, -⟩
      · simp [retriesStale, recognized, latest.not_stale running]
      · simp [retriesStale, recognized]
  | @readFails _ attempt conn reserved wasPreconnected _ failure waiting =>
    rw [waiting] at tells
    obtain ⟨latest, earlier, rfl, preceding, running, flag⟩ := tells
    exact @judged_fails settings state attempt (.read task (.error failure) sni) earlier conn
      reserved wasPreconnected failure latest (by simp [Label.task, waiting, Phase.held?])
      (by simp [step, Label.withSni, Label.task, waiting]) (if_pos rfl)
      (by simp [recognized, Label.task, waiting]) preceding running flag sni

theorem judged_own (own : label.task = task) (tells : (state.phase task).Tells trials)
    (taken : (machine settings).step state label = some after) :
    Judged settings task label state trials after := by
  subst own
  cases label with
  | execute actor sni => exact judged_execute tells taken
  | connectStep actor outcome => exact judged_connectStep tells taken
  | write actor outcome sni => exact judged_write tells taken
  | read actor outcome sni => exact judged_read tells taken

end Steps

end Attempts

section Runs

variable {settings : Settings} {task : Nat} {label : Label} {before after : State × List Trial}

theorem noteTrial_other {state : State} {trials : List Trial} (other : label.task ≠ task) :
    noteTrial settings task state label trials = trials :=
  if_neg other

theorem tells_step (tells : (before.1.phase task).Tells before.2)
    (taken : ((machine settings).observe (noteTrial settings task)).step before label =
      some after) :
    (after.1.phase task).Tells after.2 := by
  obtain ⟨moved, noted⟩ := Machine.observe_step taken
  rw [noted]
  by_cases own : label.task = task
  · exact (judged_own own tells moved).tells
  · rw [noteTrial_other own, (step_other moved (Ne.symm own)).1]
    exact tells

theorem misjudged_step (tells : (before.1.phase task).Tells before.2)
    (taken : ((machine settings).observe (noteTrial settings task)).step before label =
      some after) :
    Misjudged after ↔ Misjudged before ∨ ¬ recognizes settings task before label := by
  obtain ⟨moved, noted⟩ := Machine.observe_step taken
  unfold Misjudged recognizes
  rw [noted]
  by_cases own : label.task = task
  · rw [(judged_own own tells moved).right]
    simp only [own, true_implies]
    exact not_and_or
  · rw [noteTrial_other own]
    simp [own]

theorem reachable_tells {start : State} (fresh : start.phase task = .notStarted)
    (reached : ((machine settings).observe (noteTrial settings task)).Reachable Machine.anyStep
      (start, []) after) :
    (after.1.phase task).Tells after.2 := by
  induction reached with
  | start =>
    rw [fresh]
    rfl
  | next earlier _ taken ih => exact tells_step ih taken

/-- A response ends the latest attempt, and the call. -/
theorem Phase.Tells.answered {phase : Phase} {trials : List Trial} (tells : phase.Tells trials) :
    ∀ trial ∈ trials, ∀ raw, trial.outcome = some (.ok raw) →
      trials.head? = some trial ∧ phase = .returned (toResponse raw) := by
  intro trial member raw received
  cases phase with
  | notStarted =>
    obtain rfl : trials = [] := tells
    cases member
  | connecting attempt slot position created stage =>
    obtain ⟨latest, earlier, rfl, preceding, rfl⟩ := tells
    exact absurd received (preceding.unanswered (by simp) trial member raw)
  | writing attempt conn reserved wasPreconnected
  | reading attempt conn reserved wasPreconnected =>
    obtain ⟨latest, earlier, rfl, preceding, running, -⟩ := tells
    exact absurd received (preceding.unanswered (by simp [running]) trial member raw)
  | failed error =>
    obtain ⟨attempt, latest, earlier, rfl, preceding, ended⟩ := tells
    exact absurd received (preceding.unanswered ended trial member raw)
  | returned response =>
    obtain ⟨attempt, latest, earlier, answer, rfl, preceding, ended, rfl⟩ := tells
    rcases List.mem_cons.mp member with rfl | old
    · rw [ended] at received
      cases received
      exact ⟨rfl, rfl⟩
    · exact absurd received (preceding.broken trial old raw)

end Runs

/-- In every run, from every pool: the attempts of a call are as expected if and only if each
transport error of a first attempt is on a connection that the size of the pool tells to be
reused or new, and the second attempt gets the connection that it made. -/
theorem retries_stale_iff {settings : Settings} {start state : State} {task : Nat}
    {trials : List Trial} (fresh : start.phase task = .notStarted)
    (reached : ((machine settings).observe (noteTrial settings task)).Reachable Machine.anyStep
      (start, []) (state, trials)) :
    RetriesStale task state trials ↔
      ((machine settings).observe (noteTrial settings task)).Reachable (recognizes settings task)
        (start, []) (state, trials) := by
  have tells := reachable_tells fresh reached
  have right : RetriesStale task state trials ↔ ¬ Misjudged (state, trials) := by
    constructor
    · intro expected wrong
      exact wrong expected.attempts
    · intro right
      exact ⟨not_not.mp right, tells.answered⟩
  rw [right]
  apply reached.good_iff
  · intro wrong
    exact wrong rfl
  · intro before after label earlier taken
    exact misjudged_step (reachable_tells fresh earlier) taken

/-- A third call reuses the idle connection of two; it breaks, and the call gets a new one. -/
theorem stale_connection_replaced :
    ∃ state trials, ((machine orderClient).observe (noteTrial orderClient 2)).Reachable
        (recognizes orderClient 2) (initial, []) (state, trials) ∧
      trials.map Trial.made = [some 2, none] ∧ RetriesStale 2 state trials := by
  obtain ⟨⟨state, trials⟩, reached, seen⟩ : ∃ observed : State × List Trial,
      ((machine orderClient).observe (noteTrial orderClient 2)).Reachable
          (recognizes orderClient 2) (initial, []) observed ∧
        observed.2.map Trial.made = [some 2, none] :=
    Machine.exists_reachable_of_run
      (warmUp ++ [.execute 2 true, .write 2 (.error (.system "broken pipe")) true] ++ connect 2)
      (by decide)
  refine ⟨state, trials, reached, seen, ?_⟩
  exact (retries_stale_iff rfl reached.free).mpr reached

/-- The only connection is reused, and breaks. The call is not retried. -/
theorem stale_connection_not_retried :
    ∃ state trials, ((machine orderClient).observe (noteTrial orderClient 1)).Reachable
        Machine.anyStep (initial, []) (state, trials) ∧
      trials.map Trial.stale = [true] ∧ ¬ RetriesStale 1 state trials := by
  obtain ⟨⟨state, trials⟩, reached, seen, wrong⟩ : ∃ observed : State × List Trial,
      ((machine orderClient).observe (noteTrial orderClient 1)).Reachable Machine.anyStep
          (initial, []) observed ∧
        (observed.2.map Trial.stale = [true] ∧ retriesStale observed.2 = false) :=
    Machine.exists_reachable_of_run
      ([.execute 0 true] ++ connect 0 ++
        [.write 0 (.ok ()) true, .read 0 (.ok ⟨11, 200, [], ""⟩) true, .execute 1 true,
          .write 1 (.error (.system "broken pipe")) true]) (by decide)
  refine ⟨state, trials, reached, seen, ?_⟩
  intro expected
  have right : retriesStale trials = true := expected.attempts
  have wrong : retriesStale trials = false := wrong
  rw [wrong] at right
  cases right

end Bintrade.Rest.HttpClient
