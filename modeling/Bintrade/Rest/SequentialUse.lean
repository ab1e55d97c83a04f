import Bintrade.Rest.CallTermination

/-! A client that one caller uses, one call after the other. Its pool holds one connection
at most, which is never taken for a stale one, so no request is written twice. -/

namespace Bintrade.Rest.HttpClient

open Bintrade.System Bintrade.Core

/-- The call that was started last. -/
def noteStarted (_ : State) (label : Label) (latest : Option Nat) : Option Nat :=
  match label with
  | .execute task _ => some task
  | _ => latest

/-- A call is started only when the one before has ended. -/
def startsAlone (observed : State × Option Nat) : Label → Bool
  | .execute _ _ => observed.2.all fun task => (observed.1.phase task).ended
  | _ => true

def oneAtATime (observed : State × Option Nat) (label : Label) : Prop :=
  startsAlone observed label = true

instance (observed : State × Option Nat) (label : Label) :
    Decidable (oneAtATime observed label) :=
  inferInstanceAs (Decidable (_ = true))

/-- Between two calls: no connection, or one that can be used again. -/
def Settled (pool : List Slot) : Prop := pool = [] ∨ ∃ id, pool = [⟨id, false, true⟩]

/-- What the pool is like when the latest call is in a phase. -/
def PoolFor (pool : List Slot) : Phase → Prop
  | .connecting attempt slot position created _ =>
    attempt = 0 ∧ position = 0 ∧ created = true ∧ pool = [Slot.fresh slot]
  | .writing attempt conn _ wasPreconnected | .reading attempt conn _ wasPreconnected =>
    attempt = 0 ∧ wasPreconnected = false ∧ ∃ id, conn = some id ∧ pool = [⟨id, true, true⟩]
  | .notStarted | .returned _ | .failed _ => Settled pool

/-- How often a call in its first attempt has written its request. -/
def Phase.Once (writes : Nat) : Phase → Prop
  | .reading _ _ _ _ => writes = 1
  | .returned _ | .failed _ => writes ≤ 1
  | _ => writes = 0

def writesOf (state : State) (task : Nat) : Nat := (state.history task).countP Event.isWrite

structure Sequential (observed : State × Option Nat) : Prop where
  unused : observed.2 = none → observed.1.pool = []
  shaped : ∀ task ∈ observed.2, PoolFor observed.1.pool (observed.1.phase task)
  others : ∀ task, task ∉ observed.2 →
    (observed.1.phase task).ended = true ∨ observed.1.phase task = .notStarted
  once : ∀ task, (observed.1.phase task).Once (writesOf observed.1 task)

section Shapes

variable {state : State} {task : Nat}

theorem PoolFor.settled {pool : List Slot} {phase : Phase} (shaped : PoolFor pool phase)
    (ended : phase.ended = true) : Settled pool := by
  cases phase with
  | returned | failed => exact shaped
  | _ => cases ended

/-- A call that finds a settled pool uses its connection, or makes the only one. -/
theorem poolFor_acquire (settled : Settled state.pool) (sni : Bool) :
    PoolFor (acquire state task 0 sni).pool ((acquire state task 0 sni).phase task) := by
  rcases settled with empty | ⟨id, single⟩
  · cases sni with
    | true => simp [acquire, startConnect, empty, State.setPhase, PoolFor]
    | false =>
      simp [acquire, startConnect, connectFails, empty, State.setPhase, State.setPool, PoolFor,
        Settled]
  · simp [acquire, startRequest, single, idleConnected, onSlot, Slot.reserve, isConnected,
      State.setPhase, State.setPool, PoolFor]

theorem settled_release (poolSize id : Nat) (keepAlive : Bool) :
    Settled (releaseConnection poolSize [⟨id, true, true⟩] (some id) keepAlive) := by
  have found : [(⟨id, true, true⟩ : Slot)].find? (fun slot => some slot.id = some id) =
      some ⟨id, true, true⟩ := by simp
  rw [releaseConnection, found]
  dsimp only
  split
  · left
    simp
  · right
    exact ⟨id, by simp [onSlot]⟩

/-- The request of a call that did not expect a stale connection fails for good. -/
theorem requestFails_final {poolSize attempt : Nat} {conn : Option Nat} (failure : Failure)
    (sni : Bool) :
    ∃ error, requestFails poolSize state task attempt conn false failure sni =
      ((state.setPool (releaseConnection poolSize state.pool conn false)).record task
        (.broke failure)).setPhase task (.failed error) := by
  cases failure with
  | system message => exact ⟨.network message, by simp [requestFails]⟩
  | standard message => exact ⟨.network message, rfl⟩

end Shapes

variable {settings : Settings} {observed after : State × Option Nat} {label : Label}

theorem Sequential.initial : Sequential (initial, none) where
  unused _ := rfl
  shaped := nofun
  others _ _ := .inr rfl
  once _ := rfl

/-- A call in the middle of its work is the latest one. -/
theorem Sequential.latest (sequential : Sequential observed) {task attempt : Nat}
    (busy : (observed.1.phase task).attempt? = some attempt) : observed.2 = some task := by
  by_cases latest : task ∈ observed.2
  · exact latest
  · rcases sequential.others task latest with ended | fresh
    · cases place : observed.1.phase task <;> simp_all [Phase.ended, Phase.attempt?]
    · simp [fresh, Phase.attempt?] at busy

/-- The pool is settled when a call may be started. -/
theorem Sequential.settled (sequential : Sequential observed) {task : Nat} {sni : Bool}
    (allowed : oneAtATime observed (.execute task sni)) : Settled observed.1.pool := by
  cases latest : observed.2 with
  | none => exact .inl (sequential.unused latest)
  | some previous =>
    have ended : (observed.1.phase previous).ended = true := by
      simpa [oneAtATime, startsAlone, latest] using allowed
    exact (sequential.shaped previous latest).settled ended

/-- The latest call takes a step and the others stay where they are. -/
theorem Sequential.advance (sequential : Sequential observed) {next : State} {task : Nat}
    (others : ∀ other, other ≠ task → next.phase other = observed.1.phase other ∧
      next.history other = observed.1.history other)
    (resting : ∀ other, other ≠ task →
      (observed.1.phase other).ended = true ∨ observed.1.phase other = .notStarted)
    (shaped : PoolFor next.pool (next.phase task))
    (once : (next.phase task).Once (writesOf next task)) : Sequential (next, some task) := by
  refine ⟨nofun, ?_, ?_, ?_⟩
  · intro other latest
    cases latest
    exact shaped
  · intro other earlier
    have different : other ≠ task := by
      rintro rfl
      exact earlier rfl
    rw [(others other different).1]
    exact resting other different
  · intro other
    by_cases same : other = task
    · rw [same]
      exact once
    · obtain ⟨phase, history⟩ := others other same
      simp only [phase, writesOf, history]
      exact sequential.once other

theorem Sequential.resting (sequential : Sequential observed) {task : Nat}
    (latest : observed.2 = some task) (other : Nat) (different : other ≠ task) :
    (observed.1.phase other).ended = true ∨ observed.1.phase other = .notStarted := by
  apply sequential.others
  rw [latest]
  intro same
  exact different (Option.some.inj same).symm

theorem Acquired.once {state after : State} {task : Nat} (acquired : Acquired state task 0 after)
    (unwritten : writesOf state task = 0) : (after.phase task).Once (writesOf after task) := by
  have same : writesOf after task = 0 := by rw [writesOf, acquired.history, ← writesOf, unwritten]
  rw [same]
  cases acquired <;>
    simp [startRequest, State.setPhase, State.setPool, Phase.Once]

theorem Sequential.execute (sequential : Sequential observed) {task : Nat} {sni : Bool}
    {next : State} (allowed : oneAtATime observed (.execute task sni))
    (taken : (machine settings).step observed.1 (.execute task sni) = some next) :
    Sequential (next, some task) := by
  obtain ⟨fresh, rfl⟩ : observed.1.phase task = .notStarted ∧
      acquire observed.1 task 0 sni = next := by
    simp only [machine, step] at taken
    split at taken
    · exact ⟨‹_›, Option.some.inj taken⟩
    · cases taken
  have reserved := acquired observed.1 task 0 sni
  have unwritten := sequential.once task
  rw [fresh] at unwritten
  refine sequential.advance ?_ ?_ (poolFor_acquire (sequential.settled allowed) sni)
    (reserved.once unwritten)
  · intro other different
    exact ⟨reserved.phase_of_ne different, congrFun reserved.history other⟩
  · intro other different
    by_cases latest : other ∈ observed.2
    · have ended : (observed.1.phase other).ended = true := by
        simpa [oneAtATime, startsAlone, show observed.2 = some other from latest] using allowed
      exact .inl ended
    · exact sequential.others other latest

theorem writesOf_record (state : State) (task : Nat) (event : Event) :
    writesOf (state.record task event) task = writesOf state task + event.isWrite.toNat := by
  cases event <;> simp [writesOf, State.record, Event.isWrite]

/-- A request on the only connection fails: the connection goes, and the call ends. -/
theorem shaped_requestFails {state : State} {task attempt poolSize id : Nat} {sni : Bool}
    {failure : Failure} (single : state.pool = [⟨id, true, true⟩])
    (few : writesOf state task ≤ 1) {next : State}
    (ends : requestFails poolSize state task attempt (some id) false failure sni = next) :
    PoolFor next.pool (next.phase task) ∧ (next.phase task).Once (writesOf next task) := by
  obtain ⟨error, failed⟩ := requestFails_final failure sni
  rw [ends] at failed
  have same : writesOf next task = writesOf state task := by
    rw [failed]
    exact writesOf_record _ _ _
  rw [same, failed]
  simp only [State.setPhase, Function.update_self, Phase.Once, PoolFor, State.record,
    State.setPool, single]
  exact ⟨settled_release poolSize id false, few⟩

/-- What a step of a call in the middle of its work leaves of the pool and of its writes. -/
theorem shaped_of_step {state next : State}
    (shaped : PoolFor state.pool (state.phase label.task))
    (once : (state.phase label.task).Once (writesOf state label.task))
    (continues : ∀ task sni, label ≠ .execute task sni)
    (taken : (machine settings).step state label = some next) :
    PoolFor next.pool (next.phase label.task) ∧
      (next.phase label.task).Once (writesOf next label.task) := by
  cases transition_of_step taken with
  | @execute task sni next fresh acquired => exact absurd rfl (continues task sni)
  | connectFails waiting =>
    simp only [Label.task, waiting, PoolFor, Phase.Once] at shaped once ⊢
    obtain ⟨-, -, rfl, single⟩ := shaped
    simp only [connectFails, State.setPhase, State.setPool, Function.update_self, single]
    exact ⟨.inl rfl, Nat.le_succ_of_le (Nat.le_of_eq once)⟩
  | connectAdvances later waiting =>
    simp only [Label.task, waiting, PoolFor, Phase.Once] at shaped once ⊢
    simp only [State.setPhase, Function.update_self]
    exact ⟨shaped, once⟩
  | @connectCompletes task attempt slot position created waiting =>
    simp only [Label.task, waiting, PoolFor, Phase.Once] at shaped once ⊢
    obtain ⟨rfl, rfl, rfl, single⟩ := shaped
    simp only [connectCompletes, startRequest, State.setPhase, State.setPool,
      Function.update_self, single]
    refine ⟨⟨trivial, ?_, slot, ?_, ?_⟩, once⟩
    · simp [onSlot, Slot.fresh, isConnected]
    · simp [onSlot, Slot.fresh]
    · simp [onSlot, Slot.fresh]
  | writeCompletes waiting =>
    simp only [Label.task, waiting, PoolFor, Phase.Once] at shaped once ⊢
    simp only [State.setPhase, Function.update_self]
    refine ⟨shaped, (writesOf_record _ _ _).trans ?_⟩
    rw [once]
    rfl
  | writeFails waiting =>
    simp only [Label.task, waiting, PoolFor, Phase.Once] at shaped once ⊢
    obtain ⟨-, rfl, id, rfl, single⟩ := shaped
    exact shaped_requestFails single (Nat.le_succ_of_le (Nat.le_of_eq once)) rfl
  | readCompletes waiting =>
    simp only [Label.task, waiting, PoolFor, Phase.Once] at shaped once ⊢
    obtain ⟨-, -, id, rfl, single⟩ := shaped
    simp only [State.setPhase, Function.update_self]
    constructor
    · simp only [State.record, State.setPool, single]
      exact settled_release _ _ _
    · exact Nat.le_of_eq ((writesOf_record _ _ _).trans once)
  | readFails waiting =>
    simp only [Label.task, waiting, PoolFor, Phase.Once] at shaped once ⊢
    obtain ⟨-, rfl, id, rfl, single⟩ := shaped
    exact shaped_requestFails single (Nat.le_of_eq once) rfl

/-- Only a call in the middle of its work takes a step that does not start one. -/
theorem attempt_of_step {state next : State} (continues : ∀ task sni, label ≠ .execute task sni)
    (taken : (machine settings).step state label = some next) :
    ∃ attempt, (state.phase label.task).attempt? = some attempt := by
  cases transition_of_step taken with
  | @execute task sni next fresh acquired => exact absurd rfl (continues task sni)
  | connectFails waiting | connectAdvances _ waiting | connectCompletes waiting
  | writeCompletes waiting | writeFails waiting | readCompletes waiting | readFails waiting =>
    exact ⟨_, congrArg Phase.attempt? waiting⟩

theorem Sequential.continue (sequential : Sequential observed) {next : State}
    (continues : ∀ task sni, label ≠ .execute task sni)
    (taken : (machine settings).step observed.1 label = some next) :
    Sequential (next, observed.2) := by
  obtain ⟨attempt, busy⟩ := attempt_of_step continues taken
  have latest := sequential.latest busy
  obtain ⟨shaped, once⟩ := shaped_of_step (sequential.shaped _ latest) (sequential.once _)
    continues taken
  rw [latest]
  refine sequential.advance ?_ (sequential.resting latest) shaped once
  intro other different
  exact step_other taken different

theorem Sequential.step (sequential : Sequential observed) (allowed : oneAtATime observed label)
    (taken : ((machine settings).observe noteStarted).step observed label = some after) :
    Sequential after := by
  obtain ⟨moved, noted⟩ := Machine.observe_step taken
  obtain ⟨next, latest⟩ := after
  subst noted
  cases label with
  | execute task sni => exact sequential.execute allowed moved
  | connectStep | write | read => exact sequential.continue (by simp) moved

theorem Sequential.reachable
    (reached : ((machine settings).observe noteStarted).Reachable oneAtATime
      (HttpClient.initial, none) observed) :
    Sequential observed :=
  reached.invariant .initial fun sequential => sequential.step

theorem Sequential.pool_length (sequential : Sequential observed) :
    observed.1.pool.length ≤ 1 := by
  have settled {pool : List Slot} (rest : Settled pool) : pool.length ≤ 1 := by
    rcases rest with rfl | ⟨id, rfl⟩ <;> simp
  cases latest : observed.2 with
  | none => simp [sequential.unused latest]
  | some task =>
    have shaped := sequential.shaped task latest
    cases place : observed.1.phase task <;> rw [place] at shaped
    case connecting =>
      obtain ⟨-, -, -, single⟩ := shaped
      simp [single]
    case writing | reading =>
      obtain ⟨-, -, id, -, single⟩ := shaped
      simp [single]
    all_goals exact settled shaped

theorem Phase.Once.le_one {writes : Nat} {phase : Phase} (once : phase.Once writes) :
    writes ≤ 1 := by
  cases phase <;> simp only [Phase.Once] at once <;> omega

/-- The operations of a request, of which each may fail. -/
def Label.requestFailure? : Label → Option (Nat × Failure)
  | .write task (.error failure) _ | .read task (.error failure) _ => some (task, failure)
  | _ => none

theorem Sequential.failure_final (sequential : Sequential observed) {task : Nat}
    {failure : Failure} {next : State} (fails : label.requestFailure? = some (task, failure))
    (taken : (machine settings).step observed.1 label = some next) :
    ∃ error, next.phase task = .failed error := by
  have continues : ∀ task sni, label ≠ .execute task sni := by
    rintro task sni rfl
    cases fails
  obtain ⟨attempt, busy⟩ := attempt_of_step continues taken
  have shaped := sequential.shaped _ (sequential.latest busy)
  cases transition_of_step taken with
  | writeFails waiting | readFails waiting =>
    cases fails
    simp only [Label.task, waiting, PoolFor] at shaped
    obtain ⟨-, rfl, -⟩ := shaped
    obtain ⟨error, failed⟩ := requestFails_final failure _
    exact ⟨error, by rw [failed]; exact Function.update_self _ _ _⟩
  | _ => cases fails

/-- While no call is started before the one before it has ended, the client has one
connection at most, no call writes its request a second time, and a call whose request fails
ends with the error, also where the connection was an idle one that the server had closed. -/
theorem sequential_calls_not_retried
    (reached : ((machine settings).observe noteStarted).Reachable oneAtATime (initial, none)
      observed) :
    observed.1.pool.length ≤ 1 ∧
      (∀ task, writesOf observed.1 task ≤ 1) ∧
      ∀ {label task failure next}, label.requestFailure? = some (task, failure) →
        (machine settings).step observed.1 label = some next →
          ∃ error, next.phase task = .failed error := by
  have sequential := Sequential.reachable reached
  exact ⟨sequential.pool_length, fun task => (sequential.once task).le_one,
    sequential.failure_final⟩

/-- The second call finds the connection of the first one, which the server has closed since,
and writes its request to it: the reset that its read reports is the end of the call. -/
theorem sequential_calls_not_retried_reused :
    ∃ observed : State × Option Nat,
      ((machine orderClient).observe noteStarted).Reachable oneAtATime (initial, none) observed ∧
      (writesOf observed.1 1 = 1 ∧ observed.1.next = 1) ∧
      observed.1.pool.length ≤ 1 ∧
      ∀ {next}, (machine orderClient).step observed.1 (.read 1 (.error (.system "reset")) true) =
        some next → ∃ error, next.phase 1 = .failed error := by
  have reading : ∃ observed : State × Option Nat,
      ((machine orderClient).observe noteStarted).Reachable oneAtATime (initial, none) observed ∧
      (writesOf observed.1 1 = 1 ∧ observed.1.next = 1) :=
    Machine.exists_reachable_of_run
      ([.execute 0 true] ++ connect 0 ++ [.write 0 (.ok ()) true,
        .read 0 (.ok ⟨11, 200, [], ""⟩) true, .execute 1 true, .write 1 (.ok ()) true]) (by decide)
  obtain ⟨observed, reached, written⟩ := reading
  obtain ⟨few, -, final⟩ := sequential_calls_not_retried reached
  exact ⟨observed, reached, written, few, final rfl⟩

end Bintrade.Rest.HttpClient
