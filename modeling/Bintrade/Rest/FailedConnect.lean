import Bintrade.Rest.PoolIdentity
import Bintrade.Rest.PoolOwnership

/-! What a `do_connect` that throws leaves in the pool. A connection that the call appended
is removed by `pop_back`, wherever it stands by then; one that was idle before stays. -/

namespace Bintrade.Rest.HttpClient

open Bintrade.System Bintrade.Core

/-- A `do_connect` that throws: in which state, in which call, on which connection, and
whether the call created that connection. -/
structure Thrown where
  state : State
  task : Nat
  slot : Nat
  created : Bool

def thrownBy (task : Nat) (state : State) : Option Thrown :=
  match state.phase task with
  | .connecting _ slot _ created _ => some ⟨state, task, slot, created⟩
  | _ => none

/-- The `do_connect` that throws in a step. Where the SNI host name cannot be set, it throws
in the state that the step leaves where it can. -/
def thrown? (settings : Settings) (state : State) : Label → Option Thrown
  | .connectStep task (.error _) => thrownBy task state
  | .execute task false => (step settings state (.execute task true)).bind (thrownBy task)
  | .write task outcome false =>
    (step settings state (.write task outcome true)).bind (thrownBy task)
  | .read task outcome false => (step settings state (.read task outcome true)).bind (thrownBy task)
  | _ => none

/-- The call reserved the connection, or runs its request on it. -/
def Phase.Holds (phase : Phase) (id : Nat) : Prop :=
  phase.slot? = some id ∨ ∃ reserved, phase.held? = some (some id, reserved)

def State.IsHeld (state : State) (id : Nat) : Prop := ∃ task, (state.phase task).Holds id

/-- The handler removes the connection of its own call and no other, and no connection in
use loses its holder. -/
structure RemovesOwn (thrown : Thrown) (after : State) : Prop where
  present : ∃ own ∈ thrown.state.pool, own.id = thrown.slot
  removed : after.pool = thrown.state.pool.eraseP fun slot => slot.id = thrown.slot
  held : ∀ slot ∈ after.pool, slot.inUse = true → thrown.state.IsHeld slot.id →
    after.IsHeld slot.id

/-- The call created the connection, and it is the last of the pool. -/
def Thrown.ownLast (thrown : Thrown) : Bool :=
  thrown.created && thrown.state.pool.getLast?.map Slot.id = some thrown.slot

section Handler

variable {settings : Settings} {state after : State} {task attempt : Nat} {thrown : Thrown}

theorem thrownBy_eq_some (found : thrownBy task state = some thrown) :
    thrown.state = state ∧ thrown.task = task ∧
      ∃ attempt position stage, state.phase task =
        .connecting attempt thrown.slot position thrown.created stage := by
  unfold thrownBy at found
  split at found
  · rename_i waiting
    cases found
    exact ⟨rfl, rfl, _, _, _, waiting⟩
  · cases found

theorem thrownBy_self (found : thrownBy task state = some thrown) :
    thrownBy thrown.task thrown.state = some thrown := by
  obtain ⟨sameState, sameTask, -⟩ := thrownBy_eq_some found
  rw [sameState, sameTask]
  exact found

theorem startConnect_throws {slot position : Nat} {created : Bool}
    (found : thrownBy task (startConnect state task attempt slot position created true) =
      some thrown) :
    ∃ error, startConnect state task attempt slot position created false =
      connectFails thrown.state thrown.task thrown.created error := by
  simp only [thrownBy, startConnect, State.setPhase, if_true, Function.update_self,
    Option.some.injEq] at found
  subst found
  refine ⟨.network "Failed to set SNI hostname", ?_⟩
  simp [startConnect, connectFails, State.setPhase, State.setPool]

theorem acquire_throws (found : thrownBy task (acquire state task attempt true) = some thrown) :
    ∃ error, acquire state task attempt false =
      connectFails thrown.state thrown.task thrown.created error := by
  unfold acquire at found ⊢
  cases connected : state.pool.find? idleConnected with
  | some slot =>
    rw [connected] at found
    simp [thrownBy, startRequest, State.setPhase] at found
  | none =>
    rw [connected] at found
    cases unconnected : state.pool.find? idleUnconnected with
    | some slot =>
      rw [unconnected] at found
      exact startConnect_throws found
    | none =>
      rw [unconnected] at found
      exact startConnect_throws found

theorem requestFails_throws {poolSize : Nat} {conn : Option Nat} {wasPreconnected : Bool}
    {failure : Failure}
    (found : thrownBy task
      (requestFails poolSize state task attempt conn wasPreconnected failure true) = some thrown) :
    ∃ error, requestFails poolSize state task attempt conn wasPreconnected failure false =
      connectFails thrown.state thrown.task thrown.created error := by
  unfold requestFails at found ⊢
  cases failure with
  | standard message => simp [thrownBy, State.setPhase] at found
  | system message =>
    simp only at found ⊢
    by_cases last : (!wasPreconnected || decide (attempt + 1 = maxAttempts)) = true
    · rw [if_pos last] at found
      simp [thrownBy, State.setPhase] at found
    · rw [if_neg last] at found ⊢
      exact acquire_throws found

/-- Whenever a `do_connect` throws, `connectFails` is what follows. -/
theorem step_throws {label : Label} (taken : (machine settings).step state label = some after)
    (found : thrown? settings state label = some thrown) :
    ∃ error, after = connectFails thrown.state thrown.task thrown.created error := by
  cases label with
  | connectStep task outcome =>
    cases outcome with
    | ok _ => cases found
    | error message =>
      obtain ⟨sameState, sameTask, attempt, position, stage, waiting⟩ := thrownBy_eq_some found
      simp only [machine, step, waiting] at taken
      cases taken
      rw [sameState, sameTask]
      exact ⟨_, rfl⟩
  | execute task sni =>
    cases sni with
    | true => cases found
    | false =>
      obtain ⟨middle, moved, thrown⟩ := Option.bind_eq_some_iff.mp found
      cases located : state.phase task with
      | notStarted =>
        simp only [machine, step, located] at moved taken
        cases moved
        cases taken
        exact acquire_throws thrown
      | _ =>
        simp only [machine, step, located] at taken
        cases taken
  | write task outcome sni =>
    cases sni with
    | true => cases outcome <;> cases found
    | false =>
      obtain ⟨middle, moved, thrown⟩ := Option.bind_eq_some_iff.mp found
      cases located : state.phase task with
      | writing attempt conn reserved wasPreconnected =>
        cases outcome with
        | ok _ =>
          simp only [step, located] at moved
          cases moved
          simp [thrownBy, State.setPhase] at thrown
        | error failure =>
          simp only [machine, step, located] at moved taken
          cases moved
          cases taken
          exact requestFails_throws thrown
      | _ =>
        simp only [machine, step, located] at taken
        cases taken
  | read task outcome sni =>
    cases sni with
    | true => cases outcome <;> cases found
    | false =>
      obtain ⟨middle, moved, thrown⟩ := Option.bind_eq_some_iff.mp found
      cases located : state.phase task with
      | reading attempt conn reserved wasPreconnected =>
        cases outcome with
        | ok raw =>
          simp only [step, located] at moved
          cases moved
          simp [thrownBy, State.setPhase] at thrown
        | error failure =>
          simp only [machine, step, located] at moved taken
          cases moved
          cases taken
          exact requestFails_throws thrown
      | _ =>
        simp only [machine, step, located] at taken
        cases taken

/-- The state that a `do_connect` throws in is the state itself, or one step away. -/
theorem thrown_reached {label : Label} (found : thrown? settings state label = some thrown) :
    thrownBy thrown.task thrown.state = some thrown ∧
      (thrown.state = state ∨
        ∃ working, (machine settings).step state working = some thrown.state) := by
  have started {working : Label} {task : Nat}
      (bound : (step settings state working).bind (thrownBy task) = some thrown) :
      thrownBy thrown.task thrown.state = some thrown ∧
        ∃ working, (machine settings).step state working = some thrown.state := by
    obtain ⟨middle, moved, thrown⟩ := Option.bind_eq_some_iff.mp bound
    obtain ⟨sameState, -⟩ := thrownBy_eq_some thrown
    exact ⟨thrownBy_self thrown, working, by rw [sameState]; exact moved⟩
  unfold thrown? at found
  split at found
  · exact ⟨thrownBy_self found, .inl (thrownBy_eq_some found).1⟩
  · exact ⟨(started found).1, .inr (started found).2⟩
  · exact ⟨(started found).1, .inr (started found).2⟩
  · exact ⟨(started found).1, .inr (started found).2⟩
  · cases found

/-- A call that connects holds its own connection only. -/
theorem eq_of_holds_connecting {attempt slot position id : Nat} {created : Bool} {stage : Stage}
    (holds : (Phase.connecting attempt slot position created stage).Holds id) : id = slot := by
  rcases holds with same | ⟨reserved, impossible⟩
  · cases same
    rfl
  · cases impossible

/-- Other calls keep what they hold. -/
theorem isHeld_connectFails {id : Nat}
    (thrownHere : thrownBy thrown.task thrown.state = some thrown)
    (other : id ≠ thrown.slot) (held : thrown.state.IsHeld id) (error : Exception) :
    (connectFails thrown.state thrown.task thrown.created error).IsHeld id := by
  obtain ⟨-, -, attempt, position, stage, waiting⟩ := thrownBy_eq_some thrownHere
  obtain ⟨holder, holds⟩ := held
  refine ⟨holder, ?_⟩
  by_cases same : holder = thrown.task
  · rw [same, waiting] at holds
    exact absurd (eq_of_holds_connecting holds) other
  · rw [connectFails, State.setPhase]
    simp only [Function.update_of_ne same]
    exact holds

theorem RemovesOwn.not_mem (removes : RemovesOwn thrown after)
    (distinct : (thrown.state.pool.map Slot.id).Nodup) :
    ∀ slot ∈ after.pool, slot.id ≠ thrown.slot := by
  rw [removes.removed]
  exact not_mem_eraseP distinct (by simp)

/-- A slot that the handler removes is the last one, and was created for this call. -/
theorem ownLast_of_lost {own : Slot} {error : Exception} (present : own ∈ thrown.state.pool)
    (same : own.id = thrown.slot)
    (lost : own ∉ (connectFails thrown.state thrown.task thrown.created error).pool) :
    thrown.created = true ∧ thrown.state.pool.getLast?.map Slot.id = some thrown.slot := by
  cases created : thrown.created with
  | false =>
    rw [created] at lost
    exact absurd present lost
  | true =>
    rw [created] at lost
    refine ⟨rfl, ?_⟩
    cases final : thrown.state.pool.getLast? with
    | none =>
      rw [List.getLast?_eq_none_iff.mp final] at present
      cases present
    | some last =>
      obtain ⟨earlier, split⟩ := List.getLast?_eq_some_iff.mp final
      have others : own ∉ earlier := by
        simpa [connectFails, State.setPool, State.setPhase, split] using lost
      rw [split] at present
      rcases List.mem_append.mp present with early | atEnd
      · exact absurd early others
      · rw [List.mem_singleton.mp atEnd] at same
        rw [Option.map_some, same]

/-- With distinct slots, removing the last one is removing the one with its id. -/
theorem pool_connectFails {earlier : List Slot} {own : Slot}
    (distinct : (thrown.state.pool.map Slot.id).Nodup) (created : thrown.created = true)
    (split : thrown.state.pool = earlier ++ [own]) (same : own.id = thrown.slot)
    (error : Exception) :
    (connectFails thrown.state thrown.task thrown.created error).pool =
      thrown.state.pool.eraseP fun slot => slot.id = thrown.slot := by
  have others : ∀ slot ∈ earlier, ¬ decide (slot.id = thrown.slot) = true := by
    intro slot member
    rw [split, List.map_append, List.nodup_append] at distinct
    have apart := distinct.2.2 slot.id (List.mem_map_of_mem member) own.id (by simp)
    simpa [← same] using apart
  simp only [connectFails, State.setPool, State.setPhase, created, if_true]
  rw [split, List.dropLast_concat, List.eraseP_append_right _ others,
    List.eraseP_cons_of_pos (by simpa using same), List.append_nil]

theorem connectFails_removesOwn_iff (distinct : (thrown.state.pool.map Slot.id).Nodup)
    (thrownHere : thrownBy thrown.task thrown.state = some thrown) (error : Exception) :
    RemovesOwn thrown (connectFails thrown.state thrown.task thrown.created error) ↔
      thrown.ownLast = true := by
  unfold Thrown.ownLast
  rw [Bool.and_eq_true, decide_eq_true_eq]
  constructor
  · intro removes
    obtain ⟨own, present, same⟩ := removes.present
    have lost : own ∉ (connectFails thrown.state thrown.task thrown.created error).pool := by
      intro still
      exact removes.not_mem distinct own still same
    exact ownLast_of_lost present same lost
  · rintro ⟨created, last⟩
    obtain ⟨own, final, same⟩ := Option.map_eq_some_iff.mp last
    obtain ⟨earlier, split⟩ := List.getLast?_eq_some_iff.mp final
    have present : own ∈ thrown.state.pool := by
      rw [split]
      exact List.mem_append_right _ (List.mem_singleton_self own)
    have removed := pool_connectFails distinct created split same error
    refine ⟨⟨own, present, same⟩, removed, ?_⟩
    intro slot member _ held
    rw [removed] at member
    exact isHeld_connectFails thrownHere (not_mem_eraseP distinct (by simp) slot member) held error

end Handler

/-- Every `do_connect` that threw, with the state its handler left. -/
def noteThrown (settings : Settings) (state : State) (label : Label)
    (log : List (Thrown × State)) : List (Thrown × State) :=
  match thrown? settings state label, step settings state label with
  | some thrown, some after => log ++ [(thrown, after)]
  | _, _ => log

/-- A `do_connect` throws only on a connection that its call created and that is the last
of the pool. -/
def throwsLast (settings : Settings) (observed : State × List (Thrown × State)) (label : Label) :
    Prop :=
  (thrown? settings observed.1 label).all Thrown.ownLast = true

instance (settings : Settings) (observed : State × List (Thrown × State)) (label : Label) :
    Decidable (throwsLast settings observed label) :=
  inferInstanceAs (Decidable (_ = true))

/-- Some handler has removed another connection than its own, or none. -/
def Mishandled (observed : State × List (Thrown × State)) : Prop :=
  ∃ handled ∈ observed.2, ¬ RemovesOwn handled.1 handled.2

section Runs

variable {settings : Settings} {start state : State} {before after : State × List (Thrown × State)}
  {label : Label}

theorem thrown_distinct {thrown : Thrown} (identified : Identified state.next state.pool)
    (found : thrown? settings state label = some thrown) :
    (thrown.state.pool.map Slot.id).Nodup := by
  rcases (thrown_reached found).2 with same | ⟨working, moved⟩
  · rw [same]
    exact identified.distinct
  · exact (identified.step moved).distinct

theorem mishandled_step (identified : Identified before.1.next before.1.pool)
    (taken : ((machine settings).observe (noteThrown settings)).step before label = some after) :
    Mishandled after ↔ Mishandled before ∨ ¬ throwsLast settings before label := by
  obtain ⟨moved, noted⟩ := Machine.observe_step taken
  unfold Mishandled throwsLast
  cases found : thrown? settings before.1 label with
  | none =>
    rw [noted, noteThrown, found]
    simp
  | some thrown =>
    have moved : step settings before.1 label = some after.1 := moved
    have handled : after.2 = before.2 ++ [(thrown, after.1)] := by
      rw [noted, noteThrown, found, moved]
    obtain ⟨error, left⟩ := step_throws moved found
    have decided : RemovesOwn thrown after.1 ↔ thrown.ownLast = true := by
      rw [left]
      exact connectFails_removesOwn_iff (thrown_distinct identified found)
        (thrown_reached found).1 error
    simp [handled, decided, or_and_right, exists_or]

end Runs

/-- In every run from a pool of distinct connections, each handler of a failed connect
removes exactly its own connection if and only if each of them finds it at the end of the
pool, where its call appended it. -/
theorem failed_connect_removes_own_iff {settings : Settings} {start state : State}
    {log : List (Thrown × State)} (identified : Identified start.next start.pool)
    (reached : ((machine settings).observe (noteThrown settings)).Reachable Machine.anyStep
      (start, []) (state, log)) :
    (∀ handled ∈ log, RemovesOwn handled.1 handled.2) ↔
      ((machine settings).observe (noteThrown settings)).Reachable (throwsLast settings)
        (start, []) (state, log) := by
  have sound : (∀ handled ∈ log, RemovesOwn handled.1 handled.2) ↔ ¬ Mishandled (state, log) := by
    simp [Mishandled]
  rw [sound]
  apply reached.good_iff
  · rintro ⟨handled, impossible, -⟩
    cases impossible
  · intro before after label earlier taken
    exact mishandled_step (identified.reachable earlier.unobserved) taken

/-- What a handler saw and left, by identities. -/
def summary (handled : Thrown × State) : Nat × List Nat × List Nat :=
  (handled.1.slot, handled.1.state.pool.map Slot.id, handled.2.pool.map Slot.id)

/-- The only call fails to connect, and the pool is empty again. -/
theorem failed_connect_alone :
    ∃ state log, ((machine orderClient).observe (noteThrown orderClient)).Reachable
        (throwsLast orderClient) (initial, []) (state, log) ∧
      log.map summary = [(0, [0], [])] ∧ ∀ handled ∈ log, RemovesOwn handled.1 handled.2 := by
  obtain ⟨⟨state, log⟩, reached, seen⟩ : ∃ observed : State × List (Thrown × State),
      ((machine orderClient).observe (noteThrown orderClient)).Reachable (throwsLast orderClient)
          (initial, []) observed ∧ observed.2.map summary = [(0, [0], [])] :=
    Machine.exists_reachable_of_run
      [.execute 0 true, .connectStep 0 (.error "Host not found")] (by decide)
  refine ⟨state, log, reached, seen, ?_⟩
  exact (failed_connect_removes_own_iff Identified.initial reached.free).mpr reached

/-- Two calls connect at the same time. The first one fails, and removes the connection of
the second. -/
theorem failed_connect_removes_other :
    ∃ state log, ((machine orderClient).observe (noteThrown orderClient)).Reachable
        Machine.anyStep (initial, []) (state, log) ∧
      log.map summary = [(0, [0, 1], [0])] ∧ ¬ ∀ handled ∈ log, RemovesOwn handled.1 handled.2 := by
  obtain ⟨⟨state, log⟩, reached, seen⟩ : ∃ observed : State × List (Thrown × State),
      ((machine orderClient).observe (noteThrown orderClient)).Reachable Machine.anyStep
          (initial, []) observed ∧ observed.2.map summary = [(0, [0, 1], [0])] :=
    Machine.exists_reachable_of_run
      [.execute 0 true, .execute 1 true, .connectStep 0 (.error "Host not found")] (by decide)
  refine ⟨state, log, reached, seen, ?_⟩
  intro clean
  obtain ⟨handled, only, saw⟩ := List.map_eq_singleton_iff.mp seen
  rw [summary, Prod.mk.injEq, Prod.mk.injEq] at saw
  obtain ⟨own, ids, left⟩ := saw
  have only : log = [handled] := only
  have removes := clean handled (by rw [only]; exact List.mem_singleton_self handled)
  obtain ⟨slot, member, same⟩ : ∃ slot ∈ handled.2.pool, slot.id = 0 :=
    List.mem_map.mp (by rw [left]; decide)
  exact removes.not_mem (by rw [ids]; decide) slot member (same.trans own.symm)

end Bintrade.Rest.HttpClient
