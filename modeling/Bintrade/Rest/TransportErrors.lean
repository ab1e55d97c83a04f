import Bintrade.Rest.PoolIdentity
import Bintrade.Rest.PoolOwnership
import Bintrade.Rest.Submission

/-! How a transport failure leaves `execute`. The write and the read of a request are inside
its `try` block; `acquire_connection`, and with it `do_connect`, is not. -/

namespace Bintrade.Rest.HttpClient

open Bintrade.System Bintrade.Core

/-- The connection on which a transport step fails. -/
def failedOn (state : State) : Label → Option (Option Nat)
  | .connectStep task (.error _) => (state.phase task).slot?.map some
  | .write task (.error _) _ => (state.phase task).held?.map Prod.fst
  | .read task (.error _) _ => (state.phase task).held?.map Prod.fst
  | _ => none

/-- The connections on which transport steps of one call failed. -/
def noteFailure (task : Nat) (state : State) (label : Label) (failed : List (Option Nat)) :
    List (Option Nat) :=
  if label.task = task then failed ++ (failedOn state label).toList else failed

/-- If a transport step of the call failed and an exception has left `execute`, it is a
`NetworkException`; and no connection on which one failed is in the pool. -/
structure Surfaces (task : Nat) (state : State) (failed : List (Option Nat)) : Prop where
  network : failed ≠ [] → ∀ error, state.phase task = .failed error →
    ∃ message, error = .network message
  removed : ∀ id, some id ∈ failed → ∀ slot ∈ state.pool, slot.id ≠ id

/-- No step of a `do_connect` of the call fails. -/
def insideTry (task : Nat) : Label → Bool
  | .connectStep actor (.error _) => actor ≠ task
  | _ => true

def failsInRequest (task : Nat) (_ : State × List (Option Nat)) (label : Label) : Prop :=
  insideTry task label = true

instance (task : Nat) (observed : State × List (Option Nat)) (label : Label) :
    Decidable (failsInRequest task observed label) :=
  inferInstanceAs (Decidable (_ = true))

/-- A `boost::system::system_error` has left `execute`. -/
def LeftRaw (task : Nat) (observed : State × List (Option Nat)) : Prop :=
  ∃ message, observed.1.phase task = .failed (.system message)

/-- What is known of one call and of the connections on which it failed. -/
structure Followed (task : Nat) (observed : State × List (Option Nat)) : Prop where
  identified : Identified observed.1.next observed.1.pool
  known : ∀ id reserved, (observed.1.phase task).held? = some (some id, reserved) →
    id < observed.1.next
  ended : ∀ error, observed.1.phase task = .failed error →
    (∃ message, error = .network message) ∨ LeftRaw task observed
  failure : LeftRaw task observed → observed.2 ≠ []
  gone : ¬ LeftRaw task observed → ∀ id, some id ∈ observed.2 → Gone observed.1 id

theorem Followed.surfaces_iff {task : Nat} {observed : State × List (Option Nat)}
    (followed : Followed task observed) :
    Surfaces task observed.1 observed.2 ↔ ¬ LeftRaw task observed := by
  constructor
  · intro surfaces raw
    obtain ⟨text, left⟩ := raw
    obtain ⟨message, impossible⟩ := surfaces.network (followed.failure ⟨text, left⟩) _ left
    cases impossible
  · intro wrapped
    refine ⟨?_, ?_⟩
    · intro _ error left
      exact (followed.ended error left).resolve_right wrapped
    · intro id failed
      exact (followed.gone wrapped id failed).absent

section Attempts

variable {state after : State} {task attempt : Nat} {sni : Bool}

/-- A call that acquires a connection holds one of the pool, and if it has failed, the SNI
host name could not be set. -/
structure Wrapped (task : Nat) (state : State) : Prop where
  known : ∀ id reserved, (state.phase task).held? = some (some id, reserved) → id < state.next
  network : ∀ error, state.phase task = .failed error → ∃ message, error = .network message

theorem Wrapped.setPhase_failed (state : State) (task : Nat) (message : String) :
    Wrapped task (state.setPhase task (.failed (.network message))) := by
  refine ⟨?_, ?_⟩
  · intro id reserved holds
    simp [State.setPhase, Phase.held?] at holds
  · intro error left
    simp only [State.setPhase, Function.update_self, Phase.failed.injEq] at left
    exact ⟨message, left.symm⟩

theorem Wrapped.startConnect (state : State) (task attempt slot position : Nat)
    (created sni : Bool) :
    Wrapped task (startConnect state task attempt slot position created sni) := by
  cases sni with
  | false => exact Wrapped.setPhase_failed _ task _
  | true =>
    refine ⟨?_, ?_⟩
    · intro id reserved holds
      simp [HttpClient.startConnect, State.setPhase, Phase.held?] at holds
    · intro error left
      simp [HttpClient.startConnect, State.setPhase] at left

theorem Wrapped.startRequest {conn : Option Nat} {reserved : Nat}
    (known : ∀ id, conn = some id → id < state.next) :
    Wrapped task (startRequest state task attempt conn reserved) := by
  refine ⟨?_, ?_⟩
  · intro id other holds
    simp only [HttpClient.startRequest, State.setPhase, Function.update_self, Phase.held?,
      Option.some.injEq, Prod.mk.injEq] at holds
    exact known id holds.1
  · intro error left
    simp [HttpClient.startRequest, State.setPhase] at left

theorem Wrapped.acquire (identified : Identified state.next state.pool) (task attempt : Nat)
    (sni : Bool) : Wrapped task (acquire state task attempt sni) := by
  unfold HttpClient.acquire
  cases connected : state.pool.find? idleConnected with
  | some slot =>
    apply Wrapped.startRequest
    intro id same
    cases same
    exact identified.fresh slot (List.mem_of_find?_eq_some connected)
  | none =>
    cases unconnected : state.pool.find? idleUnconnected with
    | some slot => exact Wrapped.startConnect _ task attempt _ _ false sni
    | none => exact Wrapped.startConnect _ task attempt _ _ true sni

theorem Wrapped.caught {wasPreconnected : Bool} {failure : Failure}
    (identified : Identified state.next state.pool)
    (caught : Caught state task attempt wasPreconnected sni failure after) :
    Wrapped task after := by
  cases caught with
  | ended message final => exact Wrapped.setPhase_failed state task message
  | retried again more => exact Wrapped.acquire identified task (attempt + 1) sni

theorem Wrapped.requestFails (identified : Identified state.next state.pool) (poolSize : Nat)
    (task attempt : Nat) (conn : Option Nat) (wasPreconnected : Bool) (failure : Failure)
    (sni : Bool) :
    Wrapped task
      (requestFails poolSize state task attempt conn wasPreconnected failure sni) := by
  have released : Identified state.next (releaseConnection poolSize state.pool conn false) :=
    identified.of_ids (release_sublist poolSize state.pool conn false)
  exact Wrapped.caught released
    (HttpClient.caught poolSize state task attempt conn wasPreconnected failure sni)

/-- The connection of a failed request has left the pool for good. -/
theorem requestFails_gone {id : Nat} (distinct : (state.pool.map Slot.id).Nodup)
    (known : id < state.next) (poolSize : Nat) (task attempt : Nat) (wasPreconnected : Bool)
    (failure : Failure) (sni : Bool) :
    Gone (requestFails poolSize state task attempt (some id) wasPreconnected failure sni) id := by
  have released : Gone ((state.setPool (releaseConnection poolSize state.pool (some id)
      false)).record task (.broke failure)) id :=
    ⟨known, not_mem_release distinct poolSize id⟩
  exact released.evolve
    (caught poolSize state task attempt (some id) wasPreconnected failure sni).evolves

end Attempts

section Steps

variable {settings : Settings} {task : Nat} {state after : State} {label : Label}

/-- Apart from a failing `do_connect`, a step of a call leaves it with a connection of the
pool, or ended with a `NetworkException`. -/
theorem Wrapped.step (identified : Identified state.next state.pool)
    (known : ∀ id reserved, (state.phase task).held? = some (some id, reserved) → id < state.next)
    (own : label.task = task) (inside : insideTry task label = true)
    (taken : (machine settings).step state label = some after) : Wrapped task after := by
  cases label with
  | execute actor sni =>
    obtain rfl : actor = task := own
    simp only [machine, HttpClient.step] at taken
    split at taken <;> cases taken
    exact Wrapped.acquire identified actor 0 sni
  | connectStep actor outcome =>
    obtain rfl : actor = task := own
    cases transition_of_step taken with
    | connectFails waiting => simp [insideTry] at inside
    | connectAdvances later waiting =>
      refine ⟨?_, ?_⟩
      · intro id reserved holds
        simp [State.setPhase, Phase.held?] at holds
      · intro error left
        simp [State.setPhase] at left
    | @connectCompletes _ attempt slot position created waiting =>
      apply Wrapped.startRequest
      intro id there
      obtain ⟨other, found, same⟩ := Option.map_eq_some_iff.mp there
      have connected := identified.of_ids (onSlot_sublist state.pool slot
        (fun slot => { slot with connected := true }) fun _ => rfl)
      rw [← same]
      exact connected.fresh other (List.mem_of_getElem? found)
  | write actor outcome sni =>
    obtain rfl : actor = task := own
    cases transition_of_step taken with
    | writeCompletes waiting =>
      rw [waiting] at known
      refine ⟨?_, ?_⟩
      · intro id reserved holds
        simp only [State.setPhase, Function.update_self] at holds
        exact known id reserved holds
      · intro error left
        simp [State.setPhase] at left
    | writeFails waiting => exact Wrapped.requestFails identified _ _ _ _ _ _ _
  | read actor outcome sni =>
    obtain rfl : actor = task := own
    cases transition_of_step taken with
    | readCompletes waiting =>
      refine ⟨?_, ?_⟩
      · intro id reserved holds
        simp [State.setPhase, Phase.held?] at holds
      · intro error left
        simp [State.setPhase] at left
    | readFails waiting => exact Wrapped.requestFails identified _ _ _ _ _ _ _

/-- The connection of a call on which a step inside the `try` block fails is gone. -/
theorem gone_of_failedOn {id : Nat} (identified : Identified state.next state.pool)
    (known : ∀ id reserved, (state.phase task).held? = some (some id, reserved) → id < state.next)
    (own : label.task = task) (inside : insideTry task label = true)
    (failed : failedOn state label = some (some id))
    (taken : (machine settings).step state label = some after) : Gone after id := by
  cases transition_of_step taken with
  | @connectFails actor attempt slot position created stage message waiting =>
    obtain rfl : actor = task := own
    simp [insideTry] at inside
  | @writeFails actor attempt conn reserved wasPreconnected sni failure waiting
  | @readFails actor attempt conn reserved wasPreconnected sni failure waiting =>
    obtain rfl : actor = task := own
    simp only [failedOn, waiting, Phase.held?, Option.map_some, Option.some.injEq] at failed
    subst failed
    rw [waiting] at known
    exact requestFails_gone identified.distinct (known id reserved rfl) _ _ _ _ _ _
  | execute | connectAdvances | connectCompletes | writeCompletes | readCompletes =>
    cases failed

/-- A `do_connect` that fails outside the `try` block ends the call with the exception of
the operation. -/
theorem leftRaw_of_outside (outside : ¬ insideTry task label = true)
    (taken : (machine settings).step state label = some after) :
    label.task = task ∧ failedOn state label ≠ none ∧
      ∃ message, after.phase task = .failed (.system message) := by
  cases transition_of_step taken with
  | @connectFails actor attempt slot position created stage message waiting =>
    obtain rfl : actor = task := by simpa [insideTry] using outside
    refine ⟨rfl, ?_, message, ?_⟩
    · simp [failedOn, waiting, Phase.slot?]
    · simp [connectFails, State.setPhase]
  | execute | connectAdvances | connectCompletes | writeCompletes | writeFails | readCompletes
  | readFails => exact absurd rfl outside

/-- A call that has failed takes no step. -/
theorem task_ne_of_failed {error : Exception} (ended : state.phase task = .failed error)
    (taken : (machine settings).step state label = some after) : task ≠ label.task := by
  rintro rfl
  cases label with
  | execute actor sni =>
    have ended : state.phase actor = .failed error := ended
    simp [machine, HttpClient.step, ended] at taken
  | connectStep actor outcome =>
    have ended : state.phase actor = .failed error := ended
    simp [machine, HttpClient.step, ended] at taken
  | write actor outcome sni | read actor outcome sni =>
    have ended : state.phase actor = .failed error := ended
    simp [machine, HttpClient.step, ended] at taken

end Steps

section Runs

variable {settings : Settings} {task : Nat} {label : Label}
  {before after : State × List (Option Nat)}

theorem mem_noteFailure {state : State} {failed : List (Option Nat)} {entry : Option Nat} :
    entry ∈ noteFailure task state label failed ↔
      entry ∈ failed ∨ label.task = task ∧ failedOn state label = some entry := by
  unfold noteFailure
  by_cases own : label.task = task
  · simp [own, Option.mem_toList]
  · simp [own]

theorem leftRaw_step (followed : Followed task before)
    (taken : ((machine settings).observe (noteFailure task)).step before label = some after) :
    LeftRaw task after ↔ LeftRaw task before ∨ ¬ failsInRequest task before label := by
  obtain ⟨moved, -⟩ := Machine.observe_step taken
  constructor
  · intro raw
    by_cases own : label.task = task
    · right
      intro inside
      obtain ⟨message, left⟩ := raw
      obtain ⟨text, impossible⟩ :=
        (Wrapped.step followed.identified followed.known own inside moved).network _ left
      cases impossible
    · left
      obtain ⟨message, left⟩ := raw
      rw [(step_other moved (Ne.symm own)).1] at left
      exact ⟨message, left⟩
  · rintro (⟨message, left⟩ | outside)
    · refine ⟨message, ?_⟩
      rw [(step_other moved (task_ne_of_failed left moved)).1]
      exact left
    · exact (leftRaw_of_outside outside moved).2.2

theorem Followed.step (followed : Followed task before)
    (taken : ((machine settings).observe (noteFailure task)).step before label = some after) :
    Followed task after := by
  obtain ⟨moved, noted⟩ := Machine.observe_step taken
  have raw := leftRaw_step followed taken
  refine ⟨followed.identified.step moved, ?_, ?_, ?_, ?_⟩
  · intro id reserved holds
    by_cases own : label.task = task
    · by_cases inside : insideTry task label = true
      · have wrapped := Wrapped.step followed.identified followed.known own inside moved
        exact wrapped.known id reserved holds
      · obtain ⟨-, -, message, left⟩ := leftRaw_of_outside inside moved
        rw [left] at holds
        cases holds
    · rw [(step_other moved (Ne.symm own)).1] at holds
      exact (followed.known id reserved holds).trans_le (evolves_of_step moved).next_le
  · intro error left
    by_cases own : label.task = task
    · by_cases inside : insideTry task label = true
      · have wrapped := Wrapped.step followed.identified followed.known own inside moved
        exact .inl (wrapped.network error left)
      · exact .inr (raw.mpr (.inr inside))
    · rw [(step_other moved (Ne.symm own)).1] at left
      exact (followed.ended error left).imp_right fun before => raw.mpr (.inl before)
  · intro rawAfter
    rw [noted]
    rcases raw.mp rawAfter with rawBefore | outside
    · obtain ⟨entry, failed⟩ := List.exists_mem_of_ne_nil _ (followed.failure rawBefore)
      exact List.ne_nil_of_mem (mem_noteFailure.mpr (.inl failed))
    · obtain ⟨own, failed, -⟩ := leftRaw_of_outside outside moved
      obtain ⟨entry, found⟩ := Option.ne_none_iff_exists'.mp failed
      exact List.ne_nil_of_mem (mem_noteFailure.mpr (.inr ⟨own, found⟩))
  · intro wrapped id failed
    obtain ⟨wrappedBefore, inside⟩ := not_or.mp (fun either => wrapped (raw.mpr either))
    rw [noted] at failed
    rcases mem_noteFailure.mp failed with old | ⟨own, new⟩
    · exact (followed.gone wrappedBefore id old).evolve (evolves_of_step moved)
    · exact gone_of_failedOn followed.identified followed.known own (not_not.mp inside) new moved

theorem Followed.reachable {start : State} (identified : Identified start.next start.pool)
    (fresh : start.phase task = .notStarted)
    (reached : ((machine settings).observe (noteFailure task)).Reachable Machine.anyStep
      (start, []) after) :
    Followed task after := by
  induction reached with
  | start =>
    refine ⟨identified, ?_, ?_, ?_, ?_⟩
    · intro id reserved holds
      rw [fresh] at holds
      cases holds
    · intro error left
      rw [fresh] at left
      cases left
    · rintro ⟨message, left⟩
      rw [fresh] at left
      cases left
    · intro _ id failed
      cases failed
  | next earlier _ taken ih => exact ih.step taken

end Runs

/-- In every run from a pool of distinct connections: every transport failure of a call has
surfaced as a `NetworkException`, with the connection removed, if and only if no `do_connect`
of the call has failed. -/
theorem transport_failures_surface_iff {settings : Settings} {start state : State} {task : Nat}
    {failed : List (Option Nat)} (identified : Identified start.next start.pool)
    (fresh : start.phase task = .notStarted)
    (reached : ((machine settings).observe (noteFailure task)).Reachable Machine.anyStep
      (start, []) (state, failed)) :
    Surfaces task state failed ↔
      ((machine settings).observe (noteFailure task)).Reachable (failsInRequest task)
        (start, []) (state, failed) := by
  have followed := Followed.reachable identified fresh reached
  rw [followed.surfaces_iff]
  apply reached.good_iff
  · rintro ⟨message, left⟩
    rw [fresh] at left
    cases left
  · intro before after label earlier taken
    exact leftRaw_step (Followed.reachable identified fresh earlier) taken

/-- A call whose connection breaks while it writes ends with a `NetworkException`, and the
pool is empty. -/
theorem write_failure_surfaces :
    ∃ state failed, ((machine orderClient).observe (noteFailure 0)).Reachable (failsInRequest 0)
        (initial, []) (state, failed) ∧
      failed = [some 0] ∧ Surfaces 0 state failed := by
  obtain ⟨⟨state, failed⟩, reached, only⟩ : ∃ observed : State × List (Option Nat),
      ((machine orderClient).observe (noteFailure 0)).Reachable (failsInRequest 0)
          (initial, []) observed ∧ observed.2 = [some 0] :=
    Machine.exists_reachable_of_run
      ([.execute 0 true] ++ connect 0 ++ [.write 0 (.error (.system "broken pipe")) true])
      (by decide)
  refine ⟨state, failed, reached, only, ?_⟩
  exact (transport_failures_surface_iff Identified.initial rfl reached.free).mpr reached

/-- The exception with which a call has ended. -/
def Phase.error? : Phase → Option Exception
  | .failed error => some error
  | _ => none

theorem Phase.error?_eq_some {phase : Phase} {error : Exception} :
    phase.error? = some error ↔ phase = .failed error := by
  cases phase <;> simp [Phase.error?]

/-- The host of the only call cannot be resolved, and the exception of the resolver leaves
`execute`. -/
theorem resolve_failure_left_raw :
    ∃ state failed, ((machine orderClient).observe (noteFailure 0)).Reachable Machine.anyStep
        (initial, []) (state, failed) ∧
      (failed = [some 0] ∧ (state.phase 0).error? = some (.system "Host not found")) ∧
        ¬ Surfaces 0 state failed := by
  obtain ⟨⟨state, failed⟩, reached, seen⟩ : ∃ observed : State × List (Option Nat),
      ((machine orderClient).observe (noteFailure 0)).Reachable Machine.anyStep
          (initial, []) observed ∧
        (observed.2 = [some 0] ∧
          (observed.1.phase 0).error? = some (.system "Host not found")) :=
    Machine.exists_reachable_of_run
      [.execute 0 true, .connectStep 0 (.error "Host not found")] (by decide)
  refine ⟨state, failed, reached, seen, ?_⟩
  intro surfaces
  have only : failed = [some 0] := seen.1
  have broken : failed ≠ [] := by
    rw [only]
    exact List.cons_ne_nil _ _
  obtain ⟨message, impossible⟩ := surfaces.network broken _ (Phase.error?_eq_some.mp seen.2)
  cases impossible

end Bintrade.Rest.HttpClient
