import Bintrade.System.Machine
import Bintrade.Ws.ListenKey

/-! The keep-alive thread of a `UserStream` and the signal by which `stop()` ends it.
The thread holds `keep_alive_mutex_` only while it looks at `stop_keep_alive_`: it
releases the mutex in its wait and around a renewal. -/

namespace Bintrade.Ws

open Bintrade.System Bintrade.Core Bintrade.Rest

/-- The key for which `keep_alive()` sends a request, if it does. -/
def renewedKey? (listenKey : String) : Option String :=
  if listenKey.isEmpty then none else some listenKey

def keepAlive (services : Services) (listenKey : String) : Except Exception Unit :=
  match renewedKey? listenKey with
  | none => pure ()
  | some listenKey => renewListenKey services listenKey

namespace KeepAlive

/-- Where the thread stands. It owns the mutex in `checking` only; an exception that
leaves the thread function calls `std::terminate`. -/
inductive Thread where
  | locking
  | checking
  | waiting (wakeup : Nat)
  | renewing
  | finished
  | terminated (error : Exception)

structure State where
  thread : Thread
  stopKeepAlive : Bool
  listenKey : String
  now : Nat

/-- 25 minutes in milliseconds. -/
def interval : Nat := 25 * 60 * 1000

/-- The thread that `start()` creates. -/
def initial (listenKey : String) (now : Nat) : State where
  thread := .locking
  stopKeepAlive := false
  listenKey := listenKey
  now := now

/-- A renewal brings its own network. -/
inductive Label where
  | lock
  | check
  | wake
  | renew (services : Services)
  | tick (elapsed : Nat)
  | signalStop

def step (state : State) : Label → Option State
  | .lock =>
    match state.thread with
    | .locking => some { state with thread := .checking }
    | _ => none
  | .check =>
    match state.thread with
    | .checking =>
      if state.stopKeepAlive then some { state with thread := .finished }
      else some { state with thread := .waiting (state.now + interval) }
    | _ => none
  | .wake =>
    match state.thread with
    | .waiting wakeup =>
      -- `wait_until` returns true once the flag is set, false at a timeout without it,
      -- and goes on waiting after any other wake-up.
      if state.stopKeepAlive then some { state with thread := .checking }
      else if wakeup ≤ state.now then some { state with thread := .renewing }
      else some state
    | _ => none
  | .renew services =>
    match state.thread with
    | .renewing =>
      match keepAlive services state.listenKey with
      | .ok () => some { state with thread := .locking }
      | .error error => some { state with thread := .terminated error }
    | _ => none
  | .tick elapsed =>
    match state.thread with
    | .terminated _ => none
    | _ => some { state with now := state.now + elapsed }
  | .signalStop =>
    match state.thread with
    | .checking | .terminated _ => none
    | _ => some { state with stopKeepAlive := true }

def machine : Machine State Label := ⟨step⟩

/-- A renewal without an exception: there is no key to renew, or the exchange answers
with a success, or with an error that carries a JSON body without `code` or `msg`. -/
def renewalReturns (services : Services) (listenKey : String) : Bool :=
  listenKey.isEmpty ||
    match services.execute (post ("/api/v3/userDataStream?listenKey=" ++ listenKey) "" .empty) with
    | .error _ => false
    | .ok response =>
      response.statusCode < 400 ||
        !response.body.isEmpty &&
          match services.parse response.body with
          | .error _ => false
          | .ok json => (json.member? "code").isNone || (json.member? "msg").isNone

def returning (state : State) : Label → Bool
  | .renew services => renewalReturns services state.listenKey
  | _ => true

/-- Runs in which every renewal returns. -/
def RenewalsReturn (state : State) (label : Label) : Prop := returning state label = true

instance (state : State) (label : Label) : Decidable (RenewalsReturn state label) :=
  inferInstanceAs (Decidable (_ = true))

/-- The steps that take the thread to its next wait, with the outcome of the renewal
on the way. -/
def round (state : State) (services : Services) : List Label :=
  match state.thread with
  | .locking => [.lock, .check]
  | .checking => [.check]
  | .waiting wakeup => [.tick (wakeup - state.now), .wake, .renew services, .lock, .check]
  | .renewing => [.renew services, .lock, .check]
  | .finished | .terminated _ => []

/-- The thread comes to its next wait of 25 minutes. -/
def WaitsAgain (state : State) (services : Services) : Prop :=
  ∃ after, machine.run Machine.anyStep state (round state services) = some after ∧
    after.thread = .waiting (after.now + interval)

/-- The process goes on, and so does the loop until it is told to stop. -/
def Survives (state : State) : Prop :=
  (∀ error, state.thread ≠ .terminated error) ∧
    (state.stopKeepAlive = false → ∀ services, renewalReturns services state.listenKey = true →
      WaitsAgain state services)

section Renewal

variable {services : Services} {listenKey : String}

theorem checkStatus_isOk {response : HttpResponse} :
    checkStatus services response = .ok () ↔
      response.statusCode < 400 ∨ ∃ json,
        parseResponse services.parse response.statusCode response.body = .ok json := by
  unfold checkStatus
  by_cases failed : 400 ≤ response.statusCode
  · rw [if_pos failed, bind_eq_ok, or_iff_right (by omega)]
    constructor
    · rintro ⟨json, parsed, -⟩
      exact ⟨json, parsed⟩
    · rintro ⟨json, parsed⟩
      exact ⟨json, parsed, rfl⟩
  · rw [if_neg failed]
    exact iff_of_true rfl (.inl (by omega))

theorem keepAlive_isOk :
    keepAlive services listenKey = .ok () ↔ renewalReturns services listenKey = true := by
  unfold keepAlive renewedKey? renewalReturns renewListenKey
  cases listenKey.isEmpty with
  | true => exact iff_of_true rfl rfl
  | false =>
    simp only [Bool.false_eq_true, if_false, Bool.false_or, bind_eq_ok, checkStatus_isOk]
    cases services.execute (post ("/api/v3/userDataStream?listenKey=" ++ listenKey) "" .empty) with
    | error error => simp
    | ok response =>
      simp only [Except.ok.injEq, exists_eq_left', Bool.or_eq_true, decide_eq_true_eq]
      by_cases failed : 400 ≤ response.statusCode
      · rw [parseResponse_isOk failed]
        cases services.parse response.body with
        | error error => simp
        | ok json => simp
      · exact iff_of_true (.inl (by omega)) (.inl (by omega))

end Renewal

section Steps

variable {before after : State} {label : Label}

/-- Nothing happens after `std::terminate`. -/
theorem not_terminated_of_step (taken : machine.step before label = some after)
    (error : Exception) : before.thread ≠ .terminated error := by
  intro ended
  cases label <;> simp [machine, step, ended] at taken

theorem step_renew {services : Services}
    (taken : machine.step before (.renew services) = some after) :
    before.thread = .renewing ∧
      (keepAlive services before.listenKey = .ok () ∧ after = { before with thread := .locking } ∨
        ∃ error, keepAlive services before.listenKey = .error error ∧
          after = { before with thread := .terminated error }) := by
  simp only [machine, step] at taken
  split at taken
  · rename_i renewing
    refine ⟨renewing, ?_⟩
    split at taken
    · rename_i returned
      cases taken
      exact .inl ⟨returned, rfl⟩
    · rename_i error thrown
      cases taken
      exact .inr ⟨error, thrown, rfl⟩
  · cases taken

/-- A process that goes on has seen its renewal return. -/
theorem renewalsReturn_of_step (taken : machine.step before label = some after)
    (alive : ∀ error, after.thread ≠ .terminated error) : RenewalsReturn before label := by
  cases label with
  | renew services =>
    rcases (step_renew taken).2 with ⟨returned, -⟩ | ⟨error, -, rfl⟩
    · exact keepAlive_isOk.mp returned
    · exact absurd rfl (alive error)
  | _ => rfl

/-- The thread has not been terminated, and has not ended on its own. -/
structure Alive (state : State) : Prop where
  running : ∀ error, state.thread ≠ .terminated error
  told : state.thread = .finished → state.stopKeepAlive = true

theorem alive_step (alive : Alive before) (allowed : RenewalsReturn before label)
    (taken : machine.step before label = some after) : Alive after := by
  cases label with
  | lock =>
    simp only [machine, step] at taken
    split at taken
    · cases taken
      exact ⟨nofun, nofun⟩
    · cases taken
  | check =>
    simp only [machine, step] at taken
    split at taken
    · split at taken
      · rename_i stopping
        cases taken
        exact ⟨nofun, fun _ => stopping⟩
      · cases taken
        exact ⟨nofun, nofun⟩
    · cases taken
  | wake =>
    simp only [machine, step] at taken
    split at taken
    · split at taken
      · cases taken
        exact ⟨nofun, nofun⟩
      · split at taken
        · cases taken
          exact ⟨nofun, nofun⟩
        · cases taken
          exact alive
    · cases taken
  | renew services =>
    rcases (step_renew taken).2 with ⟨-, rfl⟩ | ⟨error, thrown, -⟩
    · exact ⟨nofun, nofun⟩
    · rw [keepAlive_isOk.mpr allowed] at thrown
      cases thrown
  | tick elapsed =>
    simp only [machine, step] at taken
    split at taken
    · cases taken
    · cases taken
      exact ⟨alive.running, alive.told⟩
  | signalStop =>
    simp only [machine, step] at taken
    split at taken
    · cases taken
    · cases taken
    · cases taken
      exact ⟨alive.running, fun _ => rfl⟩

theorem waitsAgain_of_alive {state : State} {services : Services} (alive : Alive state)
    (looping : state.stopKeepAlive = false)
    (returned : renewalReturns services state.listenKey = true) : WaitsAgain state services := by
  have renewed := keepAlive_isOk.mpr returned
  obtain ⟨thread, stopKeepAlive, listenKey, now⟩ := state
  simp only at looping renewed
  subst looping
  cases thread with
  | locking => exact ⟨_, rfl, rfl⟩
  | checking => exact ⟨_, rfl, rfl⟩
  | waiting wakeup =>
    have timedOut : wakeup ≤ now + (wakeup - now) := by omega
    refine ⟨⟨.waiting (now + (wakeup - now) + interval), false, listenKey,
      now + (wakeup - now)⟩, ?_, rfl⟩
    simp [round, Machine.run, machine, step, Machine.anyStep, timedOut, renewed]
  | renewing =>
    refine ⟨⟨.waiting (now + interval), false, listenKey, now⟩, ?_, rfl⟩
    simp [round, Machine.run, machine, step, Machine.anyStep, renewed]
  | finished => cases alive.told rfl
  | terminated error => exact absurd rfl (alive.running error)

end Steps

/-- In any state of the keep-alive thread, the process goes on and the loop comes to its
next wait, exactly if every renewal so far returned. -/
theorem keep_alive_survives_iff (listenKey : String) (now : Nat) (state : State)
    (reached : machine.Reachable Machine.anyStep (initial listenKey now) state) :
    Survives state ↔ machine.Reachable RenewalsReturn (initial listenKey now) state := by
  constructor
  · rintro ⟨running, -⟩
    induction reached with
    | start => exact .start
    | next earlier allowed taken ih =>
      exact .next (ih (not_terminated_of_step taken)) (renewalsReturn_of_step taken running) taken
  · intro returned
    have alive : Alive state := returned.invariant ⟨nofun, nofun⟩ alive_step
    exact ⟨alive.running, fun looping services => waitsAgain_of_alive alive looping⟩

/-- A network that answers every request alike. -/
def answering (outcome : Except Exception HttpResponse) : Services where
  hmac _ _ := []
  layouts := ⟨.keep, .keep, .keep, .keep⟩
  clock := 0
  parse _ := .error .parseError
  stoi _ := .error .invalidArgument
  execute _ := outcome

def Thread.isWaiting : Thread → Bool
  | .waiting _ => true
  | _ => false

def Thread.isTerminated : Thread → Bool
  | .terminated _ => true
  | _ => false

/-- The first renewal of a thread. -/
def firstRenewal (outcome : Except Exception HttpResponse) : List Label :=
  [.lock, .check, .tick interval, .wake, .renew (answering outcome)]

/-- A thread that waits again after a renewal that the exchange accepted. -/
theorem survives_accepted_renewal :
    ∃ state, machine.Reachable Machine.anyStep (initial "key" 0) state ∧
      state.thread.isWaiting = true ∧ interval ≤ state.now ∧ Survives state := by
  have waiting : ∃ state, machine.Reachable RenewalsReturn (initial "key" 0) state ∧
      (state.thread.isWaiting = true ∧ interval ≤ state.now) :=
    Machine.exists_reachable_of_run
      (firstRenewal (.ok ⟨200, "", .empty⟩) ++ [.lock, .check]) (by decide)
  obtain ⟨state, reached, again, later⟩ := waiting
  exact ⟨state, reached.free, again, later,
    (keep_alive_survives_iff "key" 0 state reached.free).mpr reached⟩

/-- A network failure during the first renewal ends the process. -/
theorem terminated_by_network_failure :
    ∃ state, machine.Reachable Machine.anyStep (initial "key" 0) state ∧
      state.stopKeepAlive = false ∧ state.thread.isTerminated = true ∧ ¬ Survives state := by
  have ended : ∃ state, machine.Reachable Machine.anyStep (initial "key" 0) state ∧
      (state.stopKeepAlive = false ∧ state.thread.isTerminated = true) :=
    Machine.exists_reachable_of_run (firstRenewal (.error (.network "timeout"))) (by decide)
  obtain ⟨state, reached, looping, terminated⟩ := ended
  refine ⟨state, reached, looping, terminated, ?_⟩
  rintro ⟨running, -⟩
  cases location : state.thread with
  | terminated error => exact running error location
  | _ =>
    rw [location] at terminated
    cases terminated

end KeepAlive

end Bintrade.Ws
