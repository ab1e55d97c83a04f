import Mathlib.Logic.Function.Basic
import Bintrade.System.Machine
import Bintrade.Ws.FailedStart

/-! Whether the operations of the streams ever assign to, or destroy, a thread handle
that is joinable. -/

namespace Bintrade.Ws

open Bintrade.System Bintrade.Core Bintrade.Auth Bintrade.Rest

namespace UserStream

/-- A stream during its lifetime, after it, and a process that ended in one of its
calls. -/
inductive Life where
  | alive (stream : UserStream)
  | destroyed
  | terminated

inductive Operation where
  | setDispatchMode (mode : DispatchMode)
  | start (services : Services) (connectError : String)
  | keepAlive (services : Services)
  | stop (services : Services)
  | destroy

def call (stream : UserStream) : Operation → Completion Exception UserStream
  | .setDispatchMode mode => stream.setDispatchMode mode
  | .start services connectError => stream.start services connectError
  | .keepAlive services => stream.keepAlive services
  | .stop services => stream.stop services
  | .destroy => stream.destroy

def after (operation : Operation) : Option UserStream → Life
  | some stream =>
    match operation with
    | .destroy => .destroyed
    | _ => .alive stream
  | none => .terminated

def machine : Machine Life Operation where
  step life operation :=
    match life with
    | .alive stream => some (after operation (stream.call operation).object?)
    | .destroyed | .terminated => none

/-- The call of `start()` gets as far as a listen key. -/
def obtainsKey (services : Services) (stream : UserStream) : Bool :=
  stream.credentials.hasCredentials &&
    match createListenKey services with
    | .ok key => !key.isEmpty
    | .error _ => false

/-- The handles that `start()` assigns to once it has a listen key. -/
def handlesVacant (connectError : String) (stream : UserStream) : Bool :=
  consumerVacant stream.dispatchMode stream.queueState && stream.ioThread = .vacant &&
    (!connectError.isEmpty || stream.keepAliveThread = .vacant)

def joinedFirst (stream : UserStream) : Operation → Bool
  | .start services connectError =>
    !stream.obtainsKey services || stream.handlesVacant connectError
  | .destroy => stream.keepAliveThread = .vacant
  | _ => true

/-- Every thread is joined before its handle is used again or destroyed. -/
def JoinedFirst (life : Life) (operation : Operation) : Prop :=
  match life with
  | .alive stream => stream.joinedFirst operation = true
  | _ => True

instance (life : Life) (operation : Operation) : Decidable (JoinedFirst life operation) := by
  cases life with
  | alive stream => exact inferInstanceAs (Decidable (_ = true))
  | destroyed => exact isTrue trivial
  | terminated => exact isTrue trivial

section Calls

variable {stream : UserStream}

theorem isTerminated_run (connectError : String) :
    (stream.run connectError).isTerminated = true ↔
      stream.handlesVacant connectError = false := by
  unfold run handlesVacant installDispatch connect
  rcases installDispatch_cases stream.dispatchMode stream.queueState with
    ⟨ended, met⟩ | ⟨queueState, installed, vacant, -⟩
  · rw [ended, met]
    exact iff_of_true rfl rfl
  · rw [installed, vacant]
    simp only [Completion.map, Completion.andThen, Bool.true_and]
    rcases connect_cases connectError stream.ioThread with
      ⟨ended, joinable⟩ | ⟨connected, idle, succeeded⟩ | ⟨error, refused, idle, failed⟩
    · rw [ended, joinable]
      exact iff_of_true rfl rfl
    · rw [connected, idle, succeeded]
      simp only [startKeepAlive]
      cases stream.keepAliveThread with
      | joinable => exact iff_of_true rfl rfl
      | vacant => exact iff_of_false nofun nofun
    · rw [refused, idle, failed]
      exact iff_of_false nofun nofun

theorem isTerminated_start (services : Services) (connectError : String) :
    (stream.start services connectError).isTerminated = true ↔
      stream.obtainsKey services = true ∧ stream.handlesVacant connectError = false := by
  unfold start obtainsKey
  cases stream.credentials.hasCredentials with
  | false => simp [Completion.isTerminated]
  | true =>
    cases createListenKey services with
    | error error => simp [Completion.isTerminated]
    | ok key =>
      cases empty : key.isEmpty with
      | true => simp [Completion.isTerminated, empty]
      | false =>
        simp only [if_true, empty, Bool.false_eq_true, if_false, Bool.not_false, Bool.and_self,
          true_and]
        rw [isTerminated_run]
        rfl

theorem isTerminated_destroy :
    stream.destroy.isTerminated = true ↔ stream.keepAliveThread = .joinable := by
  unfold destroy
  cases stream.keepAliveThread with
  | joinable => exact iff_of_true rfl rfl
  | vacant =>
    refine iff_of_false ?_ (by decide)
    change ¬ (Completion.map _ (destroyQueue (stopConsumer stream.queueState))).isTerminated = true
    rw [Completion.isTerminated_map, isTerminated_destroyQueue, consumerJoinable_stopConsumer]
    exact Bool.false_ne_true

/-- A call ends the process exactly if it meets a joinable handle. -/
theorem isTerminated_call (operation : Operation) :
    (stream.call operation).isTerminated = true ↔ stream.joinedFirst operation = false := by
  cases operation with
  | setDispatchMode mode =>
    refine iff_of_false ?_ nofun
    simp only [call, setDispatchMode]
    split <;> nofun
  | start services connectError => simp [call, joinedFirst, isTerminated_start]
  | keepAlive services =>
    refine iff_of_false ?_ nofun
    simp only [call, keepAlive]
    split <;> nofun
  | stop services => exact iff_of_false nofun nofun
  | destroy =>
    rw [call, isTerminated_destroy]
    cases handle : stream.keepAliveThread <;> simp [joinedFirst, handle]

end Calls

section Steps

variable {life next : Life} {operation : Operation}

/-- A step is a call on a living stream, and it ends the process exactly if it meets a
joinable handle. -/
theorem terminated_step (taken : machine.step life operation = some next) :
    next = .terminated ↔ life = .terminated ∨ ¬ JoinedFirst life operation := by
  cases life with
  | alive stream =>
    rw [or_iff_right nofun]
    obtain rfl := Option.some.inj taken
    rw [JoinedFirst, Bool.not_eq_true, ← isTerminated_call, ← Completion.object?_eq_none]
    cases (stream.call operation).object? with
    | none => exact iff_of_true rfl rfl
    | some object =>
      refine iff_of_false ?_ nofun
      cases operation <;> nofun
  | destroyed => cases taken
  | terminated => cases taken

end Steps

end UserStream

namespace MarketStream

/-- The streams of a process by their addresses. -/
structure Process where
  streams : Nat → Option MarketStream
  terminated : Bool

def Process.initial : Process := ⟨fun _ => none, false⟩

/-- Operations name the streams by their addresses. -/
inductive Operation where
  | construct (address : Nat)
  | moveConstruct (address source : Nat)
  | setDispatchMode (address : Nat) (mode : DispatchMode)
  | subscribe (address : Nat) (connectError : String)
  | disconnect (address : Nat)
  | moveAssign (target source : Nat)
  | destroy (address : Nat)

def Process.put (process : Process) (address : Nat) (stream : Option MarketStream) : Process :=
  { process with streams := Function.update process.streams address stream }

/-- The process after a call that leaves a stream in `kept`. -/
def Process.settle (process : Process) (call : Completion Exception MarketStream)
    (kept : MarketStream → Process) : Process :=
  match call.object? with
  | some stream => kept stream
  | none => { process with terminated := true }

def step (process : Process) (operation : Operation) : Option Process :=
  if process.terminated then none
  else
    match operation with
    | .construct address =>
      match process.streams address with
      | none => some (process.put address (some fresh))
      | some _ => none
    | .moveConstruct address source =>
      match process.streams address, process.streams source with
      | none, some moved =>
        some ((process.put source (some moved.movedFrom)).put address (some moved))
      | _, _ => none
    | .setDispatchMode address mode =>
      match process.streams address with
      | some stream =>
        some (process.settle (stream.setDispatchMode mode) fun stream =>
          process.put address (some stream))
      | none => none
    | .subscribe address connectError =>
      match process.streams address with
      | some stream =>
        stream.impl.map fun ioThread =>
          process.settle (stream.subscribe connectError ioThread) fun stream =>
            process.put address (some stream)
      | none => none
    | .disconnect address =>
      match process.streams address with
      | some stream => stream.impl.map fun _ => process.put address (some stream.disconnect)
      | none => none
    | .moveAssign target source =>
      match process.streams target, process.streams source with
      | some stream, some moved =>
        -- A stream that is assigned to itself keeps both of its pointers.
        if target = source then some process
        else
          some (process.settle (stream.moveAssign moved) fun stream =>
            (process.put source (some moved.movedFrom)).put target (some stream))
      | _, _ => none
    | .destroy address =>
      match process.streams address with
      | some stream => some (process.settle stream.destroy fun _ => process.put address none)
      | none => none

def machine : Machine Process Operation := ⟨step⟩

/-- The handles that a subscription assigns to. -/
def handlesVacant (stream : MarketStream) : Bool :=
  consumerVacant stream.dispatchMode stream.queueState && stream.impl ≠ some .joinable

def joinedFirst (process : Process) : Operation → Bool
  | .subscribe address _ =>
    match process.streams address with
    | some stream => stream.handlesVacant
    | none => true
  | .moveAssign target source =>
    target = source ||
      match process.streams target with
      | some stream => !consumerJoinable stream.queueState
      | none => true
  | _ => true

/-- Every thread is joined before its handle is used again or destroyed. -/
def JoinedFirst (process : Process) (operation : Operation) : Prop :=
  joinedFirst process operation = true

instance (process : Process) (operation : Operation) :
    Decidable (JoinedFirst process operation) :=
  inferInstanceAs (Decidable (_ = true))

section Calls

variable {stream : MarketStream}

theorem isTerminated_subscribe {ioThread : Handle} (connectError : String)
    (held : stream.impl = some ioThread) :
    (stream.subscribe connectError ioThread).isTerminated = true ↔
      stream.handlesVacant = false := by
  unfold subscribe installDispatch handlesVacant
  rw [held]
  rcases installDispatch_cases stream.dispatchMode stream.queueState with
    ⟨ended, met⟩ | ⟨queueState, installed, vacant, -⟩
  · rw [ended, met]
    exact iff_of_true rfl rfl
  · rw [installed, vacant]
    simp only [Completion.map, Completion.andThen]
    rcases connect_cases connectError ioThread with
      ⟨ended, joinable⟩ | ⟨connected, idle, -⟩ | ⟨error, refused, idle, -⟩
    · rw [ended, joinable]
      exact iff_of_true rfl rfl
    · rw [connected, idle]
      exact iff_of_false nofun nofun
    · rw [refused, idle]
      exact iff_of_false nofun nofun

theorem isTerminated_destroy : stream.destroy.isTerminated = false := by
  rw [← Bool.not_eq_true, destroy, Completion.isTerminated_map, isTerminated_destroyQueue,
    consumerJoinable_stopConsumer]
  nofun

end Calls

section Steps

variable {process next : Process} {operation : Operation}

theorem terminated_settle {call : Completion Exception MarketStream}
    {kept : MarketStream → Process} (running : ∀ stream, (kept stream).terminated = false) :
    (process.settle call kept).terminated = call.isTerminated := by
  cases call with
  | returned stream => exact running stream
  | threw error stream => exact running stream
  | terminated => rfl

theorem terminated_step (taken : machine.step process operation = some next) :
    next.terminated = true ↔ process.terminated = true ∨ ¬ JoinedFirst process operation := by
  change step process operation = some next at taken
  unfold step at taken
  split at taken
  · cases taken
  · rename_i running
    have going : process.terminated = false := Bool.not_eq_true _ |>.mp running
    rw [or_iff_right running, JoinedFirst, Bool.not_eq_true]
    cases operation with
    | construct address =>
      simp only at taken
      split at taken <;> cases taken
      exact iff_of_false running nofun
    | moveConstruct address source =>
      simp only at taken
      split at taken <;> cases taken
      exact iff_of_false running nofun
    | setDispatchMode address mode =>
      simp only at taken
      split at taken <;> cases taken
      rename_i stream found
      rw [terminated_settle]
      · refine iff_of_false ?_ nofun
        unfold setDispatchMode
        split <;> nofun
      · exact fun _ => going
    | subscribe address connectError =>
      simp only at taken
      split at taken
      · rename_i stream found
        obtain ⟨ioThread, held, rfl⟩ := Option.map_eq_some_iff.mp taken
        rw [terminated_settle, isTerminated_subscribe connectError held]
        · simp only [joinedFirst, found]
        · exact fun _ => going
      · cases taken
    | disconnect address =>
      simp only at taken
      split at taken
      · obtain ⟨ioThread, -, rfl⟩ := Option.map_eq_some_iff.mp taken
        exact iff_of_false running nofun
      · cases taken
    | moveAssign target source =>
      simp only at taken
      split at taken
      · rename_i stream moved found other
        split at taken
        · rename_i same
          cases taken
          exact iff_of_false running (by simp [joinedFirst, same])
        · rename_i apart
          cases taken
          rw [terminated_settle, moveAssign, Completion.isTerminated_map,
            isTerminated_destroyQueue]
          · simp [joinedFirst, found, apart]
          · exact fun _ => going
      · cases taken
    | destroy address =>
      simp only at taken
      split at taken <;> cases taken
      rw [terminated_settle, isTerminated_destroy]
      · exact iff_of_false nofun nofun
      · exact fun _ => going

end Steps

end MarketStream

end Bintrade.Ws
