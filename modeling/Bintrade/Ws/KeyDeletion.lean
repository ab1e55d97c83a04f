import Bintrade.System.History
import Bintrade.Ws.KeepAlive

/-! One call of `UserStream::stop()` beside the keep-alive thread. A renewal is two steps
here, since `stop()` can act between the request and its answer. -/

namespace Bintrade.Ws.KeyDeletion

open Bintrade.System Bintrade.Core Bintrade.Rest

/-- Where the call of `stop()` stands: before the flag is set, then after each of its
actions. -/
inductive Stopper where
  | called
  | signalled
  | notified
  | joined
  | deleted
  | cleared
  deriving DecidableEq

structure State where
  keepAlive : KeepAlive.State
  /-- The listen key that a call of `keep_alive()` in progress has read. -/
  renewing : Option String
  stopper : Stopper

/-- The thread that `start()` creates, with `stop()` to come. -/
def initial (listenKey : String) (now : Nat) : State where
  keepAlive := KeepAlive.initial listenKey now
  renewing := none
  stopper := .called

inductive Label where
  | lock
  | check
  | wake
  | tick (elapsed : Nat)
  | beginRenewal
  | endRenewal (services : Services)
  | signalStop
  | notify
  | join
  | deleteKey
  | clearKey

/-- A step of the keep-alive thread alone. -/
def State.advance (state : State) (label : KeepAlive.Label) : Option State :=
  (KeepAlive.step state.keepAlive label).map fun next => { state with keepAlive := next }

def State.withThread (state : State) (thread : KeepAlive.Thread) : State :=
  { state with keepAlive := { state.keepAlive with thread := thread } }

def step (state : State) : Label → Option State
  | .lock => state.advance .lock
  | .check => state.advance .check
  | .wake => state.advance .wake
  | .tick elapsed => state.advance (.tick elapsed)
  | .beginRenewal =>
    match state.keepAlive.thread, state.renewing with
    | .renewing, none => some { state with renewing := some state.keepAlive.listenKey }
    | _, _ => none
  | .endRenewal services =>
    match state.renewing with
    | some listenKey =>
      match keepAlive services listenKey with
      | .ok () => some { state.withThread .locking with renewing := none }
      | .error error => some { state.withThread (.terminated error) with renewing := none }
    | none => none
  | .signalStop =>
    match state.stopper with
    | .called => (state.advance .signalStop).map fun next => { next with stopper := .signalled }
    | _ => none
  | .notify =>
    -- The waiting thread may wake up at any time, notified or not.
    match state.stopper with
    | .signalled => some { state with stopper := .notified }
    | _ => none
  | .join =>
    match state.stopper, state.keepAlive.thread with
    | .notified, .finished => some { state with stopper := .joined }
    | _, _ => none
  | .deleteKey =>
    match state.stopper with
    | .joined =>
      some { state with
        stopper := if state.keepAlive.listenKey.isEmpty then .cleared else .deleted }
    | _ => none
  | .clearKey =>
    match state.stopper with
    | .deleted =>
      some { state with keepAlive := { state.keepAlive with listenKey := "" }, stopper := .cleared }
    | _ => none

def machine : Machine State Label := ⟨step⟩

/-- The requests for the listen key, the stop flag and the end of the loop. -/
inductive Event where
  | renewal (listenKey : String)
  | stopSignalled
  | loopLeft
  | deletion (listenKey : String)
  deriving DecidableEq

def Event.isRenewal : Event → Bool
  | .renewal _ => true
  | _ => false

/-- The event of a step, if it has one. -/
def event? (state : State) : Label → Option Event
  | .beginRenewal => (renewedKey? state.keepAlive.listenKey).map .renewal
  | .signalStop => some .stopSignalled
  | .check => if state.keepAlive.stopKeepAlive then some .loopLeft else none
  | .deleteKey =>
    if state.keepAlive.listenKey.isEmpty then none else some (.deletion state.keepAlive.listenKey)
  | _ => none

def note (state : State) (label : Label) (history : List Event) : List Event :=
  history ++ (event? state label).toList

/-- What an event may follow. -/
def law (earlier : List Event) : Event → Prop
  | .renewal listenKey => listenKey ≠ "" ∧ ∀ deleted, .deletion deleted ∉ earlier
  | .deletion _ => .loopLeft ∈ earlier
  | .stopSignalled | .loopLeft => True

def Stopper.hasJoined : Stopper → Bool
  | .joined | .deleted | .cleared => true
  | .called | .signalled | .notified => false

/-- The renewals that are decided and not yet begun. -/
def State.due (state : State) : Nat :=
  match state.keepAlive.thread, state.renewing with
  | .renewing, none => 1
  | _, _ => 0

structure Ordered (state : State) (history : List Event) : Prop where
  signalled : .stopSignalled ∈ history ↔ state.keepAlive.stopKeepAlive = true
  called : state.stopper = .called ↔ state.keepAlive.stopKeepAlive = false
  left : .loopLeft ∈ history ↔ state.keepAlive.thread = .finished
  joined : state.stopper.hasJoined = true → state.keepAlive.thread = .finished
  deleted : ∀ listenKey, .deletion listenKey ∈ history → state.stopper.hasJoined = true
  renewing : ∀ listenKey, state.renewing = some listenKey → state.keepAlive.thread = .renewing
  due : ∀ earlier later, history = earlier ++ .stopSignalled :: later →
    later.countP Event.isRenewal + state.due ≤ 1
  lawful : Lawful law history

section Steps

variable {state after : State} {history : List Event} {label : Label}

theorem Ordered.initial (listenKey : String) (now : Nat) :
    Ordered (initial listenKey now) [] where
  signalled := by simp [KeyDeletion.initial, KeepAlive.initial]
  called := by simp [KeyDeletion.initial, KeepAlive.initial]
  left := by simp [KeyDeletion.initial, KeepAlive.initial]
  joined := by simp [KeyDeletion.initial, Stopper.hasJoined]
  deleted := by simp
  renewing := by simp [KeyDeletion.initial]
  due := by simp
  lawful := lawful_nil law

theorem Ordered.quiet (ordered : Ordered state history)
    (elsewhere : state.keepAlive.thread ≠ .renewing) : state.renewing = none := by
  cases called : state.renewing with
  | none => rfl
  | some listenKey => exact absurd (ordered.renewing listenKey called) elsewhere

theorem due_le_one (state : State) : state.due ≤ 1 := by
  unfold State.due
  split <;> decide

theorem due_eq_zero (elsewhere : state.keepAlive.thread ≠ .renewing) : state.due = 0 := by
  unfold State.due
  split
  · rename_i renewing _
    exact absurd renewing elsewhere
  · rfl

/-- A thread that stays in its loop and decides on a renewal only before the signal. -/
theorem Ordered.withThread (ordered : Ordered state history) {thread : KeepAlive.Thread}
    {renewing : Option String} (quiet : renewing = none)
    (looping : state.keepAlive.thread ≠ .finished) (stays : thread ≠ .finished)
    (decided : thread = .renewing → state.keepAlive.stopKeepAlive = false) :
    Ordered { state.withThread thread with renewing := renewing } history where
  signalled := ordered.signalled
  called := ordered.called
  left := iff_of_false (fun ended => looping (ordered.left.mp ended)) stays
  joined := fun past => absurd (ordered.joined past) looping
  deleted := ordered.deleted
  renewing := by simp [quiet]
  due := by
    intro earlier later split
    have bound := ordered.due earlier later split
    have told : state.keepAlive.stopKeepAlive = true := by
      rw [← ordered.signalled, split]
      simp
    have idle : State.due { state.withThread thread with renewing := renewing } = 0 := by
      apply due_eq_zero
      intro chosen
      rw [decided chosen] at told
      cases told
    omega
  lawful := ordered.lawful

theorem Ordered.leave (ordered : Ordered state history)
    (checking : state.keepAlive.thread = .checking) :
    Ordered (state.withThread .finished) (history ++ [.loopLeft]) where
  signalled := by simpa [State.withThread] using ordered.signalled
  called := ordered.called
  left := by simp [State.withThread]
  joined := fun _ => rfl
  deleted := by simpa [State.withThread] using ordered.deleted
  renewing := by
    intro listenKey called
    rw [ordered.renewing listenKey called] at checking
    cases checking
  due := by
    intro earlier later split
    rcases append_singleton_eq_split split with ⟨-, impossible, -⟩ | ⟨between, rfl, inside⟩
    · cases impossible
    · have bound := ordered.due earlier between inside
      simp [Event.isRenewal, State.due, State.withThread]
      omega
  lawful := ordered.lawful.append trivial

theorem Ordered.signal (ordered : Ordered state history) (first : state.stopper = .called) :
    Ordered { state with
      keepAlive := { state.keepAlive with stopKeepAlive := true }, stopper := .signalled }
      (history ++ [.stopSignalled]) where
  signalled := by simp
  called := by simp
  left := by simpa using ordered.left
  joined := by simp [Stopper.hasJoined]
  deleted := by
    intro listenKey deleted
    have past := ordered.deleted listenKey (by simpa using deleted)
    rw [first] at past
    cases past
  renewing := ordered.renewing
  due := by
    intro earlier later split
    rcases append_singleton_eq_split split with ⟨-, -, rfl⟩ | ⟨between, -, inside⟩
    · rw [List.countP_nil, Nat.zero_add]
      exact due_le_one _
    · -- The flag has not been set before.
      have told : state.keepAlive.stopKeepAlive = true := by
        rw [← ordered.signalled, inside]
        simp
      rw [ordered.called.mp first] at told
      cases told
  lawful := ordered.lawful.append trivial

theorem Ordered.enter (ordered : Ordered state history) {listenKey : String}
    (decided : state.keepAlive.thread = .renewing) :
    Ordered { state with renewing := some listenKey } history where
  signalled := ordered.signalled
  called := ordered.called
  left := ordered.left
  joined := ordered.joined
  deleted := ordered.deleted
  renewing := fun _ _ => decided
  due := by
    intro earlier later split
    have bound := ordered.due earlier later split
    simp [State.due, decided]
    omega
  lawful := ordered.lawful

theorem Ordered.begin (ordered : Ordered state history) {listenKey : String}
    (decided : state.keepAlive.thread = .renewing) (idle : state.renewing = none)
    (given : listenKey ≠ "") :
    Ordered { state with renewing := some listenKey } (history ++ [.renewal listenKey]) where
  signalled := by simpa using ordered.signalled
  called := ordered.called
  left := by simpa using ordered.left
  joined := ordered.joined
  deleted := by simpa using ordered.deleted
  renewing := fun _ _ => decided
  due := by
    intro earlier later split
    rcases append_singleton_eq_split split with ⟨-, impossible, -⟩ | ⟨between, rfl, inside⟩
    · cases impossible
    · have bound := ordered.due earlier between inside
      have spent : State.due { state with renewing := some listenKey } = 0 := by
        simp [State.due, decided]
      have counted : [Event.renewal listenKey].countP Event.isRenewal = 1 := rfl
      have decidedBefore : state.due = 1 := by simp [State.due, decided, idle]
      rw [List.countP_append]
      omega
  lawful := by
    refine ordered.lawful.append ⟨given, ?_⟩
    intro deleted gone
    have ended := ordered.joined (ordered.deleted deleted gone)
    rw [decided] at ended
    cases ended

theorem Ordered.delete (ordered : Ordered state history) {listenKey : String}
    (joined : state.stopper.hasJoined = true) :
    Ordered { state with stopper := .deleted } (history ++ [.deletion listenKey]) where
  signalled := by simpa using ordered.signalled
  called := by
    refine iff_of_false (by simp) ?_
    rw [← ordered.called]
    intro early
    rw [early] at joined
    cases joined
  left := by simpa using ordered.left
  joined := fun _ => ordered.joined joined
  deleted := fun _ _ => rfl
  renewing := ordered.renewing
  due := by
    intro earlier later split
    rcases append_singleton_eq_split split with ⟨-, impossible, -⟩ | ⟨between, rfl, inside⟩
    · cases impossible
    · have bound := ordered.due earlier between inside
      simpa [Event.isRenewal, State.due] using bound
  lawful := ordered.lawful.append (ordered.left.mpr (ordered.joined joined))

theorem Ordered.withStopper (ordered : Ordered state history) {stopper : Stopper}
    (started : state.stopper ≠ .called) (goesOn : stopper ≠ .called)
    (ended : stopper.hasJoined = true → state.keepAlive.thread = .finished)
    (past : state.stopper.hasJoined = true → stopper.hasJoined = true) :
    Ordered { state with stopper := stopper } history where
  signalled := ordered.signalled
  called := iff_of_false goesOn (fun looping => started (ordered.called.mpr looping))
  left := ordered.left
  joined := ended
  deleted := fun listenKey gone => past (ordered.deleted listenKey gone)
  renewing := ordered.renewing
  due := ordered.due
  lawful := ordered.lawful

/-- Neither the time nor the listen key matters to the order. -/
theorem Ordered.withKeepAlive (ordered : Ordered state history) {keepAlive : KeepAlive.State}
    (flag : keepAlive.stopKeepAlive = state.keepAlive.stopKeepAlive)
    (thread : keepAlive.thread = state.keepAlive.thread) :
    Ordered { state with keepAlive := keepAlive } history where
  signalled := by simpa [flag] using ordered.signalled
  called := by simpa [flag] using ordered.called
  left := by simpa [thread] using ordered.left
  joined := by simpa [thread] using ordered.joined
  deleted := ordered.deleted
  renewing := by simpa [thread] using ordered.renewing
  due := by simpa [State.due, thread] using ordered.due
  lawful := ordered.lawful

theorem note_of_silent (silent : event? state label = none) :
    note state label history = history := by
  rw [note, silent, Option.toList_none, List.append_nil]

theorem note_of_event {event : Event} (noted : event? state label = some event) :
    note state label history = history ++ [event] := by
  rw [note, noted, Option.toList_some]

theorem Ordered.check (ordered : Ordered state history)
    (taken : machine.step state .check = some after) :
    Ordered after (note state .check history) := by
  simp only [machine, KeyDeletion.step, State.advance, KeepAlive.step] at taken
  split at taken
  · rename_i checking
    split at taken
    · rename_i told
      cases taken
      have noted : event? state .check = some .loopLeft := if_pos told
      rw [note_of_event noted]
      exact ordered.leave checking
    · rename_i looping
      cases taken
      have silent : event? state .check = none := if_neg looping
      rw [note_of_silent silent]
      have quiet := ordered.quiet (by simp [checking])
      exact ordered.withThread quiet (by simp [checking]) (by simp) (by simp)
  · cases taken

theorem Ordered.wake (ordered : Ordered state history)
    (taken : machine.step state .wake = some after) : Ordered after history := by
  simp only [machine, KeyDeletion.step, State.advance, KeepAlive.step] at taken
  split at taken
  · rename_i wakeup waiting
    have quiet := ordered.quiet (by simp [waiting])
    split at taken
    · cases taken
      exact ordered.withThread quiet (by simp [waiting]) (by simp) (by simp)
    · rename_i looping
      split at taken
      · cases taken
        exact ordered.withThread quiet (by simp [waiting]) (by simp) (by simp [looping])
      · cases taken
        exact ordered
  · cases taken

theorem Ordered.beginRenewal (ordered : Ordered state history)
    (taken : machine.step state .beginRenewal = some after) :
    Ordered after (note state .beginRenewal history) := by
  simp only [machine, KeyDeletion.step] at taken
  split at taken
  · rename_i decided idle
    cases taken
    by_cases empty : state.keepAlive.listenKey.isEmpty = true
    · have silent : event? state .beginRenewal = none := by
        rw [event?, renewedKey?, if_pos empty]
        rfl
      rw [note_of_silent silent]
      exact ordered.enter decided
    · have noted : event? state .beginRenewal = some (.renewal state.keepAlive.listenKey) := by
        rw [event?, renewedKey?, if_neg empty]
        rfl
      rw [note_of_event noted]
      exact ordered.begin decided idle (by simpa using empty)
  · cases taken

theorem Ordered.endRenewal (ordered : Ordered state history) {services : Services}
    (taken : machine.step state (.endRenewal services) = some after) :
    Ordered after history := by
  simp only [machine, KeyDeletion.step] at taken
  split at taken
  · rename_i listenKey called
    have renewing := ordered.renewing listenKey called
    split at taken <;> cases taken
    · exact ordered.withThread rfl (by simp [renewing]) (by simp) (by simp)
    · exact ordered.withThread rfl (by simp [renewing]) (by simp) (by simp)
  · cases taken

theorem Ordered.deleteKey (ordered : Ordered state history)
    (taken : machine.step state .deleteKey = some after) :
    Ordered after (note state .deleteKey history) := by
  simp only [machine, KeyDeletion.step] at taken
  split at taken <;> cases taken
  rename_i joined
  have past : state.stopper.hasJoined = true := by
    rw [joined]
    rfl
  by_cases empty : state.keepAlive.listenKey.isEmpty = true
  · have silent : event? state .deleteKey = none := if_pos empty
    rw [note_of_silent silent, if_pos empty]
    apply ordered.withStopper <;> simp [joined, ordered.joined past, Stopper.hasJoined]
  · have noted : event? state .deleteKey = some (.deletion _) := if_neg empty
    rw [note_of_event noted, if_neg empty]
    exact ordered.delete past

theorem Ordered.clearKey (ordered : Ordered state history)
    (taken : machine.step state .clearKey = some after) : Ordered after history := by
  simp only [machine, KeyDeletion.step] at taken
  split at taken <;> cases taken
  rename_i deleted
  have ended := ordered.joined (by rw [deleted]; rfl)
  have cleared : Ordered { state with stopper := .cleared } history := by
    apply ordered.withStopper <;> simp [deleted, ended, Stopper.hasJoined]
  exact cleared.withKeepAlive rfl rfl

theorem Ordered.step (ordered : Ordered state history)
    (taken : machine.step state label = some after) :
    Ordered after (note state label history) := by
  cases label with
  | lock =>
    rw [note_of_silent rfl]
    simp only [machine, KeyDeletion.step, State.advance, KeepAlive.step] at taken
    split at taken <;> cases taken
    rename_i locking
    have quiet := ordered.quiet (by simp [locking])
    exact ordered.withThread quiet (by simp [locking]) (by simp) (by simp)
  | check => exact ordered.check taken
  | wake =>
    rw [note_of_silent rfl]
    exact ordered.wake taken
  | tick elapsed =>
    rw [note_of_silent rfl]
    simp only [machine, KeyDeletion.step, State.advance, KeepAlive.step] at taken
    split at taken <;> cases taken
    exact ordered.withKeepAlive rfl rfl
  | beginRenewal => exact ordered.beginRenewal taken
  | endRenewal services =>
    rw [note_of_silent rfl]
    exact ordered.endRenewal taken
  | signalStop =>
    simp only [machine, KeyDeletion.step, State.advance, KeepAlive.step] at taken
    split at taken
    · rename_i first
      split at taken <;> cases taken
      exact ordered.signal first
    · cases taken
  | notify =>
    rw [note_of_silent rfl]
    simp only [machine, KeyDeletion.step] at taken
    split at taken <;> cases taken
    rename_i signalled
    apply ordered.withStopper <;> simp [signalled, Stopper.hasJoined]
  | join =>
    rw [note_of_silent rfl]
    simp only [machine, KeyDeletion.step] at taken
    split at taken <;> cases taken
    rename_i notified finished
    apply ordered.withStopper <;> simp [notified, finished, Stopper.hasJoined]
  | deleteKey => exact ordered.deleteKey taken
  | clearKey =>
    rw [note_of_silent rfl]
    exact ordered.clearKey taken

end Steps

theorem reachable_ordered {listenKey : String} {now : Nat} {observed : State × List Event}
    (reached : (machine.observe note).Reachable Machine.anyStep (initial listenKey now, [])
      observed) : Ordered observed.1 observed.2 := by
  induction reached with
  | start => exact Ordered.initial listenKey now
  | next earlier allowed taken ih =>
    obtain ⟨moved, noted⟩ := Machine.observe_step taken
    rw [noted]
    exact ih.step moved

/-- However the thread and `stop()` interleave: a renewal is requested with a key and never
after the deletion, at most one is requested once the flag is set, and the thread has left
its loop when the key is deleted. -/
theorem no_renewal_after_deletion (listenKey : String) (now : Nat) (state : State)
    (history : List Event)
    (reached : (machine.observe note).Reachable Machine.anyStep (initial listenKey now, [])
      (state, history)) :
    (∀ earlier key later, history = earlier ++ .renewal key :: later →
        key ≠ "" ∧ ∀ deleted, .deletion deleted ∉ earlier) ∧
      (∀ earlier later, history = earlier ++ .stopSignalled :: later →
        later.countP Event.isRenewal ≤ 1) ∧
      (∀ earlier key later, history = earlier ++ .deletion key :: later →
        .loopLeft ∈ earlier) := by
  have ordered : Ordered state history := reachable_ordered reached
  refine ⟨?_, ?_, ?_⟩
  · intro earlier key later split
    exact ordered.lawful earlier _ later split
  · intro earlier later split
    have bound := ordered.due earlier later split
    omega
  · intro earlier key later split
    exact ordered.lawful earlier _ later split

/-- The flag is set when the timeout has decided on a renewal: that one is still requested,
and the key is deleted after it. -/
theorem renewal_precedes_deletion :
    ∃ state history,
      (machine.observe note).Reachable Machine.anyStep (initial "key" 0, []) (state, history) ∧
        history = [.stopSignalled, .renewal "key", .loopLeft, .deletion "key"] ∧
        ∀ deleted, Event.deletion deleted ∉ [Event.stopSignalled] := by
  obtain ⟨⟨state, history⟩, reached, seen⟩ : ∃ observed : State × List Event,
      (machine.observe note).Reachable Machine.anyStep (initial "key" 0, []) observed ∧
        observed.2 = [.stopSignalled, .renewal "key", .loopLeft, .deletion "key"] :=
    Machine.exists_reachable_of_run
      [.lock, .check, .tick KeepAlive.interval, .wake, .signalStop, .notify, .beginRenewal,
        .endRenewal (KeepAlive.answering (.ok ⟨200, "", .empty⟩)), .lock, .check, .join,
        .deleteKey, .clearKey] (by decide)
  exact ⟨state, history, reached, seen,
    ((no_renewal_after_deletion "key" 0 state history reached).1 [.stopSignalled] "key"
      [.loopLeft, .deletion "key"] seen).2⟩

end Bintrade.Ws.KeyDeletion
