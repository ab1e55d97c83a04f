import Mathlib.Logic.Function.Basic
import Bintrade.System.Machine

/-! Moving `ws::Client` and `MarketStream` objects while their connections deliver. The
connection and its callback are in a `Client::Impl`, which a move hands over; the handler
that the connection calls captured the address of the object that installed it. -/

namespace Bintrade.Ws.MovedStreams

open Bintrade.System

/-- A `Client::Impl`: the callback, the address that the message handler captured, and
whether the I/O thread runs. Callbacks are numbered in the order of their installation. -/
structure Impl where
  onMessage : Option Nat
  handler : Option Nat
  live : Bool

def Impl.fresh : Impl := ⟨none, none, false⟩

/-- What became of a delivered message. -/
inductive Outcome where
  | passed (callback : Nat)
  | dropped
  | emptyImpl
  | dangling
  deriving DecidableEq

/-- A delivery, with the callback that the owner of the connection had then. -/
structure Delivery where
  message : String
  installed : Option Nat
  outcome : Outcome
  deriving DecidableEq

/-- An object holds its `impl_`, or nothing once it was moved from. -/
structure State where
  objects : Nat → Option (Option Nat)
  impls : Nat → Option Impl
  nextImpl : Nat
  nextCallback : Nat
  log : List Delivery

def initial : State := ⟨fun _ => none, fun _ => none, 0, 0, []⟩

/-- Operations name the objects by their addresses; a connection attempt succeeds or
not. -/
inductive Label where
  | construct (address : Nat)
  | setMessageCallback (address : Nat)
  | connect (address : Nat) (connected : Bool)
  | subscribe (address : Nat) (connected : Bool)
  | disconnect (address : Nat)
  | moveConstruct (address source : Nat)
  | moveAssign (target source : Nat)
  | destroy (address : Nat)
  | deliver (impl : Nat) (message : String)

def State.place (state : State) (address : Nat) (object : Option (Option Nat)) : State :=
  { state with objects := Function.update state.objects address object }

def State.put (state : State) (impl : Nat) (entry : Option Impl) : State :=
  { state with impls := Function.update state.impls impl entry }

/-- The destructor of a `unique_ptr<Impl>`. -/
def State.release (state : State) : Option Nat → State
  | some impl => state.put impl none
  | none => state

/-- A member function that reaches the `Impl` through the object. -/
def State.through (state : State) (address : Nat) (change : Impl → Impl) : Option State :=
  match state.objects address with
  | some (some impl) => (state.impls impl).map fun entry => state.put impl (some (change entry))
  | _ => none

/-- The callback is stored in the `Impl`; the handler captures `this`. -/
def State.setMessageCallback (state : State) (address : Nat) : Option State :=
  (state.through address fun entry =>
    { entry with onMessage := some state.nextCallback, handler := some address }).map
      fun after => { after with nextCallback := state.nextCallback + 1 }

def State.setLive (state : State) (address : Nat) (live : Bool) : Option State :=
  state.through address fun entry => { entry with live := live }

/-- The handler looks for the callback through the address that it captured. -/
def State.handle (state : State) : Option Nat → Outcome
  | none => .dropped
  | some address =>
    match state.objects address with
    | none => .dangling
    | some none => .emptyImpl
    | some (some impl) =>
      match state.impls impl with
      | none => .dangling
      | some entry =>
        match entry.onMessage with
        | some callback => .passed callback
        | none => .dropped

def step (state : State) : Label → Option State
  | .construct address =>
    match state.objects address with
    | none =>
      let placed := state.place address (some (some state.nextImpl))
      some { placed.put state.nextImpl (some .fresh) with nextImpl := state.nextImpl + 1 }
    | some _ => none
  | .setMessageCallback address => state.setMessageCallback address
  | .connect address connected => state.setLive address connected
  | .subscribe address connected =>
    (state.setMessageCallback address).bind fun state => state.setLive address connected
  | .disconnect address => state.setLive address false
  | .moveConstruct address source =>
    match state.objects address, state.objects source with
    | none, some moved => some ((state.place source (some none)).place address (some moved))
    | _, _ => none
  | .moveAssign target source =>
    match state.objects target, state.objects source with
    | some old, some moved =>
      -- A self-assignment releases the pointer and resets it to the same one.
      if target = source then some state
      else some (((state.release old).place source (some none)).place target (some moved))
    | _, _ => none
  | .destroy address =>
    match state.objects address with
    | some old => some ((state.release old).place address none)
    | none => none
  | .deliver impl message =>
    match state.impls impl with
    | some entry =>
      if entry.live then
        some { state with
          log := ⟨message, entry.onMessage, state.handle entry.handler⟩ :: state.log }
      else none
    | none => none

def machine : Machine State Label := ⟨step⟩

/-- The message was passed once, to the callback that was installed. -/
def Delivery.Faithful (delivery : Delivery) : Prop :=
  match delivery.installed with
  | some callback => delivery.outcome = .passed callback
  | none => delivery.outcome = .dropped

instance (delivery : Delivery) : Decidable delivery.Faithful := by
  unfold Delivery.Faithful
  split <;> infer_instance

/-- Some delivery went wrong. -/
def Strayed (state : State) : Prop := ∃ delivery ∈ state.log, ¬ delivery.Faithful

instance (state : State) : Decidable (Strayed state) :=
  inferInstanceAs (Decidable (∃ delivery ∈ state.log, ¬ delivery.Faithful))

def unmoved (state : State) : Label → Bool
  | .deliver impl _ =>
    match state.impls impl with
    | some entry =>
      match entry.handler with
      | some address => state.objects address = some (some impl)
      | none => true
    | none => true
  | _ => true

/-- A connection delivers only while the object that installed its handler owns it. -/
def Unmoved (state : State) (label : Label) : Prop := unmoved state label = true

instance (state : State) (label : Label) : Decidable (Unmoved state label) :=
  inferInstanceAs (Decidable (_ = true))

/-- Each callback was installed once, together with a handler. -/
structure Sound (state : State) : Prop where
  old : ∀ {impl entry callback}, state.impls impl = some entry →
    entry.onMessage = some callback → callback < state.nextCallback
  distinct : ∀ {impl other entry second callback}, state.impls impl = some entry →
    state.impls other = some second → entry.onMessage = some callback →
      second.onMessage = some callback → impl = other
  paired : ∀ {impl entry}, state.impls impl = some entry →
    (entry.handler.isSome = true ↔ entry.onMessage.isSome = true)

section Soundness

variable {state before after : State}

/-- The callback and the handler of an entry are those it had before, if it has any. -/
def Traced (before after : State) : Prop :=
  ∀ impl entry, after.impls impl = some entry →
    (entry.onMessage = none ∧ entry.handler = none) ∨ ∃ former, before.impls impl = some former ∧
      entry.onMessage = former.onMessage ∧ entry.handler = former.handler

theorem Traced.refl (same : after.impls = before.impls) : Traced before after := by
  intro impl entry found
  rw [same] at found
  exact .inr ⟨entry, found, rfl, rfl⟩

theorem traced_put {impl : Nat} {entry : Option Impl}
    (kept : ∀ changed, entry = some changed →
      (changed.onMessage = none ∧ changed.handler = none) ∨ ∃ former,
        state.impls impl = some former ∧ changed.onMessage = former.onMessage ∧
          changed.handler = former.handler) :
    Traced state (state.put impl entry) := by
  intro other second found
  by_cases same : other = impl
  · subst same
    simp only [State.put, Function.update_self] at found
    exact kept second found
  · simp only [State.put, Function.update_of_ne same] at found
    exact .inr ⟨second, found, rfl, rfl⟩

/-- Nothing new is installed. -/
theorem Sound.traced (sound : Sound before) (traced : Traced before after)
    (same : after.nextCallback = before.nextCallback) : Sound after where
  old found installed := by
    rcases traced _ _ found with ⟨none, -⟩ | ⟨former, present, message, -⟩
    · rw [none] at installed
      cases installed
    · rw [same]
      exact sound.old present (message ▸ installed)
  distinct first second installed again := by
    rcases traced _ _ first with ⟨none, -⟩ | ⟨former, present, message, -⟩
    · rw [none] at installed
      cases installed
    · rcases traced _ _ second with ⟨none, -⟩ | ⟨latter, other, repeated, -⟩
      · rw [none] at again
        cases again
      · exact sound.distinct present other (message ▸ installed) (repeated ▸ again)
  paired found := by
    rcases traced _ _ found with ⟨message, handler⟩ | ⟨former, present, message, handler⟩
    · simp [message, handler]
    · rw [message, handler]
      exact sound.paired present

theorem Sound.place (sound : Sound state) (address : Nat) (object : Option (Option Nat)) :
    Sound (state.place address object) :=
  sound.traced (.refl rfl) rfl

theorem Sound.release (sound : Sound state) (old : Option Nat) : Sound (state.release old) := by
  cases old with
  | none => exact sound
  | some impl => exact sound.traced (traced_put nofun) rfl

theorem through_cases {address : Nat} {change : Impl → Impl}
    (taken : state.through address change = some after) :
    ∃ impl entry, state.impls impl = some entry ∧
      after = state.put impl (some (change entry)) := by
  unfold State.through at taken
  split at taken
  · rename_i impl held
    obtain ⟨entry, found, rfl⟩ := Option.map_eq_some_iff.mp taken
    exact ⟨impl, entry, found, rfl⟩
  · cases taken

theorem Sound.setLive {address : Nat} {live : Bool} (sound : Sound state)
    (taken : state.setLive address live = some after) : Sound after := by
  obtain ⟨impl, entry, found, rfl⟩ := through_cases taken
  refine sound.traced (traced_put ?_) rfl
  rintro changed ⟨⟩
  exact .inr ⟨entry, found, rfl, rfl⟩

/-- The new callback is younger than all others. -/
theorem Sound.setMessageCallback {address : Nat} (sound : Sound state)
    (taken : state.setMessageCallback address = some after) : Sound after := by
  obtain ⟨stored, changed, rfl⟩ := Option.map_eq_some_iff.mp taken
  obtain ⟨impl, entry, found, rfl⟩ := through_cases changed
  have cases {other second}
      (present : (state.put impl (some { entry with
        onMessage := some state.nextCallback, handler := some address })).impls other =
          some second) :
      (other = impl ∧ second.onMessage = some state.nextCallback ∧
        second.handler = some address) ∨ state.impls other = some second := by
    by_cases same : other = impl
    · subst same
      simp only [State.put, Function.update_self] at present
      cases present
      exact .inl ⟨rfl, rfl, rfl⟩
    · simp only [State.put, Function.update_of_ne same] at present
      exact .inr present
  constructor
  · intro other second callback present installed
    rcases cases present with ⟨-, message, -⟩ | earlier
    · rw [message] at installed
      cases installed
      exact Nat.lt_succ_self _
    · exact Nat.lt_succ_of_lt (sound.old earlier installed)
  · intro first second entry other callback one two installed again
    rcases cases one with ⟨same, message, -⟩ | early
    · rcases cases two with ⟨equal, -, -⟩ | late
      · rw [same, equal]
      · rw [message] at installed
        cases installed
        exact absurd (sound.old late again) (Nat.lt_irrefl _)
    · rcases cases two with ⟨-, message, -⟩ | late
      · rw [message] at again
        cases again
        exact absurd (sound.old early installed) (Nat.lt_irrefl _)
      · exact sound.distinct early late installed again
  · intro other second present
    rcases cases present with ⟨-, message, handler⟩ | earlier
    · simp [message, handler]
    · exact sound.paired earlier

theorem sound_step {label : Label} (sound : Sound before)
    (taken : machine.step before label = some after) : Sound after := by
  cases label with
  | construct address =>
    simp only [machine, step] at taken
    split at taken <;> cases taken
    refine sound.traced (traced_put ?_) rfl
    rintro changed ⟨⟩
    exact .inl ⟨rfl, rfl⟩
  | setMessageCallback address => exact sound.setMessageCallback taken
  | connect address connected => exact sound.setLive taken
  | subscribe address connected =>
    obtain ⟨installed, first, second⟩ := Option.bind_eq_some_iff.mp taken
    exact (sound.setMessageCallback first).setLive second
  | disconnect address => exact sound.setLive taken
  | moveConstruct address source =>
    simp only [machine, step] at taken
    split at taken <;> cases taken
    exact (sound.place source _).place address _
  | moveAssign target source =>
    simp only [machine, step] at taken
    split at taken
    · rename_i old moved _ _
      split at taken <;> cases taken
      · exact sound
      · exact ((sound.release old).place source _).place target _
    · cases taken
  | destroy address =>
    simp only [machine, step] at taken
    split at taken <;> cases taken
    exact (sound.release _).place address _
  | deliver impl message =>
    simp only [machine, step] at taken
    split at taken
    · split at taken <;> cases taken
      exact sound.traced (.refl rfl) rfl
    · cases taken

end Soundness

section Deliveries

variable {before after : State}

theorem log_through {state : State} {address : Nat} {change : Impl → Impl}
    (taken : state.through address change = some after) : after.log = state.log := by
  obtain ⟨impl, entry, -, rfl⟩ := through_cases taken
  rfl

theorem log_release (state : State) (old : Option Nat) : (state.release old).log = state.log := by
  cases old <;> rfl

theorem log_setMessageCallback {state : State} {address : Nat}
    (taken : state.setMessageCallback address = some after) : after.log = state.log := by
  obtain ⟨stored, changed, rfl⟩ := Option.map_eq_some_iff.mp taken
  have kept : stored.log = state.log := log_through changed
  exact kept

/-- A step delivers a message, or leaves the log as it is. -/
theorem log_step {label : Label} (taken : machine.step before label = some after) :
    (after.log = before.log ∧ Unmoved before label) ∨ ∃ impl message entry,
      label = .deliver impl message ∧ before.impls impl = some entry ∧
        after.log = ⟨message, entry.onMessage, before.handle entry.handler⟩ :: before.log := by
  cases label with
  | construct address =>
    simp only [machine, step] at taken
    split at taken <;> cases taken
    exact .inl ⟨rfl, rfl⟩
  | setMessageCallback address => exact .inl ⟨log_setMessageCallback taken, rfl⟩
  | connect address connected => exact .inl ⟨log_through taken, rfl⟩
  | subscribe address connected =>
    obtain ⟨installed, first, second⟩ := Option.bind_eq_some_iff.mp taken
    exact .inl ⟨(log_through second).trans (log_setMessageCallback first), rfl⟩
  | disconnect address => exact .inl ⟨log_through taken, rfl⟩
  | moveConstruct address source =>
    simp only [machine, step] at taken
    split at taken <;> cases taken
    exact .inl ⟨rfl, rfl⟩
  | moveAssign target source =>
    simp only [machine, step] at taken
    split at taken
    · split at taken <;> cases taken
      · exact .inl ⟨rfl, rfl⟩
      · exact .inl ⟨log_release _ _, rfl⟩
    · cases taken
  | destroy address =>
    simp only [machine, step] at taken
    split at taken <;> cases taken
    exact .inl ⟨log_release _ _, rfl⟩
  | deliver impl message =>
    simp only [machine, step] at taken
    split at taken
    · rename_i entry found
      split at taken <;> cases taken
      exact .inr ⟨impl, message, entry, rfl, found, rfl⟩
    · cases taken

/-- A delivery is faithful exactly if the object that installed the handler owns the
connection: any other object has no callback or another one. -/
theorem faithful_iff_unmoved {impl : Nat} {message : String} {entry : Impl} (sound : Sound before)
    (found : before.impls impl = some entry) :
    Delivery.Faithful ⟨message, entry.onMessage, before.handle entry.handler⟩ ↔
      Unmoved before (.deliver impl message) := by
  have paired := sound.paired found
  simp only [Unmoved, unmoved, found, Delivery.Faithful]
  cases handler : entry.handler with
  | none =>
    have silent : entry.onMessage = none := by simpa [handler] using paired
    rw [silent]
    exact iff_of_true rfl rfl
  | some address =>
    obtain ⟨callback, installed⟩ := Option.isSome_iff_exists.mp (paired.mp (by rw [handler]; rfl))
    rw [installed]
    simp only [State.handle, decide_eq_true_eq]
    cases object : before.objects address with
    | none => simp
    | some held =>
      cases held with
      | none => simp
      | some other =>
        simp only [Option.some.injEq]
        constructor
        · intro passed
          cases reached : before.impls other with
          | none => simp [reached] at passed
          | some second =>
            cases called : second.onMessage with
            | none => simp [reached, called] at passed
            | some recipient =>
              simp only [reached, called, Outcome.passed.injEq] at passed
              exact sound.distinct reached found (passed ▸ called) installed
        · rintro rfl
          simp [found, installed]

theorem strayed_step {label : Label} (sound : Sound before)
    (taken : machine.step before label = some after) :
    Strayed after ↔ Strayed before ∨ ¬ Unmoved before label := by
  unfold Strayed
  rcases log_step taken with ⟨same, unmoved⟩ | ⟨impl, message, entry, rfl, found, delivered⟩
  · rw [same]
    exact (or_iff_left (not_not_intro unmoved)).symm
  · simp only [delivered, List.mem_cons, exists_eq_or_imp, faithful_iff_unmoved sound found]
    exact or_comm

end Deliveries

/-- Every delivery reaches the callback of its connection exactly if every message
arrives while the object that installed the handler still owns the connection. -/
theorem deliveries_follow_owner_iff (state : State)
    (reached : machine.Reachable Machine.anyStep initial state) :
    (∀ delivery ∈ state.log, delivery.Faithful) ↔
      machine.Reachable Unmoved initial state := by
  have good : ¬ Strayed state ↔ machine.Reachable Unmoved initial state := by
    apply reached.good_iff
    · rintro ⟨delivery, member, -⟩
      cases member
    · intro before after label earlier taken
      have sound : Sound before := by
        apply earlier.invariant
        · exact ⟨nofun, nofun, nofun⟩
        · intro first second label holds _ moved
          exact sound_step holds moved
      exact strayed_step sound taken
  rw [← good]
  simp [Strayed]

/-- A stream that is subscribed after the move delivers. -/
theorem subscribed_after_move :
    ∃ state, machine.Reachable Machine.anyStep initial state ∧
      (state.log = [⟨"m", some 0, .passed 0⟩] ∧ ∀ delivery ∈ state.log, delivery.Faithful) := by
  obtain ⟨state, reached, log⟩ : ∃ state, machine.Reachable Unmoved initial state ∧
      state.log = [⟨"m", some 0, .passed 0⟩] :=
    Machine.exists_reachable_of_run [.construct 0, .moveConstruct 1 0, .subscribe 1 true,
      .deliver 0 "m"] (by decide)
  exact ⟨state, reached.free, log, (deliveries_follow_owner_iff state reached.free).mpr reached⟩

/-- A stream that is moved after it was subscribed: its next message is looked for
through the empty `impl_` of the source. -/
theorem delivery_through_moved_from :
    ∃ state, machine.Reachable Machine.anyStep initial state ∧
      (state.log = [⟨"m", some 0, .emptyImpl⟩] ∧ Strayed state) :=
  Machine.exists_reachable_of_run [.construct 0, .subscribe 0 true, .moveConstruct 1 0,
    .deliver 0 "m"] (by decide)

end Bintrade.Ws.MovedStreams
