import Bintrade.System.Machine

/-! How `WebSocketClient::connect` learns the outcome of its attempt. The I/O thread stores
it under `connect_mutex` and notifies; the caller waits on `connect_cv`, which may also wake
it for no reason. -/

namespace Bintrade.Ws.ConnectHandshake

open Bintrade.System

/-- Where the I/O thread stands: before `do_connect` has an outcome, in `notify_connect`
with the text it was called with, after it, or at its end. -/
inductive IoThread where
  | none
  | connecting
  | locking (text : String)
  | holding (text : String)
  | doneStored (text : String)
  | errorStored
  | notifying
  | running
  | finished
  deriving DecidableEq

/-- Where the caller stands: in `connect`, about to lock, evaluating the predicate, blocked
in the wait, past it with the mutex held and released, joining a failed thread; or joining
the thread in `disconnect`. -/
inductive Owner where
  | idle
  | locking
  | checking
  | blocked
  | waited
  | deciding
  | joining
  | leaving
  deriving DecidableEq

/-- Whether a thread holds `connect_mutex`. -/
def IoThread.holds : IoThread → Bool
  | .holding _ | .doneStored _ | .errorStored => true
  | _ => false

def Owner.holds : Owner → Bool
  | .checking | .waited => true
  | _ => false

/-- The shared fields, both program counters, the outcomes of all attempts of `do_connect`
and the results of all calls of `connect`. An outcome is the text of the exception. -/
structure State where
  shouldStop : Bool
  connectDone : Bool
  connectError : String
  io : IoThread
  owner : Owner
  attempts : List (Except String Unit)
  returns : List (Except String Unit)

def initial : State where
  shouldStop := false
  connectDone := false
  connectError := ""
  io := .none
  owner := .idle
  attempts := []
  returns := []

/-- What `do_connect` passes to `notify_connect`. -/
def errorMsg : Except String Unit → String
  | .ok _ => ""
  | .error text => text

inductive Label where
  | connect
  | lock
  | check
  | spuriousWake
  | unlock
  | decide
  | join
  | disconnect
  | attemptEnds (outcome : Except String Unit)
  | ioLock
  | storeDone
  | storeError
  | ioUnlock
  | notifyOne
  | ioEnds

def step (state : State) : Label → Option State
  | .connect =>
    match state.owner, state.io with
    | .idle, .none =>
      some { state with
        shouldStop := false
        connectDone := false
        connectError := ""
        io := .connecting
        owner := .locking }
    | _, _ => none
  | .lock =>
    match state.owner with
    | .locking => if state.io.holds then none else some { state with owner := .checking }
    | _ => none
  | .check =>
    -- A wait that goes on releases the mutex and blocks in one step.
    match state.owner with
    | .checking => some { state with owner := if state.connectDone then .waited else .blocked }
    | _ => none
  | .spuriousWake =>
    match state.owner with
    | .blocked => some { state with owner := .locking }
    | _ => none
  | .unlock =>
    match state.owner with
    | .waited => some { state with owner := .deciding }
    | _ => none
  | .decide =>
    match state.owner with
    | .deciding =>
      if state.connectError = "" then
        some { state with owner := .idle, returns := state.returns ++ [.ok ()] }
      else some { state with shouldStop := true, owner := .joining }
    | _ => none
  | .join =>
    match state.owner, state.io with
    | .joining, .finished =>
      some { state with
        io := .none
        owner := .idle
        returns := state.returns ++ [.error ("WebSocket connect failed: " ++ state.connectError)] }
    | .leaving, .finished => some { state with io := .none, owner := .idle }
    | _, _ => none
  | .disconnect =>
    match state.owner with
    | .idle =>
      some { state with
        shouldStop := true, owner := if state.io = .none then .idle else .leaving }
    | _ => none
  | .attemptEnds outcome =>
    match state.io with
    | .connecting =>
      some { state with
        io := .locking (errorMsg outcome), attempts := state.attempts ++ [outcome] }
    | _ => none
  | .ioLock =>
    match state.io with
    | .locking text => if state.owner.holds then none else some { state with io := .holding text }
    | _ => none
  | .storeDone =>
    match state.io with
    | .holding text => some { state with connectDone := true, io := .doneStored text }
    | _ => none
  | .storeError =>
    match state.io with
    | .doneStored text => some { state with connectError := text, io := .errorStored }
    | _ => none
  | .ioUnlock =>
    match state.io with
    | .errorStored => some { state with io := .notifying }
    | _ => none
  | .notifyOne =>
    match state.io with
    | .notifying =>
      some { state with
        io := .running, owner := if state.owner = .blocked then .locking else state.owner }
    | _ => none
  | .ioEnds =>
    match state.io with
    | .running => some { state with io := .finished }
    | _ => none

def machine : Machine State Label where
  step := step

/-- What a call of `connect` makes of the outcome of its attempt. A failure whose text is
empty cannot be told from a success. -/
def report : Except String Unit → Except String Unit
  | .ok _ => .ok ()
  | .error text => if text = "" then .ok () else .error ("WebSocket connect failed: " ++ text)

theorem report_eq (outcome : Except String Unit) :
    report outcome = if errorMsg outcome = "" then .ok ()
      else .error ("WebSocket connect failed: " ++ errorMsg outcome) := by
  cases outcome <;> rfl

/-- The thread has released the mutex with the outcome stored. -/
def IoThread.published : IoThread → Bool
  | .notifying | .running | .finished => true
  | _ => false

/-- What the shared fields hold while the thread is at a place, for the outcome of the
current attempt. -/
def Shows (text : String) (state : State) : Prop :=
  match state.io with
  | .none | .connecting => False
  | .locking passed | .holding passed => passed = text ∧ state.connectDone = false
  | .doneStored passed => passed = text ∧ state.connectDone = true
  | .errorStored | .notifying | .running | .finished =>
    state.connectDone = true ∧ state.connectError = text

/-- The caller is inside `connect`. -/
def Owner.calling : Owner → Bool
  | .idle | .leaving => false
  | _ => true

/-- The caller has seen that the attempt is done. -/
def Owner.informed : Owner → Bool
  | .waited | .deciding | .joining => true
  | _ => false

/-- The calls so far reported their own attempts, and one that has not returned is on the
way to do the same. -/
inductive Progress (state : State) : Prop where
  | between (quiet : state.owner.calling = false) (settled : state.io ≠ .connecting)
      (reported : state.returns = state.attempts.map report)
  | connecting (calling : state.owner.calling = true) (place : state.io = .connecting)
      (pending : state.connectDone = false) (reported : state.returns = state.attempts.map report)
  | attempted {earlier : List (Except String Unit)} {outcome : Except String Unit}
      (calling : state.owner.calling = true) (current : state.attempts = earlier ++ [outcome])
      (shown : Shows (errorMsg outcome) state) (reported : state.returns = earlier.map report)

structure Consistent (state : State) : Prop where
  exclusive : state.owner.holds = true → state.io.holds = false
  progress : Progress state
  informed : state.owner.informed = true → state.io.published = true
  failed : state.owner = .joining → state.connectError ≠ ""
  awaited : state.owner = .blocked → state.io ≠ .running ∧ state.io ≠ .finished
  joinable : state.owner = .leaving → state.io ≠ .none

variable {state after : State} {label : Label}

theorem Consistent.initial : Consistent initial where
  exclusive := nofun
  progress := .between rfl nofun rfl
  informed := nofun
  failed := nofun
  awaited := nofun
  joinable := nofun

/-- The caller goes from one place in the call to another. -/
theorem Progress.ownerMoves (progress : Progress state) {owner : Owner} {shouldStop : Bool}
    (same : owner.calling = state.owner.calling) :
    Progress { state with owner := owner, shouldStop := shouldStop } := by
  cases progress with
  | between quiet settled reported => exact .between (same.trans quiet) settled reported
  | connecting calling place pending reported =>
    exact .connecting (same.trans calling) place pending reported
  | attempted calling current shown reported =>
    exact .attempted (same.trans calling) current shown reported

/-- The thread goes from one place in `notify_connect`, or after it, to the next. -/
theorem Progress.ioMoves (progress : Progress state) {io : IoThread} {connectDone : Bool}
    {connectError : String} {owner : Owner} (same : owner.calling = state.owner.calling)
    (left : state.io ≠ .connecting) (entered : io ≠ .connecting)
    (shows : ∀ text, Shows text state → Shows text { state with
      io := io, connectDone := connectDone, connectError := connectError }) :
    Progress { state with
      io := io, connectDone := connectDone, connectError := connectError, owner := owner } := by
  cases progress with
  | between quiet settled reported => exact .between (same.trans quiet) entered reported
  | connecting calling place pending reported => exact absurd place left
  | attempted calling current shown reported =>
    exact .attempted (same.trans calling) current (shows _ shown) reported

/-- A caller inside `connect` whose attempt has not been published finds it not done, or
finds the mutex taken. -/
theorem Consistent.published_of_done (consistent : Consistent state)
    (holds : state.owner = .checking) (done : state.connectDone = true) :
    state.io.published = true := by
  have free := consistent.exclusive (by rw [holds]; rfl)
  have calling : state.owner.calling = true := by rw [holds]; rfl
  cases consistent.progress with
  | between quiet settled reported => simp [calling] at quiet
  | connecting calling place pending reported => simp [done] at pending
  | attempted calling current shown reported =>
    cases place : state.io <;> simp_all [Shows, IoThread.holds, IoThread.published]

theorem Consistent.unfinished_of_pending (consistent : Consistent state)
    (holds : state.owner = .checking) (pending : state.connectDone = false) :
    state.io ≠ .running ∧ state.io ≠ .finished := by
  have calling : state.owner.calling = true := by rw [holds]; rfl
  cases consistent.progress with
  | between quiet settled reported => simp [calling] at quiet
  | connecting calling place pending reported => simp [place]
  | attempted calling current shown reported =>
    cases place : state.io <;> simp_all [Shows]

/-- A caller that has seen the attempt done reads what the attempt stored. -/
theorem Consistent.outcome (consistent : Consistent state)
    (informed : state.owner.informed = true) :
    ∃ earlier outcome, state.attempts = earlier ++ [outcome] ∧
      state.connectError = errorMsg outcome ∧ state.returns = earlier.map report := by
  have published := consistent.informed informed
  have calling : state.owner.calling = true := by
    cases place : state.owner <;> simp_all [Owner.informed, Owner.calling]
  cases consistent.progress with
  | between quiet settled reported => simp [calling] at quiet
  | connecting calling place pending reported => simp [place, IoThread.published] at published
  | attempted calling current shown reported =>
    refine ⟨_, _, current, ?_, reported⟩
    cases place : state.io <;> simp_all [Shows, IoThread.published]

theorem Consistent.check (consistent : Consistent state) (holds : state.owner = .checking) :
    Consistent { state with owner := if state.connectDone then .waited else .blocked } := by
  rcases Bool.eq_false_or_eq_true state.connectDone with done | pending
  · have published := consistent.published_of_done holds done
    have free := consistent.exclusive (by rw [holds]; rfl)
    rw [if_pos done]
    exact ⟨fun _ => free, consistent.progress.ownerMoves (by rw [holds]; rfl),
      fun _ => published, nofun, nofun, nofun⟩
  · have unfinished := consistent.unfinished_of_pending holds pending
    rw [if_neg (Bool.eq_false_iff.mp pending)]
    exact ⟨nofun, consistent.progress.ownerMoves (by rw [holds]; rfl), nofun, nofun,
      fun _ => unfinished, nofun⟩

/-- A call that returns has reported its own attempt. -/
theorem Consistent.returns (consistent : Consistent state)
    (informed : state.owner.informed = true) {result : Except String Unit}
    (told : result = if state.connectError = "" then .ok ()
      else .error ("WebSocket connect failed: " ++ state.connectError)) :
    state.returns ++ [result] = state.attempts.map report := by
  obtain ⟨earlier, outcome, current, stored, reported⟩ := consistent.outcome informed
  rw [current, reported, List.map_append, List.map_singleton, report_eq, ← stored, told]

theorem Consistent.decide (consistent : Consistent state) (deciding : state.owner = .deciding)
    (taken : step state .decide = some after) : Consistent after := by
  have informed : state.owner.informed = true := by rw [deciding]; rfl
  have published := consistent.informed informed
  have settled : state.io ≠ .connecting := by
    intro connecting
    simp [connecting, IoThread.published] at published
  simp only [step, deciding] at taken
  split at taken <;> cases taken
  · rename_i empty
    have reported := consistent.returns informed (if_pos empty).symm
    exact ⟨nofun, .between rfl settled reported, nofun, nofun, nofun, nofun⟩
  · rename_i failed
    exact ⟨nofun, consistent.progress.ownerMoves (by rw [deciding]; rfl), fun _ => published,
      fun _ => failed, nofun, nofun⟩

theorem Consistent.join (consistent : Consistent state)
    (taken : step state .join = some after) : Consistent after := by
  simp only [step] at taken
  split at taken
  · rename_i joining finished
    cases taken
    have failed := consistent.failed joining
    have reported := consistent.returns (by rw [joining]; rfl) (if_neg failed).symm
    exact ⟨nofun, .between rfl nofun reported, nofun, nofun, nofun, nofun⟩
  · rename_i leaving finished
    cases taken
    refine ⟨nofun, ?_, nofun, nofun, nofun, nofun⟩
    cases consistent.progress with
    | between quiet settled reported => exact .between rfl nofun reported
    | connecting calling place pending reported => simp [finished] at place
    | attempted calling current shown reported => simp [leaving, Owner.calling] at calling
  · cases taken

/-- A step of the thread before it has published the outcome finds no informed caller. -/
theorem Consistent.uninformed (consistent : Consistent state)
    (unpublished : state.io.published = false) {claim : Prop}
    (informed : state.owner.informed = true) : claim := by
  have published := consistent.informed informed
  simp [unpublished] at published

theorem Consistent.notJoining (consistent : Consistent state)
    (unpublished : state.io.published = false) {claim : Prop} (joining : state.owner = .joining) :
    claim :=
  consistent.uninformed unpublished (by rw [joining]; rfl)

theorem Consistent.attemptEnds (consistent : Consistent state) (connecting : state.io = .connecting)
    (outcome : Except String Unit) :
    Consistent { state with
      io := .locking (errorMsg outcome), attempts := state.attempts ++ [outcome] } := by
  have unpublished : state.io.published = false := by rw [connecting]; rfl
  refine ⟨fun _ => rfl, ?_, consistent.uninformed unpublished, consistent.failed,
    fun _ => ⟨nofun, nofun⟩, fun _ => nofun⟩
  cases consistent.progress with
  | between quiet settled reported => exact absurd connecting settled
  | connecting calling place pending reported =>
    exact .attempted calling rfl ⟨rfl, pending⟩ reported
  | attempted calling current shown reported => simp [Shows, connecting] at shown

theorem Consistent.ioLock (consistent : Consistent state) {text : String}
    (locking : state.io = .locking text) (free : state.owner.holds = false) :
    Consistent { state with io := .holding text } := by
  have unpublished : state.io.published = false := by rw [locking]; rfl
  refine ⟨?_, consistent.progress.ioMoves rfl (by rw [locking]; nofun) nofun ?_,
    consistent.uninformed unpublished, consistent.failed, fun _ => ⟨nofun, nofun⟩, fun _ => nofun⟩
  · intro holds
    simp [free] at holds
  · intro text shown
    simpa [Shows, locking] using shown

/-- A thread that holds the mutex goes on to a place where it has nothing published for a
caller to act on, or has just done so. -/
theorem Consistent.ownerFree (consistent : Consistent state) (taken : state.io.holds = true)
    {claim : Prop} (holds : state.owner.holds = true) : claim := by
  have free := consistent.exclusive holds
  simp [taken] at free

theorem Consistent.storeDone (consistent : Consistent state) {text : String}
    (holding : state.io = .holding text) :
    Consistent { state with connectDone := true, io := .doneStored text } := by
  have unpublished : state.io.published = false := by rw [holding]; rfl
  have taken : state.io.holds = true := by rw [holding]; rfl
  refine ⟨consistent.ownerFree taken,
    consistent.progress.ioMoves rfl (by rw [holding]; nofun) nofun ?_,
    consistent.uninformed unpublished, consistent.failed, fun _ => ⟨nofun, nofun⟩, fun _ => nofun⟩
  intro text shown
  simp only [Shows, holding] at shown ⊢
  exact ⟨shown.1, trivial⟩

theorem Consistent.storeError (consistent : Consistent state) {text : String}
    (stored : state.io = .doneStored text) :
    Consistent { state with connectError := text, io := .errorStored } := by
  have unpublished : state.io.published = false := by rw [stored]; rfl
  have taken : state.io.holds = true := by rw [stored]; rfl
  refine ⟨consistent.ownerFree taken,
    consistent.progress.ioMoves rfl (by rw [stored]; nofun) nofun ?_,
    consistent.uninformed unpublished, consistent.notJoining unpublished,
    fun _ => ⟨nofun, nofun⟩, fun _ => nofun⟩
  intro text shown
  simp only [Shows, stored] at shown ⊢
  exact ⟨shown.2, shown.1⟩

theorem Consistent.ioUnlock (consistent : Consistent state) (stored : state.io = .errorStored) :
    Consistent { state with io := .notifying } := by
  refine ⟨fun _ => rfl, consistent.progress.ioMoves rfl (by rw [stored]; nofun) nofun ?_,
    fun _ => rfl, consistent.failed, fun _ => ⟨nofun, nofun⟩, fun _ => nofun⟩
  intro text shown
  simpa [Shows, stored] using shown

theorem Consistent.notifyOne (consistent : Consistent state) (notifying : state.io = .notifying) :
    Consistent { state with
      io := .running, owner := if state.owner = .blocked then .locking else state.owner } := by
  have shows (text : String) (shown : Shows text state) :
      Shows text { state with io := .running } := by
    simpa [Shows, notifying] using shown
  have left : state.io ≠ .connecting := by rw [notifying]; nofun
  by_cases blocked : state.owner = .blocked
  · rw [if_pos blocked]
    exact ⟨nofun, consistent.progress.ioMoves (by rw [blocked]; rfl) left nofun shows, nofun, nofun,
      nofun, nofun⟩
  · rw [if_neg blocked]
    exact ⟨fun _ => rfl, consistent.progress.ioMoves rfl left nofun shows, fun _ => rfl,
      consistent.failed, fun still => absurd still blocked, fun _ => nofun⟩

theorem Consistent.ioEnds (consistent : Consistent state) (running : state.io = .running) :
    Consistent { state with io := .finished } := by
  refine ⟨fun _ => rfl, consistent.progress.ioMoves rfl (by rw [running]; nofun) nofun ?_,
    fun _ => rfl, consistent.failed, ?_, fun _ => nofun⟩
  · intro text shown
    simpa [Shows, running] using shown
  · intro blocked
    exact absurd running (consistent.awaited blocked).1

theorem Consistent.disconnect (consistent : Consistent state) (idle : state.owner = .idle) :
    Consistent { state with
      shouldStop := true, owner := if state.io = .none then .idle else .leaving } := by
  by_cases unused : state.io = .none
  · rw [if_pos unused]
    exact ⟨nofun, consistent.progress.ownerMoves (by rw [idle]), nofun, nofun, nofun, nofun⟩
  · rw [if_neg unused]
    exact ⟨nofun, consistent.progress.ownerMoves (by rw [idle]; rfl), nofun, nofun, nofun,
      fun _ => unused⟩

theorem Consistent.connect (consistent : Consistent state) (idle : state.owner = .idle) :
    Consistent { state with
      shouldStop := false
      connectDone := false
      connectError := ""
      io := .connecting
      owner := .locking } := by
  refine ⟨nofun, ?_, nofun, nofun, nofun, nofun⟩
  cases consistent.progress with
  | between quiet settled reported => exact .connecting rfl rfl rfl reported
  | connecting calling place pending reported => simp [idle, Owner.calling] at calling
  | attempted calling current shown reported => simp [idle, Owner.calling] at calling

theorem Consistent.step (consistent : Consistent state)
    (taken : machine.step state label = some after) : Consistent after := by
  change ConnectHandshake.step state label = some after at taken
  cases label with
  | connect =>
    simp only [ConnectHandshake.step] at taken
    split at taken <;> cases taken
    exact consistent.connect ‹_›
  | lock =>
    simp only [ConnectHandshake.step] at taken
    split at taken
    · rename_i locking
      split at taken <;> cases taken
      rename_i free
      exact ⟨fun _ => Bool.eq_false_iff.mpr free,
        consistent.progress.ownerMoves (by rw [locking]; rfl), nofun, nofun, nofun, nofun⟩
    · cases taken
  | check =>
    simp only [ConnectHandshake.step] at taken
    split at taken <;> cases taken
    exact consistent.check ‹_›
  | spuriousWake =>
    simp only [ConnectHandshake.step] at taken
    split at taken <;> cases taken
    rename_i blocked
    exact ⟨nofun, consistent.progress.ownerMoves (by rw [blocked]; rfl), nofun, nofun, nofun, nofun⟩
  | unlock =>
    simp only [ConnectHandshake.step] at taken
    split at taken <;> cases taken
    rename_i waited
    exact ⟨nofun, consistent.progress.ownerMoves (by rw [waited]; rfl),
      fun _ => consistent.informed (by rw [waited]; rfl), nofun, nofun, nofun⟩
  | decide =>
    have deciding : state.owner = .deciding := by
      simp only [ConnectHandshake.step] at taken
      split at taken
      · assumption
      · cases taken
    exact consistent.decide deciding taken
  | join => exact consistent.join taken
  | disconnect =>
    simp only [ConnectHandshake.step] at taken
    split at taken <;> cases taken
    exact consistent.disconnect ‹_›
  | attemptEnds outcome =>
    simp only [ConnectHandshake.step] at taken
    split at taken <;> cases taken
    exact consistent.attemptEnds ‹_› outcome
  | ioLock =>
    simp only [ConnectHandshake.step] at taken
    split at taken
    · split at taken <;> cases taken
      rename_i free
      exact consistent.ioLock ‹_› (Bool.eq_false_iff.mpr free)
    · cases taken
  | storeDone =>
    simp only [ConnectHandshake.step] at taken
    split at taken <;> cases taken
    exact consistent.storeDone ‹_›
  | storeError =>
    simp only [ConnectHandshake.step] at taken
    split at taken <;> cases taken
    exact consistent.storeError ‹_›
  | ioUnlock =>
    simp only [ConnectHandshake.step] at taken
    split at taken <;> cases taken
    exact consistent.ioUnlock ‹_›
  | notifyOne =>
    simp only [ConnectHandshake.step] at taken
    split at taken <;> cases taken
    exact consistent.notifyOne ‹_›
  | ioEnds =>
    simp only [ConnectHandshake.step] at taken
    split at taken <;> cases taken
    exact consistent.ioEnds ‹_›

theorem reachable_consistent (reached : machine.Reachable Machine.anyStep initial state) :
    Consistent state :=
  reached.invariant Consistent.initial fun consistent _ taken => consistent.step taken

/-- A step that is not a wake-up for no reason. -/
def Proceeds (state : State) : Prop :=
  ∃ label, label ≠ .spuriousWake ∧ (machine.step state label).isSome

/-- A thread that exists and has not ended can go on while the caller leaves it the mutex. -/
theorem io_proceeds (free : state.owner.holds = false) (present : state.io ≠ .none)
    (unfinished : state.io ≠ .finished) : Proceeds state := by
  cases place : state.io with
  | none => exact absurd place present
  | connecting => exact ⟨.attemptEnds (.ok ()), nofun, by simp [machine, step, place]⟩
  | locking text => exact ⟨.ioLock, nofun, by simp [machine, step, place, free]⟩
  | holding text => exact ⟨.storeDone, nofun, by simp [machine, step, place]⟩
  | doneStored text => exact ⟨.storeError, nofun, by simp [machine, step, place]⟩
  | errorStored => exact ⟨.ioUnlock, nofun, by simp [machine, step, place]⟩
  | notifying => exact ⟨.notifyOne, nofun, by simp [machine, step, place]⟩
  | running => exact ⟨.ioEnds, nofun, by simp [machine, step, place]⟩
  | finished => exact absurd place unfinished

/-- While the caller is inside `connect` there is a thread. -/
theorem Consistent.present (consistent : Consistent state)
    (calling : state.owner.calling = true) : state.io ≠ .none := by
  cases consistent.progress with
  | between quiet settled reported => simp [calling] at quiet
  | connecting calling place pending reported => simp [place]
  | attempted calling current shown reported =>
    intro absent
    simp [Shows, absent] at shown

/-- Whoever joins the thread does so at its end or while it goes on. -/
theorem join_proceeds (joins : state.owner = .joining ∨ state.owner = .leaving)
    (present : state.io ≠ .none) : Proceeds state := by
  by_cases finished : state.io = .finished
  · refine ⟨.join, nofun, ?_⟩
    rcases joins with joining | leaving
    · simp [machine, step, joining, finished]
    · simp [machine, step, leaving, finished]
  · refine io_proceeds ?_ present finished
    rcases joins with joining | leaving
    · rw [joining]
      rfl
    · rw [leaving]
      rfl

theorem Consistent.proceeds (consistent : Consistent state) (busy : state.owner ≠ .idle) :
    Proceeds state := by
  cases place : state.owner with
  | idle => exact absurd place busy
  | locking =>
    cases taken : state.io.holds with
    | false => exact ⟨.lock, nofun, by simp [machine, ConnectHandshake.step, place, taken]⟩
    | true =>
      apply io_proceeds
      · rw [place]
        rfl
      · intro absent
        simp [absent, IoThread.holds] at taken
      · intro finished
        simp [finished, IoThread.holds] at taken
  | checking => exact ⟨.check, nofun, by simp [machine, ConnectHandshake.step, place]⟩
  | waited => exact ⟨.unlock, nofun, by simp [machine, ConnectHandshake.step, place]⟩
  | deciding =>
    refine ⟨.decide, nofun, ?_⟩
    by_cases empty : state.connectError = "" <;>
      simp [machine, ConnectHandshake.step, place, empty]
  | blocked =>
    have present := consistent.present (by rw [place]; rfl)
    exact io_proceeds (by rw [place]; rfl) present (consistent.awaited place).2
  | joining => exact join_proceeds (.inl place) (consistent.present (by rw [place]; rfl))
  | leaving => exact join_proceeds (.inr place) (consistent.joinable place)

/-- In every interleaving of any number of calls, with wake-ups for no reason: every
`connect` reports the outcome of its own attempt, except that a failure without a text
counts as a success. A caller that is blocked has its notification still to come, and a
caller inside a call is never stuck. -/
theorem connect_reports_own_attempt (reached : machine.Reachable Machine.anyStep initial state) :
    state.returns <+: state.attempts.map report ∧
      (state.owner = .idle → state.returns = state.attempts.map report) ∧
      (state.owner = .blocked →
        state.io ≠ .none ∧ state.io ≠ .running ∧ state.io ≠ .finished) ∧
      (state.owner ≠ .idle → Proceeds state) := by
  have consistent := reachable_consistent reached
  refine ⟨?_, ?_, ?_, consistent.proceeds⟩
  · cases consistent.progress with
    | between quiet settled reported => exact reported ▸ List.prefix_refl _
    | connecting calling place pending reported => exact reported ▸ List.prefix_refl _
    | attempted calling current shown reported =>
      rw [reported, current, List.map_append]
      exact List.prefix_append _ _
  · intro idle
    cases consistent.progress with
    | between quiet settled reported => exact reported
    | connecting calling place pending reported => simp [idle, Owner.calling] at calling
    | attempted calling current shown reported => simp [idle, Owner.calling] at calling
  · intro blocked
    exact ⟨consistent.present (by rw [blocked]; rfl), consistent.awaited blocked⟩

/-- A failed call whose caller is woken once for no reason, then a call whose attempt is
over before the caller gets to wait. -/
theorem connect_reports_own_attempt_twice :
    ∃ state, machine.Reachable Machine.anyStep initial state ∧
      (state.owner = .idle ∧ state.returns.map Except.isOk = [false, true]) ∧
        state.returns <+: state.attempts.map report ∧
          (state.owner = .idle → state.returns = state.attempts.map report) ∧
          (state.owner = .blocked →
            state.io ≠ .none ∧ state.io ≠ .running ∧ state.io ≠ .finished) ∧
          (state.owner ≠ .idle → Proceeds state) := by
  have called : ∃ state, machine.Reachable Machine.anyStep initial state ∧
      (state.owner = .idle ∧ state.returns.map Except.isOk = [false, true]) :=
    Machine.exists_reachable_of_run
      [.connect, .lock, .check, .spuriousWake, .lock, .check,
        .attemptEnds (.error "Host not found"), .ioLock, .storeDone, .storeError, .ioUnlock,
        .notifyOne, .lock, .check, .unlock, .decide, .ioEnds, .join,
        .connect, .attemptEnds (.ok ()), .ioLock, .storeDone, .storeError, .ioUnlock, .lock, .check,
        .unlock, .decide] (by decide)
  obtain ⟨state, reached, results⟩ := called
  exact ⟨state, reached, results, connect_reports_own_attempt reached⟩

end Bintrade.Ws.ConnectHandshake
