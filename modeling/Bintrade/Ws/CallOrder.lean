import Bintrade.Ws.ThreadHandles

/-! Which orders of calls keep the thread handles of the streams from being used while they
are joinable. The order is judged by the calls and their outcomes alone; an invariant
connects what they tell to the handles. -/

namespace Bintrade.Ws

open Bintrade.System Bintrade.Core Bintrade.Auth Bintrade.Rest

/-- What the calls on a stream so far tell about its threads: a call in queued mode started
a consumer, and a call connected, and no call ended them since. -/
structure CallRecord where
  consuming : Bool
  connected : Bool
  deriving DecidableEq

namespace CallRecord

def clear : CallRecord := ⟨false, false⟩

/-- After a call that installs the dispatch and connects, with the text that the connection
attempt left in `connect_error`. -/
def opened (mode : DispatchMode) (connectError : String) (record : CallRecord) : CallRecord where
  consuming := record.consuming || mode = .queued
  connected := record.connected || connectError.isEmpty

end CallRecord

/-- The handles are joinable exactly as the record tells. A consumer is started in queued
mode only, which is `fixed` by then. -/
structure Recorded (mode : DispatchMode) (fixed : Bool) (queueState : Option QueueState)
    (ioThread : Handle) (record : CallRecord) : Prop where
  consumer : consumerJoinable queueState = record.consuming
  connection : ioThread = .joinable ↔ record.connected = true
  queued : record.consuming = true → mode = .queued ∧ fixed = true

section Records

variable {mode : DispatchMode} {fixed : Bool} {queueState : Option QueueState}
  {ioThread : Handle} {record : CallRecord}

theorem Recorded.fresh {mode : DispatchMode} {fixed : Bool} :
    Recorded mode fixed none .vacant .clear :=
  ⟨rfl, by decide, nofun⟩

/-- An inline stream has no consumer, so its mode need not be asked for. -/
theorem Recorded.consumerVacant_eq (recorded : Recorded mode fixed queueState ioThread record) :
    consumerVacant mode queueState = !record.consuming := by
  rw [consumerVacant, recorded.consumer]
  cases consuming : record.consuming with
  | false => exact Bool.or_true _
  | true =>
    rw [(recorded.queued consuming).1]
    rfl

theorem Recorded.vacant_iff (recorded : Recorded mode fixed queueState ioThread record) :
    ioThread = .vacant ↔ record.connected = false := by
  rw [← Bool.not_eq_true, ← recorded.connection]
  cases ioThread <;> decide

/-- After the mode changed, which it does only as long as it is not fixed. -/
theorem Recorded.changeMode (recorded : Recorded mode false queueState ioThread record)
    (changed : DispatchMode) : Recorded changed false queueState ioThread record :=
  ⟨recorded.consumer, recorded.connection,
    fun consuming => absurd (recorded.queued consuming).2 Bool.false_ne_true⟩

/-- After the dispatch was installed and the connection attempted. -/
theorem Recorded.opened {connectError : String} {installed : Option QueueState} {after : Handle}
    (recorded : Recorded mode fixed queueState ioThread record) (idle : ioThread = .vacant)
    (started : consumerJoinable installed = (consumerJoinable queueState || mode = .queued))
    (connection : after = .joinable ↔ connectError.isEmpty = true) :
    Recorded mode true installed after (record.opened mode connectError) where
  consumer := by rw [started, recorded.consumer]; rfl
  connection := by
    rw [connection, CallRecord.opened, recorded.vacant_iff.mp idle, Bool.false_or]
  queued := by
    intro consuming
    refine ⟨?_, rfl⟩
    rcases Bool.or_eq_true_iff.mp consuming with before | queued
    · exact (recorded.queued before).1
    · exact of_decide_eq_true queued

end Records

namespace UserStream

/-- A `start()` that gets a listen key opens a connection, and `stop()` closes it. -/
def noteCall (life : Life) (operation : Operation) (record : CallRecord) : CallRecord :=
  match life with
  | .alive stream =>
    match operation with
    | .start services connectError =>
      if stream.obtainsKey services then record.opened stream.dispatchMode connectError
      else record
    | .stop _ => .clear
    | .setDispatchMode _ | .keepAlive _ | .destroy => record
  | .destroyed | .terminated => record

/-- A `start()` that gets a listen key comes first or after `stop()`, unless all that such
calls did before was to fail to connect in inline mode; the destruction does not follow a
`start()` that connected without a `stop()` between them. -/
def inOrder (stream : UserStream) (record : CallRecord) : Operation → Bool
  | .start services _ => !stream.obtainsKey services || record = .clear
  | .destroy => !record.connected
  | _ => true

def InOrder (observed : Life × CallRecord) (operation : Operation) : Prop :=
  match observed.1 with
  | .alive stream => stream.inOrder observed.2 operation = true
  | _ => True

instance : (observed : Life × CallRecord) → (operation : Operation) →
    Decidable (InOrder observed operation)
  | (.alive stream, record), operation => instDecidableEqBool (stream.inOrder record operation) true
  | (.destroyed, _), _ | (.terminated, _), _ => isTrue trivial

/-- The keep-alive thread runs with the I/O thread. -/
structure Tracked (stream : UserStream) (record : CallRecord) : Prop where
  recorded : Recorded stream.dispatchMode stream.started stream.queueState stream.ioThread record
  keepAlive : stream.keepAliveThread = stream.ioThread

def Tracks (observed : Life × CallRecord) : Prop :=
  match observed.1 with
  | .alive stream => stream.Tracked observed.2
  | _ => True

section Calls

variable {stream after : UserStream} {record : CallRecord}

theorem Tracked.handlesVacant_eq (tracked : stream.Tracked record) (connectError : String) :
    stream.handlesVacant connectError = decide (record = .clear) := by
  rw [handlesVacant, tracked.keepAlive, tracked.recorded.consumerVacant_eq]
  have idle := tracked.recorded.vacant_iff
  obtain ⟨consuming, connected⟩ := record
  cases connected with
  | true => cases consuming <;> simp [idle, CallRecord.clear]
  | false => cases consuming <;> simp [idle, CallRecord.clear]

/-- Judged by the record, a call is in order exactly if it meets no joinable handle. -/
theorem Tracked.joinedFirst_eq (tracked : stream.Tracked record) (operation : Operation) :
    stream.joinedFirst operation = stream.inOrder record operation := by
  cases operation with
  | start services connectError =>
    rw [joinedFirst, inOrder, tracked.handlesVacant_eq]
  | destroy =>
    have idle := tracked.recorded.vacant_iff
    rw [joinedFirst, inOrder, tracked.keepAlive]
    cases connected : record.connected <;> simp [idle, connected]
  | setDispatchMode mode => rfl
  | keepAlive services => rfl
  | stop services => rfl

theorem Tracked.run {connectError : String} (tracked : stream.Tracked record)
    (fixed : stream.started = true)
    (left : (stream.run connectError).object? = some after) :
    after.Tracked (record.opened stream.dispatchMode connectError) := by
  unfold UserStream.run installDispatch connect at left
  rcases installDispatch_cases stream.dispatchMode stream.queueState with
    ⟨ended, -⟩ | ⟨queueState, installed, -, started⟩
  · rw [ended] at left
    cases left
  · rw [installed] at left
    simp only [Completion.map, Completion.andThen] at left
    rcases connect_cases connectError stream.ioThread with
      ⟨ended, -⟩ | ⟨connected, idle, succeeded⟩ | ⟨error, refused, idle, failed⟩
    · rw [ended] at left
      cases left
    · rw [connected] at left
      simp only [startKeepAlive, tracked.keepAlive, idle, Handle.launch] at left
      cases left
      refine ⟨?_, rfl⟩
      rw [fixed]
      exact tracked.recorded.opened idle started (iff_of_true rfl succeeded)
    · rw [refused] at left
      cases left
      refine ⟨?_, tracked.keepAlive.trans idle⟩
      rw [fixed]
      exact tracked.recorded.opened idle started (by simp [failed])

/-- From the listen key on, the record is that of the connection. -/
theorem Tracked.start {services : Services} {connectError : String}
    (tracked : stream.Tracked record)
    (left : (stream.start services connectError).object? = some after) :
    after.Tracked (if stream.obtainsKey services then
      record.opened stream.dispatchMode connectError else record) := by
  have fixed : Recorded stream.dispatchMode true stream.queueState stream.ioThread record :=
    ⟨tracked.recorded.consumer, tracked.recorded.connection,
      fun consuming => ⟨(tracked.recorded.queued consuming).1, rfl⟩⟩
  unfold UserStream.start at left
  unfold obtainsKey
  cases known : stream.credentials.hasCredentials with
  | false =>
    rw [known] at left
    cases left
    exact tracked
  | true =>
    rw [known, if_pos rfl] at left
    cases created : createListenKey services with
    | error error =>
      rw [created] at left
      cases left
      exact ⟨fixed, tracked.keepAlive⟩
    | ok key =>
      simp only [created] at left
      simp only [Bool.true_and]
      cases empty : key.isEmpty with
      | true =>
        rw [empty, if_pos rfl] at left
        cases left
        exact ⟨fixed, tracked.keepAlive⟩
      | false =>
        rw [empty, if_neg Bool.false_ne_true] at left
        have ready : Tracked { stream with
            started := true, listenKey := key, openKeys := key :: stream.openKeys } record :=
          ⟨fixed, tracked.keepAlive⟩
        exact ready.run rfl left

theorem Tracked.stop {services : Services} (left : (stream.stop services).object? = some after) :
    after.Tracked .clear := by
  have handles : ∀ object : UserStream, (object.deleteKey services).queueState = object.queueState ∧
      (object.deleteKey services).keepAliveThread = object.keepAliveThread := by
    intro object
    unfold deleteKey
    split
    · exact ⟨rfl, rfl⟩
    · split <;> exact ⟨rfl, rfl⟩
  cases left
  refine ⟨⟨?_, iff_of_false nofun nofun, nofun⟩, (handles _).2⟩
  change consumerJoinable (deleteKey services _).queueState = false
  rw [(handles _).1, consumerJoinable_stopConsumer]

theorem Tracked.setDispatchMode {mode : DispatchMode} (tracked : stream.Tracked record)
    (left : (stream.setDispatchMode mode).object? = some after) : after.Tracked record := by
  unfold UserStream.setDispatchMode at left
  cases started : stream.started with
  | true =>
    rw [started] at left
    cases left
    exact tracked
  | false =>
    have recorded := tracked.recorded
    rw [started] at left recorded
    cases left
    exact ⟨recorded.changeMode mode, tracked.keepAlive⟩

theorem Tracked.keepAliveCall {services : Services} (tracked : stream.Tracked record)
    (left : (stream.keepAlive services).object? = some after) : after.Tracked record := by
  unfold UserStream.keepAlive at left
  split at left <;> cases left <;> exact tracked

end Calls

section Steps

variable {before after : Life × CallRecord} {operation : Operation}

theorem tracks_step (tracked : Tracks before)
    (taken : (machine.observe noteCall).step before operation = some after) : Tracks after := by
  obtain ⟨moved, noted⟩ := Machine.observe_step taken
  obtain ⟨life, record⟩ := before
  obtain ⟨next, later⟩ := after
  subst noted
  cases life with
  | destroyed => cases moved
  | terminated => cases moved
  | alive stream =>
    obtain rfl := Option.some.inj moved
    cases ended : (stream.call operation).object? with
    | none => trivial
    | some left =>
      cases operation with
      | setDispatchMode mode => exact Tracked.setDispatchMode tracked ended
      | start services connectError => exact Tracked.start tracked ended
      | keepAlive services => exact Tracked.keepAliveCall tracked ended
      | stop services => exact Tracked.stop ended
      | destroy => trivial

/-- In every run the record tells the handles. -/
theorem tracks_of_reachable {credentials : Credentials} {observed : Life × CallRecord}
    (reached : (machine.observe noteCall).Reachable Machine.anyStep
      (.alive (fresh credentials), .clear) observed) : Tracks observed := by
  have initially : Tracks (.alive (fresh credentials), .clear) := ⟨.fresh, rfl⟩
  exact reached.invariant initially fun tracked _ taken => tracks_step tracked taken

theorem terminated_observed_step (tracked : Tracks before)
    (taken : (machine.observe noteCall).step before operation = some after) :
    after.1 = .terminated ↔ before.1 = .terminated ∨ ¬ InOrder before operation := by
  rw [terminated_step (Machine.observe_step taken).1]
  obtain ⟨life, record⟩ := before
  cases life with
  | alive stream =>
    have judged := Tracked.joinedFirst_eq tracked operation
    simp only [JoinedFirst, InOrder, judged]
  | destroyed => exact .rfl
  | terminated => exact .rfl

end Steps

end UserStream

namespace MarketStream

/-- A subscription opens a connection and `disconnect()` closes it, but leaves the consumer;
a move takes both from its source. -/
def noteCall (process : Process) (operation : Operation) (records : Nat → CallRecord) :
    Nat → CallRecord :=
  match operation with
  | .construct address => Function.update records address .clear
  | .subscribe address connectError =>
    match process.streams address with
    | some stream =>
      Function.update records address
        ((records address).opened stream.dispatchMode connectError)
    | none => records
  | .disconnect address =>
    Function.update records address { records address with connected := false }
  | .moveConstruct target source | .moveAssign target source =>
    if target = source then records
    else Function.update (Function.update records source .clear) target (records source)
  | .setDispatchMode _ _ | .destroy _ => records

/-- A stream is subscribed while it has neither a connection nor a consumer, and is not moved
onto while it has a consumer. -/
def InOrder (observed : Process × (Nat → CallRecord)) : Operation → Prop
  | .subscribe address _ => observed.2 address = .clear
  | .moveAssign target source => target = source ∨ (observed.2 target).consuming = false
  | _ => True

instance (observed : Process × (Nat → CallRecord)) :
    (operation : Operation) → Decidable (InOrder observed operation)
  | .subscribe address _ => decEq (observed.2 address) .clear
  | .moveAssign target source =>
    @instDecidableOr _ _ (Nat.decEq target source)
      (instDecidableEqBool (observed.2 target).consuming false)
  | .construct _ | .moveConstruct _ _ | .setDispatchMode _ _ | .disconnect _ | .destroy _ =>
    isTrue trivial

def Tracked (stream : MarketStream) (record : CallRecord) : Prop :=
  Recorded stream.dispatchMode stream.subscribed stream.queueState
    (stream.impl.getD .vacant) record

/-- Every stream of a running process is tracked by the record of its address. -/
def Tracks (observed : Process × (Nat → CallRecord)) : Prop :=
  observed.1.terminated = false → ∀ address stream,
    observed.1.streams address = some stream → stream.Tracked (observed.2 address)

section Calls

variable {stream after : MarketStream} {record : CallRecord}

theorem Tracked.handlesVacant_eq {ioThread : Handle} (tracked : stream.Tracked record)
    (held : stream.impl = some ioThread) :
    stream.handlesVacant = decide (record = .clear) := by
  have idle := tracked.vacant_iff
  rw [handlesVacant, tracked.consumerVacant_eq]
  rw [held, Option.getD_some] at idle
  obtain ⟨consuming, connected⟩ := record
  cases ioThread with
  | vacant => cases consuming <;> simp_all [CallRecord.clear]
  | joinable => cases consuming <;> simp_all [CallRecord.clear]

theorem Tracked.subscribe {connectError : String} {ioThread : Handle}
    (tracked : stream.Tracked record) (held : stream.impl = some ioThread)
    (left : (stream.subscribe connectError ioThread).object? = some after) :
    after.Tracked (record.opened stream.dispatchMode connectError) := by
  have recorded := tracked
  unfold Tracked at recorded
  rw [held, Option.getD_some] at recorded
  unfold MarketStream.subscribe installDispatch at left
  rcases installDispatch_cases stream.dispatchMode stream.queueState with
    ⟨ended, -⟩ | ⟨queueState, installed, -, started⟩
  · rw [ended] at left
    cases left
  · rw [installed] at left
    simp only [Completion.map, Completion.andThen] at left
    rcases connect_cases connectError ioThread with
      ⟨ended, -⟩ | ⟨connected, idle, succeeded⟩ | ⟨error, refused, idle, failed⟩
    · rw [ended] at left
      cases left
    · rw [connected] at left
      cases left
      exact recorded.opened idle started (iff_of_true rfl succeeded)
    · rw [refused] at left
      cases left
      exact recorded.opened idle started (by simp [failed])

theorem Tracked.disconnect (tracked : stream.Tracked record) :
    stream.disconnect.Tracked { record with connected := false } := by
  refine ⟨tracked.consumer, iff_of_false ?_ nofun, tracked.queued⟩
  cases held : stream.impl <;> simp [MarketStream.disconnect, held]

theorem Tracked.setDispatchMode {mode : DispatchMode} (tracked : stream.Tracked record)
    (left : (stream.setDispatchMode mode).object? = some after) : after.Tracked record := by
  unfold MarketStream.setDispatchMode at left
  cases subscribed : stream.subscribed with
  | true =>
    rw [subscribed] at left
    cases left
    exact tracked
  | false =>
    have recorded := tracked
    unfold Tracked at recorded
    rw [subscribed] at left recorded
    cases left
    have changed := recorded.changeMode mode
    exact subscribed ▸ changed

end Calls

section Steps

variable {process : Process} {records : Nat → CallRecord} {operation : Operation}
  {before after : Process × (Nat → CallRecord)}

theorem Tracks.put {address : Nat} {stream : Option MarketStream} {record : CallRecord}
    (tracks : Tracks (process, records))
    (now : process.terminated = false → ∀ object, stream = some object → object.Tracked record) :
    Tracks (process.put address stream, Function.update records address record) := by
  intro running other object found
  change Function.update process.streams address stream other = some object at found
  change object.Tracked (Function.update records address record other)
  by_cases same : other = address
  · subst same
    rw [Function.update_self] at found ⊢
    exact now running object found
  · rw [Function.update_of_ne same] at found ⊢
    exact tracks running other object found

theorem Tracks.put_same {address : Nat} {stream : Option MarketStream}
    (tracks : Tracks (process, records))
    (now : process.terminated = false → ∀ object, stream = some object →
      object.Tracked (records address)) :
    Tracks (process.put address stream, records) := by
  have placed : Tracks
      (process.put address stream, Function.update records address (records address)) :=
    tracks.put now
  rwa [Function.update_eq_self] at placed

theorem Tracks.settle {call : Completion Exception MarketStream} {kept : MarketStream → Process}
    (left : ∀ object, call.object? = some object → Tracks (kept object, records)) :
    Tracks (process.settle call kept, records) := by
  unfold Process.settle
  cases ended : call.object? with
  | some object => exact left object ended
  | none =>
    intro running
    cases running

/-- A move leaves nothing at its source. -/
theorem Tracks.move {target source : Nat} {moved : MarketStream}
    (tracks : Tracks (process, records)) (found : process.streams source = some moved) :
    Tracks ((process.put source (some moved.movedFrom)).put target (some moved),
      Function.update (Function.update records source .clear) target (records source)) := by
  refine Tracks.put (tracks.put ?_) ?_
  · rintro - object ⟨⟩
    exact ⟨rfl, iff_of_false nofun nofun, nofun⟩
  · rintro running object ⟨⟩
    exact tracks running source moved found

theorem tracks_step (tracks : Tracks before)
    (taken : (machine.observe noteCall).step before operation = some after) : Tracks after := by
  obtain ⟨moved, noted⟩ := Machine.observe_step taken
  obtain ⟨process, records⟩ := before
  obtain ⟨next, later⟩ := after
  subst noted
  change step process operation = some next at moved
  unfold step at moved
  split at moved
  · cases moved
  · rename_i running
    have going : process.terminated = false := Bool.not_eq_true _ |>.mp running
    cases operation with
    | construct address =>
      simp only at moved
      split at moved <;> cases moved
      refine tracks.put ?_
      rintro - object ⟨⟩
      exact .fresh
    | moveConstruct target source =>
      simp only at moved
      split at moved <;> cases moved
      rename_i vacant found
      have apart : target ≠ source := by
        rintro rfl
        rw [vacant] at found
        cases found
      simp only [noteCall, if_neg apart]
      exact tracks.move found
    | setDispatchMode address mode =>
      simp only at moved
      split at moved <;> cases moved
      rename_i stream found
      refine Tracks.settle ?_
      intro object left
      refine tracks.put_same ?_
      rintro - placed ⟨⟩
      exact Tracked.setDispatchMode (tracks going address stream found) left
    | subscribe address connectError =>
      simp only at moved
      split at moved
      · rename_i stream found
        obtain ⟨ioThread, held, rfl⟩ := Option.map_eq_some_iff.mp moved
        simp only [noteCall, found]
        refine Tracks.settle ?_
        intro object left
        refine tracks.put ?_
        rintro - placed ⟨⟩
        exact Tracked.subscribe (tracks going address stream found) held left
      · cases moved
    | disconnect address =>
      simp only at moved
      split at moved
      · rename_i stream found
        obtain ⟨ioThread, -, rfl⟩ := Option.map_eq_some_iff.mp moved
        refine tracks.put ?_
        rintro - placed ⟨⟩
        exact Tracked.disconnect (tracks going address stream found)
      · cases moved
    | moveAssign target source =>
      simp only at moved
      split at moved
      · rename_i stream given found other
        split at moved
        · rename_i same
          cases moved
          simp only [noteCall, if_pos same]
          exact tracks
        · rename_i apart
          cases moved
          simp only [noteCall, if_neg apart]
          refine Tracks.settle ?_
          intro object left
          obtain ⟨-, rfl⟩ := Completion.object?_map left
          exact tracks.move other
      · cases moved
    | destroy address =>
      simp only at moved
      split at moved <;> cases moved
      refine Tracks.settle ?_
      intro object left
      refine tracks.put_same ?_
      rintro - placed ⟨⟩

theorem tracks_of_reachable {observed : Process × (Nat → CallRecord)}
    (reached : (machine.observe noteCall).Reachable Machine.anyStep
      (.initial, fun _ => .clear) observed) : Tracks observed := by
  have initially : Tracks (.initial, fun _ => .clear) := by
    rintro - address stream ⟨⟩
  exact reached.invariant initially fun tracks _ taken => tracks_step tracks taken

/-- Judged by the records, a call is in order exactly if it meets no joinable handle. -/
theorem joinedFirst_iff_inOrder {next : Process} (tracks : Tracks (process, records))
    (taken : machine.step process operation = some next) :
    JoinedFirst process operation ↔ InOrder (process, records) operation := by
  change step process operation = some next at taken
  unfold step at taken
  split at taken
  · cases taken
  · rename_i running
    have tracked := tracks (Bool.not_eq_true _ |>.mp running)
    cases operation with
    | subscribe address connectError =>
      simp only at taken
      split at taken
      · rename_i stream found
        obtain ⟨ioThread, held, -⟩ := Option.map_eq_some_iff.mp taken
        rw [JoinedFirst, joinedFirst, found]
        simp only [Tracked.handlesVacant_eq (tracked address stream found) held,
          decide_eq_true_eq, InOrder]
      · cases taken
    | moveAssign target source =>
      simp only at taken
      split at taken
      · rename_i stream moved found other
        rw [JoinedFirst, joinedFirst, found]
        simp only [(tracked target stream found).consumer, Bool.or_eq_true, decide_eq_true_eq,
          Bool.not_eq_true', InOrder]
      · cases taken
    | construct address => exact iff_of_true rfl trivial
    | moveConstruct address source => exact iff_of_true rfl trivial
    | setDispatchMode address mode => exact iff_of_true rfl trivial
    | disconnect address => exact iff_of_true rfl trivial
    | destroy address => exact iff_of_true rfl trivial

theorem terminated_observed_step (tracks : Tracks before)
    (taken : (machine.observe noteCall).step before operation = some after) :
    after.1.terminated = true ↔ before.1.terminated = true ∨ ¬ InOrder before operation := by
  have moved := (Machine.observe_step taken).1
  rw [terminated_step moved, joinedFirst_iff_inOrder tracks moved]

end Steps

end MarketStream

/-- In every run of calls, however their requests and connections end, no operation assigns
to or destroys a joinable thread handle exactly if the calls are in order. For a
`UserStream`: no `start()` gets a listen key, and no destruction happens, between a `start()`
that connected and the next `stop()`, and no `start()` gets one between a `start()` in queued
mode that got one and the next `stop()`. For `MarketStream` objects: a subscription does not
follow one that connected without a `disconnect()` between them, and in queued mode it
follows none at all; no stream is moved onto one that was subscribed in queued mode. -/
theorem calls_in_order_iff (credentials : Credentials) (life : UserStream.Life)
    (record : CallRecord) (process : MarketStream.Process) (records : Nat → CallRecord)
    (lived : (UserStream.machine.observe UserStream.noteCall).Reachable Machine.anyStep
      (.alive (.fresh credentials), .clear) (life, record))
    (processed : (MarketStream.machine.observe MarketStream.noteCall).Reachable Machine.anyStep
      (.initial, fun _ => .clear) (process, records)) :
    (life ≠ .terminated ↔
      (UserStream.machine.observe UserStream.noteCall).Reachable UserStream.InOrder
        (.alive (.fresh credentials), .clear) (life, record)) ∧
    (¬ process.terminated = true ↔
      (MarketStream.machine.observe MarketStream.noteCall).Reachable MarketStream.InOrder
        (.initial, fun _ => .clear) (process, records)) := by
  constructor
  · let Ended (observed : UserStream.Life × CallRecord) : Prop := observed.1 = .terminated
    have initially : ¬ Ended (.alive (.fresh credentials), .clear) := by
      intro ended
      cases ended
    exact lived.good_iff initially fun earlier taken =>
      UserStream.terminated_observed_step (UserStream.tracks_of_reachable earlier) taken
  · let Ended (observed : MarketStream.Process × (Nat → CallRecord)) : Prop :=
      observed.1.terminated = true
    have initially : ¬ Ended (.initial, fun _ => .clear) := by
      intro ended
      cases ended
    exact processed.good_iff initially fun earlier taken =>
      MarketStream.terminated_observed_step (MarketStream.tracks_of_reachable earlier) taken

/-- A `UserStream` in queued mode that is stopped before it is started again and before it is
destroyed, and `MarketStream` objects of which one is subscribed again after a disconnect and
another is moved onto it: no call ended the process. -/
theorem stopped_before_destruction :
    ∃ (record : CallRecord) (process : MarketStream.Process) (records : Nat → CallRecord),
      (UserStream.machine.observe UserStream.noteCall).Reachable Machine.anyStep
          (.alive (.fresh ⟨some ("key", "secret")⟩), .clear) (.destroyed, record) ∧
        UserStream.Life.destroyed ≠ .terminated ∧
        (MarketStream.machine.observe MarketStream.noteCall).Reachable Machine.anyStep
          (.initial, fun _ => .clear) (process, records) ∧
        ¬ process.terminated = true := by
  have evaluated : (UserStream.machine.observe UserStream.noteCall).run UserStream.InOrder
      (.alive (.fresh ⟨some ("key", "secret")⟩), .clear)
        [.setDispatchMode .queued, .start (granting "abc") "refused", .stop (granting "abc"),
          .start (granting "def") "", .stop (granting "def"), .destroy] =
      some (.destroyed, .clear) := rfl
  have lived := Machine.reachable_of_run evaluated
  obtain ⟨⟨process, records⟩, processed, -⟩ :
      ∃ observed, (MarketStream.machine.observe MarketStream.noteCall).Reachable
        MarketStream.InOrder (.initial, fun _ => .clear) observed ∧ True :=
    Machine.exists_reachable_of_run [.construct 0, .subscribe 0 "", .disconnect 0,
      .subscribe 0 "", .construct 1, .setDispatchMode 1 .queued, .subscribe 1 "refused",
      .moveAssign 0 1, .destroy 1, .destroy 0] (by decide)
  have safe := calls_in_order_iff _ _ _ process records lived.free processed.free
  exact ⟨_, process, records, lived.free, safe.1.mpr lived, processed.free, safe.2.mpr processed⟩

/-- A started stream is destroyed without `stop()`; a stream in queued mode is
subscribed again after a disconnect. -/
theorem joinable_handles_met :
    UserStream.machine.Reachable Machine.anyStep (.alive (.fresh ⟨some ("key", "secret")⟩))
      .terminated ∧
    ∃ process : MarketStream.Process,
      MarketStream.machine.Reachable Machine.anyStep .initial process ∧
        process.terminated = true := by
  constructor
  · have evaluated : UserStream.machine.run Machine.anyStep
        (.alive (.fresh ⟨some ("key", "secret")⟩)) [.start (granting "abc") "", .destroy] =
          some .terminated := rfl
    exact Machine.reachable_of_run evaluated
  · exact Machine.exists_reachable_of_run [.construct 0, .setDispatchMode 0 .queued,
      .subscribe 0 "", .disconnect 0, .subscribe 0 ""] (by decide)

end Bintrade.Ws
