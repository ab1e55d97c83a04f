import Bintrade.Ws.StreamLifecycle

/-! What `UserStream::start` leaves when it throws. -/

namespace Bintrade.Ws.UserStream

open Bintrade.System Bintrade.Core Bintrade.Auth Bintrade.Rest

/-- The call of `set_dispatch_mode` is accepted. -/
def Accepts (stream : UserStream) (mode : DispatchMode) : Prop :=
  ∃ after, stream.setDispatchMode mode = .returned after

/-- The stream is as it was before the call, and every listen key that the call
obtained has been deleted. -/
structure Restored (before after : UserStream) : Prop where
  started : after.started = before.started
  listenKey : after.listenKey = before.listenKey
  dispatchMode : ∀ mode, after.Accepts mode ↔ before.Accepts mode
  consumerThread : consumerJoinable after.queueState = consumerJoinable before.queueState
  keepAliveThread : after.keepAliveThread = before.keepAliveThread
  openKeys : after.openKeys = before.openKeys

variable {stream after : UserStream}

theorem accepts_iff {mode : DispatchMode} : stream.Accepts mode ↔ stream.started = false := by
  unfold Accepts setDispatchMode
  cases stream.started with
  | true => simp
  | false => simp

/-- After the listen key was obtained, `start()` leaves both keys and lists alone. -/
theorem keys_run {connectError : String}
    (left : (stream.run connectError).object? = some after) :
    after.listenKey = stream.listenKey ∧ after.openKeys = stream.openKeys := by
  let kept (object : UserStream) : Prop :=
    object.listenKey = stream.listenKey ∧ object.openKeys = stream.openKeys
  refine Completion.holds_andThen kept ?_ ?_ after left
  · refine Completion.holds_andThen kept ?_ ?_
    · intro installed left
      obtain ⟨queueState, rfl⟩ := Completion.object?_map left
      exact ⟨rfl, rfl⟩
    · intro installed same connected left
      obtain ⟨ioThread, rfl⟩ := Completion.object?_map left
      exact same
  · intro connected same running left
    obtain ⟨keepAliveThread, rfl⟩ := Completion.object?_map left
    exact same

theorem not_restored_of_key {connectError key : String} {error : Exception}
    (threw : run connectError { stream with
      started := true, listenKey := key, openKeys := key :: stream.openKeys } =
        .threw error after) :
    ¬ Restored stream after := by
  intro restored
  obtain ⟨-, kept⟩ := keys_run (congrArg Completion.object? threw)
  rw [restored.openKeys] at kept
  exact List.cons_ne_self _ _ kept.symm

theorem restored_started_iff : Restored stream { stream with started := true } ↔
    stream.started = true := by
  constructor
  · intro restored
    exact restored.started.symm
  · intro already
    exact ⟨already.symm, rfl, by simp [accepts_iff, already], rfl, rfl, rfl⟩

theorem restored_emptied_iff {key : String} (empty : key.isEmpty = true) :
    Restored stream { stream with started := true, listenKey := key } ↔
      stream.started = true ∧ stream.listenKey = "" := by
  obtain rfl := String.isEmpty_iff.mp empty
  constructor
  · intro restored
    exact ⟨restored.started.symm, restored.listenKey.symm⟩
  · rintro ⟨already, unset⟩
    exact ⟨already.symm, unset.symm, by simp [accepts_iff, already], rfl, rfl, rfl⟩

end Bintrade.Ws.UserStream

namespace Bintrade.Ws

open Bintrade.System Bintrade.Core Bintrade.Auth Bintrade.Rest

/-- A failed `start()` leaves the stream as it was exactly if there are no credentials,
or if an earlier call had set `started_` and this one obtained no listen key: the request
failed, or its empty answer found no key to replace. -/
theorem failed_start_restores_iff (services : Services) (connectError : String)
    (stream after : UserStream) (error : Exception)
    (threw : stream.start services connectError = .threw error after) :
    UserStream.Restored stream after ↔
      stream.credentials.hasCredentials = false ∨
        stream.started = true ∧ ((∃ failure, createListenKey services = .error failure) ∨
          createListenKey services = .ok "" ∧ stream.listenKey = "") := by
  unfold UserStream.start at threw
  cases known : stream.credentials.hasCredentials with
  | false =>
    rw [known] at threw
    cases threw
    exact iff_of_true ⟨rfl, rfl, fun _ => .rfl, rfl, rfl, rfl⟩ (.inl rfl)
  | true =>
    rw [known, if_pos rfl] at threw
    cases created : createListenKey services with
    | error failure =>
      rw [created] at threw
      cases threw
      rw [UserStream.restored_started_iff]
      simp
    | ok key =>
      simp only [created] at threw
      split at threw
      · rename_i empty
        cases threw
        rw [UserStream.restored_emptied_iff empty]
        simp [String.isEmpty_iff.mp empty]
      · rename_i given
        refine iff_of_false (UserStream.not_restored_of_key threw) ?_
        rintro (impossible | ⟨-, ⟨failure, impossible⟩ | ⟨same, -⟩⟩)
        · cases impossible
        · cases impossible
        · cases same
          exact given rfl

/-- A network that answers every request for a listen key with this one. -/
def granting (key : String) : Services :=
  { KeepAlive.answering (.ok ⟨200, "granted", .empty⟩) with
    parse := fun _ => .ok (.object [("listenKey", .string key)]) }

/-- A stream in queued mode whose first `start()` failed. -/
def startedBefore : UserStream :=
  { UserStream.fresh ⟨some ("key", "secret")⟩ with dispatchMode := .queued, started := true }

/-- A second `start()` without a network changes nothing more. -/
theorem restored_without_network :
    startedBefore.start (KeepAlive.answering (.error (.network "offline"))) "" =
        .threw (.network "offline") startedBefore ∧
      UserStream.Restored startedBefore startedBefore := by
  refine ⟨rfl, ?_⟩
  exact (failed_start_restores_iff (KeepAlive.answering (.error (.network "offline"))) ""
    startedBefore startedBefore (.network "offline") rfl).mpr (.inr ⟨rfl, .inl ⟨_, rfl⟩⟩)

/-- A fresh stream in queued mode. -/
def queuedStream : UserStream :=
  { UserStream.fresh ⟨some ("key", "secret")⟩ with dispatchMode := .queued }

/-- A connection that is refused leaves the consumer running, the mode fixed and the
listen key on the exchange. -/
theorem refused_connection_not_restored :
    ∃ after, queuedStream.start (granting "abc") "refused" =
        .threw (.network "WebSocket connect failed: refused") after ∧
      after.started = true ∧ after.listenKey = "abc" ∧ consumerJoinable after.queueState = true ∧
        after.openKeys = ["abc"] ∧ ¬ UserStream.Restored queuedStream after := by
  refine ⟨_, rfl, rfl, rfl, rfl, rfl, ?_⟩
  intro restored
  cases restored.started

end Bintrade.Ws
