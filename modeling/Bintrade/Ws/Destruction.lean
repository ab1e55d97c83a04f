import Bintrade.System.Machine
import Bintrade.Core.Config
import Mathlib.Tactic.ByContra

/-! The destructors of `MarketStream` and `UserStream`. C++ runs the destructor
body, destroys the derived members in reverse order of their declaration, then
the members of the base class; the I/O thread is joined by the last of these. -/

namespace Bintrade.Ws.Destruction

open Bintrade.System Bintrade.Core

inductive StreamKind where
  | market
  | user
  deriving DecidableEq

/-- The data members of both streams, and those of `Client::Impl` that are
destroyed before its `ws`. -/
inductive Member where
  | credentials
  | restConfig
  | listenKey
  | accountCallback
  | orderCallback
  | dispatchMode
  | started
  | subscribed
  | queueState
  | restHttp
  | keepAliveThread
  | keepAliveMutex
  | keepAliveCv
  | stopKeepAlive
  | onMessage
  | onError
  deriving DecidableEq

/-- The stream state that a delivery callback captured: the queue and the
callbacks of a `UserStream`. -/
def Member.captured : Member → Bool
  | .queueState | .orderCallback | .accountCallback => true
  | _ => false

/-- The members of the derived class in the order the header declares them. -/
def StreamKind.members : StreamKind → List Member
  | .market => [.dispatchMode, .subscribed, .queueState]
  | .user => [.credentials, .restConfig, .listenKey, .accountCallback, .orderCallback,
      .dispatchMode, .started, .queueState, .restHttp, .keepAliveThread, .keepAliveMutex,
      .keepAliveCv, .stopKeepAlive]

/-- Destruction order up to the destructor of `ws`, the first member of
`Client::Impl`. -/
def StreamKind.destructionOrder (kind : StreamKind) : List Member :=
  kind.members.reverse ++ [.onError, .onMessage]

/-- The events a user data stream dispatches on. -/
inductive EventType where
  | executionReport
  | outboundAccountPosition
  | other
  deriving DecidableEq

/-- What a delivery finds: the event of its message, whether the matching user
callback is set, and whether the queue is full. -/
structure Delivery where
  event : EventType
  callbackSet : Bool
  queueFull : Bool

/-- A callback member is tested and, if set, called. -/
def callbackAccesses (member : Member) (isSet : Bool) : List Member :=
  if isSet then [member, member] else [member]

/-- The members a delivery reads or writes, in order: `on_message`, then the
queue in `try_push`, or what the inline dispatch function captured. -/
def accesses (kind : StreamKind) (mode : DispatchMode) (delivery : Delivery) : List Member :=
  .onMessage ::
    match mode, kind with
    | .queued, _ =>
      if delivery.queueFull then [.queueState, .queueState]
      else [.queueState, .queueState, .queueState, .queueState]
    | .inline, .market => []
    | .inline, .user =>
      match delivery.event with
      | .executionReport => callbackAccesses .orderCallback delivery.callbackSet
      | .outboundAccountPosition => callbackAccesses .accountCallback delivery.callbackSet
      | .other => []

/-- Where the destroying thread stands. Destroying a joinable `std::thread`
calls `std::terminate`. -/
inductive Destructor where
  | stoppingConsumer
  | destroying (remaining : List Member)
  | disconnecting
  | joiningIo
  | finished
  | terminated
  deriving DecidableEq

inductive IoThread where
  | notRunning
  | reading
  | delivering (remaining : List Member)
  deriving DecidableEq

structure State where
  destructor : Destructor
  destroyed : List Member
  shouldStop : Bool
  io : IoThread
  faults : List Member
  deriving DecidableEq

/-- The stream when its destructor is entered. -/
structure Stream where
  kind : StreamKind
  mode : DispatchMode
  keepAliveJoinable : Bool
  connected : Bool
  deriving DecidableEq

def initial (stream : Stream) : State where
  destructor := .stoppingConsumer
  destroyed := []
  shouldStop := false
  io := if stream.connected then .reading else .notRunning
  faults := []

inductive Label where
  | readCompletes (delivery : Delivery)
  | access
  | deliveryReturns
  | stopConsumer
  | destroyMember
  | disconnect
  | joinIo

def step (stream : Stream) (state : State) : Label → Option State
  | .readCompletes delivery =>
    match state.destructor, state.io with
    | .terminated, _ => none
    | _, .reading =>
      if state.shouldStop then none
      else some { state with io := .delivering (accesses stream.kind stream.mode delivery) }
    | _, _ => none
  | .access =>
    match state.destructor, state.io with
    | .terminated, _ => none
    | _, .delivering (member :: rest) =>
      some { state with
        io := .delivering rest
        faults := if member ∈ state.destroyed then state.faults ++ [member] else state.faults }
    | _, _ => none
  | .deliveryReturns =>
    match state.destructor, state.io with
    | .terminated, _ => none
    | _, .delivering [] => some { state with io := .reading }
    | _, _ => none
  | .stopConsumer =>
    match state.destructor with
    | .stoppingConsumer =>
      some { state with destructor := .destroying stream.kind.destructionOrder }
    | _ => none
  | .destroyMember =>
    match state.destructor with
    | .destroying (member :: rest) =>
      if member = .keepAliveThread ∧ stream.keepAliveJoinable = true then
        some { state with destructor := .terminated }
      else some { state with
        destructor := .destroying rest, destroyed := member :: state.destroyed }
    | .destroying [] => some { state with destructor := .disconnecting }
    | _ => none
  | .disconnect =>
    match state.destructor with
    | .disconnecting => some { state with shouldStop := true, destructor := .joiningIo }
    | _ => none
  | .joinIo =>
    match state.destructor, state.io with
    | .joiningIo, .delivering _ => none
    | .joiningIo, _ => some { state with io := .notRunning, destructor := .finished }
    | _, _ => none

def machine (stream : Stream) : Machine State Label where
  step := step stream

variable {stream : Stream} {state after : State}

/-- Everything one step can do. -/
inductive Transition (stream : Stream) (state : State) : Label → State → Prop where
  | readCompletes (delivery : Delivery) (waiting : state.io = .reading) :
      Transition stream state (.readCompletes delivery)
        { state with io := .delivering (accesses stream.kind stream.mode delivery) }
  | access {member : Member} {rest : List Member}
      (pending : state.io = .delivering (member :: rest)) :
      Transition stream state .access
        { state with
          io := .delivering rest
          faults := if member ∈ state.destroyed then state.faults ++ [member]
            else state.faults }
  | deliveryReturns (done : state.io = .delivering []) :
      Transition stream state .deliveryReturns { state with io := .reading }
  | stopConsumer (inBody : state.destructor = .stoppingConsumer) :
      Transition stream state .stopConsumer
        { state with destructor := .destroying stream.kind.destructionOrder }
  | terminate {rest : List Member}
      (next : state.destructor = .destroying (.keepAliveThread :: rest))
      (joinable : stream.keepAliveJoinable = true) :
      Transition stream state .destroyMember { state with destructor := .terminated }
  | destroyMember {member : Member} {rest : List Member}
      (next : state.destructor = .destroying (member :: rest))
      (survives : ¬ (member = .keepAliveThread ∧ stream.keepAliveJoinable = true)) :
      Transition stream state .destroyMember
        { state with destructor := .destroying rest, destroyed := member :: state.destroyed }
  | beginDisconnect (none : state.destructor = .destroying []) :
      Transition stream state .destroyMember { state with destructor := .disconnecting }
  | disconnect (inside : state.destructor = .disconnecting) :
      Transition stream state .disconnect
        { state with shouldStop := true, destructor := .joiningIo }
  | joinIo (inside : state.destructor = .joiningIo) :
      Transition stream state .joinIo { state with io := .notRunning, destructor := .finished }

theorem transition_of_step {label : Label}
    (taken : (machine stream).step state label = some after) :
    Transition stream state label after := by
  cases label with
  | readCompletes delivery =>
    simp only [machine, step] at taken
    split at taken
    · cases taken
    · split at taken <;> cases taken
      exact .readCompletes delivery ‹_›
    · cases taken
  | access =>
    simp only [machine, step] at taken
    split at taken <;> cases taken
    exact .access ‹_›
  | deliveryReturns =>
    simp only [machine, step] at taken
    split at taken <;> cases taken
    exact .deliveryReturns ‹_›
  | stopConsumer =>
    simp only [machine, step] at taken
    split at taken <;> cases taken
    exact .stopConsumer ‹_›
  | destroyMember =>
    simp only [machine, step] at taken
    split at taken
    · rename_i next
      split at taken <;> cases taken
      · rename_i fatal
        obtain ⟨rfl, joinable⟩ := fatal
        exact .terminate next joinable
      · exact .destroyMember next ‹_›
    · cases taken
      exact .beginDisconnect ‹_›
    · cases taken
  | disconnect =>
    simp only [machine, step] at taken
    split at taken <;> cases taken
    exact .disconnect ‹_›
  | joinIo =>
    simp only [machine, step] at taken
    split at taken <;> cases taken
    exact .joinIo ‹_›

/-- The accesses a delivery in progress has still to make. -/
def IoThread.pending : IoThread → List Member
  | .delivering remaining => remaining
  | _ => []

/-- No captured stream state was touched after its destruction. -/
def Safe (state : State) : Prop := ∀ member ∈ state.faults, member.captured = false

theorem Safe.step {label : Label} (safe : Safe state)
    (apart : (∀ member ∈ state.io.pending, member.captured = false) ∨
      ∀ member ∈ state.destroyed, member.captured = false)
    (taken : (machine stream).step state label = some after) : Safe after := by
  cases transition_of_step taken with
  | @access member rest pending =>
    by_cases gone : member ∈ state.destroyed
    · have harmless : member.captured = false := by
        rcases apart with untouched | intact
        · exact untouched member (by rw [pending]; exact List.mem_cons_self)
        · exact intact member gone
      intro other fault
      simp only [gone, if_true, List.mem_append, List.mem_singleton] at fault
      rcases fault with old | new
      · exact safe other old
      · rw [new]
        exact harmless
    · intro other fault
      simp only [gone, if_false] at fault
      exact safe other fault
  | _ => exact safe

theorem safe_of_disconnected (offline : stream.connected = false)
    (reached : (machine stream).Reachable Machine.anyStep (initial stream) state) :
    Safe state := by
  have both : Safe state ∧ state.io = .notRunning := by
    apply reached.invariant
    · refine ⟨nofun, ?_⟩
      simp [initial, offline]
    · intro before after label holds _ taken
      obtain ⟨safe, idle⟩ := holds
      refine ⟨safe.step (.inl (by rw [idle]; nofun)) taken, ?_⟩
      cases transition_of_step taken with
      | readCompletes delivery waiting => simp [idle] at waiting
      | access pending => simp [idle] at pending
      | deliveryReturns done => simp [idle] at done
      | joinIo inside => rfl
      | _ => exact idle
  exact both.1

/-- The inline callback of a `MarketStream` captured nothing of the stream. -/
theorem safe_of_inline_market (market : stream.kind = .market) (inline : stream.mode = .inline)
    (reached : (machine stream).Reachable Machine.anyStep (initial stream) state) :
    Safe state := by
  have both : Safe state ∧ ∀ member ∈ state.io.pending, member.captured = false := by
    apply reached.invariant
    · refine ⟨nofun, ?_⟩
      simp only [initial]
      split <;> exact nofun
    · intro before after label holds _ taken
      obtain ⟨safe, untouched⟩ := holds
      refine ⟨safe.step (.inl untouched) taken, ?_⟩
      cases transition_of_step taken with
      | readCompletes delivery waiting =>
        simp [IoThread.pending, accesses, market, inline, Member.captured]
      | access pending =>
        rw [pending] at untouched
        intro member later
        exact untouched member (List.mem_cons_of_mem _ later)
      | deliveryReturns done => exact nofun
      | joinIo inside => exact nofun
      | _ => exact untouched
  exact both.1

/-- How far a destructor gets that meets a joinable keep-alive thread: three
members are destroyed before the thread handle. -/
def Destructor.BeforeThread (destroyed : List Member) : Destructor → Prop
  | .stoppingConsumer => destroyed = []
  | .destroying remaining => ∃ count ≤ 3,
      remaining = StreamKind.user.destructionOrder.drop count ∧
        destroyed = (StreamKind.user.destructionOrder.take count).reverse
  | .terminated => destroyed = [.keepAliveMutex, .keepAliveCv, .stopKeepAlive]
  | _ => False

theorem beforeThread_uncaptured
    (early : state.destructor.BeforeThread state.destroyed) :
    ∀ member ∈ state.destroyed, member.captured = false := by
  unfold Destructor.BeforeThread at early
  split at early
  · simp [early]
  · obtain ⟨count, within, -, same⟩ := early
    rw [same]
    rcases count with _ | _ | _ | _ | count
    · decide
    · decide
    · decide
    · decide
    · omega
  · simp [early, Member.captured]
  · exact early.elim

/-- The next of the first four members to be destroyed is the thread handle, or one of
the three before it. -/
theorem next_beforeThread {count : Nat} {member : Member} {rest : List Member}
    (within : count ≤ 3)
    (remaining : member :: rest = StreamKind.user.destructionOrder.drop count) :
    (count = 3 ∧ member = .keepAliveThread) ∨ (count < 3 ∧ member ≠ .keepAliveThread ∧
      rest = StreamKind.user.destructionOrder.drop (count + 1) ∧
        (StreamKind.user.destructionOrder.take (count + 1)).reverse =
          member :: (StreamKind.user.destructionOrder.take count).reverse) := by
  rcases count with _ | _ | _ | _ | count
  · cases remaining
    exact .inr ⟨by omega, nofun, rfl, rfl⟩
  · cases remaining
    exact .inr ⟨by omega, nofun, rfl, rfl⟩
  · cases remaining
    exact .inr ⟨by omega, nofun, rfl, rfl⟩
  · cases remaining
    exact .inl ⟨rfl, rfl⟩
  · omega

theorem beforeThread_step {label : Label} (user : stream.kind = .user)
    (joinable : stream.keepAliveJoinable = true)
    (early : state.destructor.BeforeThread state.destroyed)
    (taken : (machine stream).step state label = some after) :
    after.destructor.BeforeThread after.destroyed := by
  cases transition_of_step taken with
  | stopConsumer inBody =>
    rw [inBody] at early
    exact ⟨0, by omega, by rw [user]; rfl, early⟩
  | terminate next _ =>
    rw [next] at early
    obtain ⟨count, within, remaining, destroyed⟩ := early
    rcases next_beforeThread within remaining with ⟨rfl, -⟩ | ⟨-, different, -⟩
    · exact destroyed
    · exact absurd rfl different
  | destroyMember next survives =>
    rw [next] at early
    obtain ⟨count, within, remaining, destroyed⟩ := early
    rcases next_beforeThread within remaining with ⟨-, thread⟩ | ⟨before, -, later, taken⟩
    · exact absurd ⟨thread, joinable⟩ survives
    · refine ⟨count + 1, before, later, ?_⟩
      rw [taken, destroyed]
  | beginDisconnect none =>
    rw [none] at early
    obtain ⟨count, within, remaining, -⟩ := early
    have short := List.drop_eq_nil_iff.mp remaining.symm
    have long : StreamKind.user.destructionOrder.length = 15 := rfl
    omega
  | disconnect inside =>
    rw [inside] at early
    exact early.elim
  | joinIo inside =>
    rw [inside] at early
    exact early.elim
  | _ => exact early

/-- `std::terminate` ends the process before any captured member is destroyed. -/
theorem safe_of_joinable_user (user : stream.kind = .user)
    (joinable : stream.keepAliveJoinable = true)
    (reached : (machine stream).Reachable Machine.anyStep (initial stream) state) :
    Safe state := by
  have both : Safe state ∧ state.destructor.BeforeThread state.destroyed := by
    apply reached.invariant
    · exact ⟨nofun, rfl⟩
    · intro before after label holds _ taken
      obtain ⟨safe, early⟩ := holds
      exact ⟨safe.step (.inr (beforeThread_uncaptured early)) taken,
        beforeThread_step user joinable early taken⟩
  exact both.1

instance : Decidable (Safe state) := List.decidableBAll _ _

/-- A delivery of an execution report to a set order callback. -/
def orderReport : Delivery where
  event := .executionReport
  callbackSet := true
  queueFull := false

/-- The destructor has run through the derived members when a message arrives. -/
def lateDelivery (kind : StreamKind) : List Label :=
  .stopConsumer :: (kind.members.map fun _ => .destroyMember) ++
    [.readCompletes orderReport, .access, .access]

theorem unsafe_of_late_delivery (kind : StreamKind) (mode : DispatchMode) (joinable : Bool)
    (captures : kind = .market → mode = .queued) (joined : kind = .user → joinable = false) :
    ∃ state, (machine ⟨kind, mode, joinable, true⟩).Reachable Machine.anyStep
      (initial ⟨kind, mode, joinable, true⟩) state ∧ ¬ Safe state := by
  apply Machine.exists_reachable_of_run (lateDelivery kind)
  cases kind with
  | market =>
    rw [captures rfl]
    cases joinable with
    | false => decide
    | true => decide
  | user =>
    rw [joined rfl]
    cases mode with
    | inline => decide
    | queued => decide

/-- Destruction is safe for exactly three kinds of stream: one whose I/O thread
does not run any more, one whose callback captured no stream state, and one whose
destructor ends the process at a joinable keep-alive thread. -/
theorem destruction_safe_iff (stream : Stream) :
    (∀ state, (machine stream).Reachable Machine.anyStep (initial stream) state → Safe state) ↔
      stream.connected = false ∨ (stream.kind = .market ∧ stream.mode = .inline) ∨
        (stream.kind = .user ∧ stream.keepAliveJoinable = true) := by
  constructor
  · intro safe
    by_contra excluded
    obtain ⟨kind, mode, joinable, connected⟩ := stream
    simp only [not_or, not_and, Bool.not_eq_false, Bool.not_eq_true] at excluded
    obtain ⟨online, notInline, joined⟩ := excluded
    have captures : kind = .market → mode = .queued := by
      intro market
      cases mode with
      | inline => exact absurd rfl (notInline market)
      | queued => rfl
    obtain ⟨state, reached, faulty⟩ := unsafe_of_late_delivery kind mode joinable captures joined
    subst online
    exact faulty (safe state reached)
  · rintro (offline | ⟨market, inline⟩ | ⟨user, joinable⟩) state reached
    · exact safe_of_disconnected offline reached
    · exact safe_of_inline_market market inline reached
    · exact safe_of_joinable_user user joinable reached

/-- A connected `MarketStream` in queued mode: a message that arrives after
`queue_state_` is destroyed and before `~Client` joins the I/O thread is pushed
into the destroyed queue. -/
theorem push_into_destroyed_queue :
    ∃ state, (machine ⟨.market, .queued, false, true⟩).Reachable Machine.anyStep
      (initial ⟨.market, .queued, false, true⟩) state ∧ .queueState ∈ state.faults :=
  Machine.exists_reachable_of_run (lateDelivery .market) (by decide)

end Bintrade.Ws.Destruction
