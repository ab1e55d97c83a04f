import Bintrade.System.Progress
import Bintrade.Ws.DispatchOrder
import Bintrade.Ws.TypedDispatch

/-! Queued dispatch with the callbacks that the consumer thread calls. What the callbacks
see and leave is what `DispatchMode::Inline` makes of the messages dispatched so far. -/

namespace Bintrade.Ws.QueuedDispatch

open Bintrade.System Bintrade.Core

variable {World Event : Type}

/-- The machine of the queue, with the dispatch function run where the consumer calls it.
After an exception that leaves the dispatch function there is no step: `std::terminate` has
ended the process. -/
def callbackMachine (element : SpscQueue.Element String)
    (dispatchFn : String → Dispatch World Event Unit) :
    Machine (State String × Run World Event) (Label String) where
  step current label :=
    (step element current.1 label).bind fun after =>
      match label, current.1.consumer with
      | .dispatch, .dispatching _ message =>
        match dispatchFn message current.2 with
        | (.ok (), run) => some (after, run)
        | (.error _, _) => none
      | _, _ => some (after, current.2)

variable {element : SpscQueue.Element String} {dispatchFn : String → Dispatch World Event Unit}
  {state after : State String} {run later start : Run World Event} {label : Label String}

/-- A step calls the dispatch function with the message that it dispatches, or calls nothing. -/
theorem callbackMachine_step
    (taken : (callbackMachine element dispatchFn).step (state, run) label = some (after, later)) :
    (machine element).step state label = some after ∧
      (after.dispatched = state.dispatched ∧ later = run ∨
        ∃ message, after.dispatched = state.dispatched ++ [message] ∧
          dispatchFn message run = (.ok (), later)) := by
  obtain ⟨next, moved, called⟩ := Option.bind_eq_some_iff.mp taken
  have lower : (machine element).step state label = some next := moved
  cases transition_of_step lower with
  | @dispatch draining message holding =>
    simp only [holding] at called
    split at called
    · rename_i returned
      cases called
      exact ⟨lower, .inr ⟨message, rfl, returned⟩⟩
    · cases called
  | push continues _ =>
    cases continues <;> (cases called; exact ⟨lower, .inl ⟨rfl, rfl⟩⟩)
  | pop continues _ _ =>
    cases continues <;> (cases called; exact ⟨lower, .inl ⟨rfl, rfl⟩⟩)
  | _ =>
    cases called
    exact ⟨lower, .inl ⟨rfl, rfl⟩⟩

/-- Without its callbacks, a run is a run of the queue. -/
theorem reachable_queue {permitted : State String → Label String → Prop}
    {initially current : State String × Run World Event}
    (reached : (callbackMachine element dispatchFn).Reachable (Machine.unlogged permitted)
      initially current) :
    (machine element).Reachable permitted initially.1 current.1 := by
  induction reached with
  | start => exact .start
  | next earlier allowed taken ih => exact .next ih allowed (callbackMachine_step taken).1

/-- An exception of the first message leaves the delivery. -/
theorem returned_of_deliver {message : String} {rest : List String}
    (delivered : deliver dispatchFn (message :: rest) start = (.ok (), run)) :
    ∃ middle, dispatchFn message start = (.ok (), middle) ∧
      deliver dispatchFn rest middle = (.ok (), run) := by
  cases first : dispatchFn message start with
  | mk outcome middle =>
    cases outcome with
    | ok done => exact ⟨middle, rfl, (deliver_cons first).symm.trans delivered⟩
    | error fault =>
      simp only [deliver, bind, ExceptT.bind, ExceptT.mk, StateT.bind, first] at delivered
      cases delivered

theorem deliver_append {messages more : List String}
    (delivered : deliver dispatchFn messages start = (.ok (), run)) :
    deliver dispatchFn (messages ++ more) start = deliver dispatchFn more run := by
  induction messages generalizing start with
  | nil =>
    cases delivered
    rfl
  | cons message rest ih =>
    obtain ⟨middle, returned, remaining⟩ := returned_of_deliver delivered
    rw [List.cons_append, deliver_cons returned]
    exact ih remaining

/-- What the callbacks have done is what the messages do one after the other. -/
theorem callbacks_delivered {permitted : State String × Run World Event → Label String → Prop}
    {current : State String × Run World Event}
    (reached : (callbackMachine element dispatchFn).Reachable permitted
      (initial (SpscQueue.initial element), start) current) :
    deliver dispatchFn current.1.dispatched start = (.ok (), current.2) := by
  induction reached with
  | start => rfl
  | next earlier allowed taken ih =>
    obtain ⟨-, ⟨same, unchanged⟩ | ⟨message, grown, returned⟩⟩ := callbackMachine_step taken
    · rw [same, unchanged]
      exact ih
    · rw [grown, deliver_append ih, deliver_cons returned]
      rfl

/-- Queued mode calls the callbacks as inline mode does: in every interleaving for the
messages dispatched so far, which are the first of the accepted ones, and after a shutdown
that no delivery overlaps for all of them. -/
theorem queued_callbacks_as_inline
    (reached : (callbackMachine element dispatchFn).Reachable Machine.anyStep
      (initial (SpscQueue.initial element), start) (state, run)) :
    (deliver dispatchFn state.dispatched start = (.ok (), run) ∧
        state.dispatched <+: state.queue.accepted) ∧
      ((callbackMachine element dispatchFn).Reachable (Machine.unlogged quietStop)
          (initial (SpscQueue.initial element), start) (state, run) →
        state.stopper = .returned →
          deliver dispatchFn state.queue.accepted start = (.ok (), run) ∧
            ((∀ call ∈ state.queue.pushes, call.2 = true) →
              deliver dispatchFn state.delivered start = (.ok (), run))) := by
  have called := callbacks_delivered reached
  have freely : (callbackMachine element dispatchFn).Reachable (Machine.unlogged Machine.anyStep)
      (initial (SpscQueue.initial element), start) (state, run) := reached.relax id
  have holds := reachable_invariant (reachable_queue freely) (start_invariant element)
  refine ⟨⟨called, ?_⟩, ?_⟩
  · have popped : state.dispatched <+: state.queue.returned := by
      rw [holds.handedOn]
      exact List.prefix_append _ _
    exact popped.trans holds.queueHolds.inOrder
  · intro quietly ended
    have quiet := quiet_of_reachable (reachable_queue quietly)
    have complete : deliver dispatchFn state.queue.accepted start = (.ok (), run) := by
      rw [← quiet.dispatched_all ended]
      exact called
    refine ⟨complete, ?_⟩
    intro unrefused
    rw [quiet.delivered_eq ended, ← acceptedBy_of_all _ unrefused]
    exact complete

/-- Any string, moved from to an empty one. -/
def textElement : SpscQueue.Element String where
  initial := ""
  movedFrom _ := ""

/-- A depth update is queued before `stop_consumer` is called. -/
def oneUpdateRun : List (Label String) :=
  [.deliver "depth", .pushLoadTail, .pushWriteSlot, .pushStoreHead, .stopLoad, .stopStore,
    .loadRunning, .popLoadTail, .popLoadHead, .popReadSlot, .popStoreTail, .dispatch,
    .popLoadTail, .popLoadHead, .stopJoin]

/-- The final drain calls the callback, which throws, once. -/
theorem queued_callbacks_as_inline_drained :
    ∃ current : State String × Run Nat (MarketEvent Nat),
      (callbackMachine textElement (MarketStream.subscribeDepth fewNumbers oneUpdate
        (some counting))).Reachable (Machine.unlogged quietStop)
          (initial (SpscQueue.initial textElement), ⟨0, []⟩) current ∧
      (current.1.stopper = .returned ∧ current.2.world = 1) ∧
      deliver (MarketStream.subscribeDepth fewNumbers oneUpdate (some counting))
        current.1.queue.accepted ⟨0, []⟩ = (.ok (), current.2) := by
  have stopped : ∃ current : State String × Run Nat (MarketEvent Nat),
      (callbackMachine textElement (MarketStream.subscribeDepth fewNumbers oneUpdate
        (some counting))).Reachable (Machine.unlogged quietStop)
          (initial (SpscQueue.initial textElement), ⟨0, []⟩) current ∧
      (current.1.stopper = .returned ∧ current.2.world = 1) :=
    Machine.exists_reachable_of_run oneUpdateRun (by decide)
  obtain ⟨current, reached, ended, once⟩ := stopped
  exact ⟨current, reached, ⟨ended, once⟩,
    ((queued_callbacks_as_inline reached.free).2 reached ended).1⟩

end Bintrade.Ws.QueuedDispatch
