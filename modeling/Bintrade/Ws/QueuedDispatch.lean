import Bintrade.Core.SpscFifo

/-! `DispatchMode::Queued` of `market_stream.cpp` and `user_stream.cpp`: the
I/O thread pushes each message into the ring buffer, the consumer thread pops
and dispatches, and `stop_consumer` ends the consumer. Both streams run the same
loop over the same queue type; the dispatch function is what differs. -/

namespace Bintrade.Ws.QueuedDispatch

open Bintrade.System Bintrade.Core

universe u

variable {Message : Type u}

/-- `k_queue_capacity` is `2 ^ 12 = 4096`. -/
def kQueueExponent : Nat := 12

/-- Where the consumer thread stands. The final drain runs the same two
operations as the loop body, without the check of `running`. -/
inductive ConsumerThread (Message : Type u) where
  | checkRunning
  | popping (draining : Bool)
  | dispatching (draining : Bool) (message : Message)
  | yielding
  | finished

/-- Where a `stop_consumer` call stands. -/
inductive Stopper where
  | notCalled
  | sawRunning
  | stored
  | returned
  deriving DecidableEq

structure State (Message : Type u) where
  queue : SpscQueue.State Message
  running : Bool
  consumer : ConsumerThread Message
  stopper : Stopper
  delivered : List Message
  dispatched : List Message

/-- The state `start_consumer` leaves behind, over a queue that may still hold
messages of an earlier session. -/
def initial (queue : SpscQueue.State Message) : State Message where
  queue := queue
  running := true
  consumer := .checkRunning
  stopper := .notCalled
  delivered := queue.pushes.map Prod.fst
  dispatched := queue.returned

inductive Label (Message : Type u) where
  | deliver (message : Message)
  | pushLoadTail
  | pushWriteSlot
  | pushStoreHead
  | loadRunning
  | popLoadTail
  | popLoadHead
  | popReadSlot
  | popStoreTail
  | dispatch
  | yield
  | stopLoad
  | stopStore
  | stopJoin

/-- Run one step of the ring buffer inside the larger state. -/
def queueStep (element : SpscQueue.Element Message) (state : State Message)
    (label : SpscQueue.Label Message) : Option (State Message) :=
  (SpscQueue.step kQueueExponent element state.queue label).map fun queue =>
    { state with queue := queue }

/-- What `try_pop` returning `std::nullopt` leads to: a yield in the loop, the
end of the thread in the final drain. -/
def afterEmpty (draining : Bool) : ConsumerThread Message :=
  if draining then .finished else .yielding

def afterDispatch (draining : Bool) : ConsumerThread Message :=
  if draining then .popping true else .checkRunning

/-- After the head load of `try_pop`, the call is over exactly when the queue
was empty. -/
def afterHeadLoad (draining : Bool) (queue : SpscQueue.State Message) :
    ConsumerThread Message :=
  match queue.consumer with
  | .idle => afterEmpty draining
  | _ => .popping draining

def step (element : SpscQueue.Element Message) (state : State Message) :
    Label Message → Option (State Message)
  | .deliver message =>
    (queueStep element state (.pushLoadHead message)).map fun next =>
      { next with delivered := state.delivered ++ [message] }
  | .pushLoadTail => queueStep element state .pushLoadTail
  | .pushWriteSlot => queueStep element state .pushWriteSlot
  | .pushStoreHead => queueStep element state .pushStoreHead
  | .loadRunning =>
    match state.consumer with
    | .checkRunning => some { state with consumer := .popping (!state.running) }
    | _ => none
  | .popLoadTail =>
    match state.consumer with
    | .popping _ => queueStep element state .popLoadTail
    | _ => none
  | .popLoadHead =>
    match state.consumer with
    | .popping draining =>
      (queueStep element state .popLoadHead).map fun next =>
        { next with consumer := afterHeadLoad draining next.queue }
    | _ => none
  | .popReadSlot =>
    match state.consumer with
    | .popping _ => queueStep element state .popReadSlot
    | _ => none
  | .popStoreTail =>
    match state.consumer, state.queue.consumer with
    | .popping draining, .taken _ message =>
      (queueStep element state .popStoreTail).map fun next =>
        { next with consumer := .dispatching draining message }
    | _, _ => none
  | .dispatch =>
    match state.consumer with
    | .dispatching draining message =>
      some { state with
        consumer := afterDispatch draining
        dispatched := state.dispatched ++ [message] }
    | _ => none
  | .yield =>
    match state.consumer with
    | .yielding => some { state with consumer := .checkRunning }
    | _ => none
  | .stopLoad =>
    match state.stopper with
    | .notCalled =>
      some { state with stopper := if state.running then .sawRunning else .returned }
    | _ => none
  | .stopStore =>
    match state.stopper with
    | .sawRunning => some { state with running := false, stopper := .stored }
    | _ => none
  | .stopJoin =>
    match state.stopper, state.consumer with
    | .stored, .finished => some { state with stopper := .returned }
    | _, _ => none

def machine (element : SpscQueue.Element Message) :
    Machine (State Message) (Label Message) where
  step := step element

/-- `DispatchMode::Inline`: the callback hands every message to the dispatch
function as it is delivered. -/
def inlineDispatched (delivered : List Message) : List Message :=
  delivered.foldl (fun dispatched message => dispatched ++ [message]) []

end Bintrade.Ws.QueuedDispatch
