import Bintrade.Ws.ClientTransition
import Mathlib.Logic.Function.Basic

/-! `WebSocketClient::send`, called by any number of threads. A call looks at `connected` and
posts a handler that looks again when its turn comes; between the two the client may have
reconnected. The handler that `disconnect` posts has its turn in the same queue and stops the
loop. -/

namespace Bintrade.Ws.SendQueue

open Bintrade.System Bintrade.Core

/-- A posted message: who sent it, and the stream that was current when it was posted. -/
structure Sent where
  sender : Nat
  message : String
  postedOn : Nat
  deriving DecidableEq

/-- A posted handler: that of a message, or the one of `disconnect`. -/
inductive Posted where
  | write (sent : Sent)
  | stop
  deriving DecidableEq

def Posted.sent? : Posted → Option Sent
  | .write sent => some sent
  | .stop => none

/-- What the handler of a message did: it wrote to a stream, failed to, or found the client
not connected. -/
inductive Result where
  | written (stream : Nat)
  | failed (stream : Nat)
  | dropped
  deriving DecidableEq

/-- The client, the calls between their check and their `post`, the posted handlers in the
order of the `io_context`, and whether that is stopped. The logs hold the messages of each sender whose check passed,
those whose call threw, all posted messages and all handled ones. -/
structure State where
  client : WebSocketClient.State
  passing : Nat → Option String
  queue : List Posted
  stopped : Bool
  passed : Nat → List String
  rejected : List (Nat × String)
  accepted : List Sent
  handled : List (Sent × Result)

def initial : State where
  client := WebSocketClient.initial
  passing := fun _ => none
  queue := []
  stopped := false
  passed := fun _ => []
  rejected := []
  accepted := []
  handled := []

inductive Label where
  | check (sender : Nat) (message : String)
  | post (sender : Nat)
  | runWrite (outcome : Except String Unit)
  | client (label : WebSocketClient.Label)
  | postStop
  | runStop
  | leaveLoop

/-- The posted handler, on the I/O thread. A failed write is reported and changes nothing
else. -/
def handleWrite (sent : Sent) (outcome : Except String Unit) (state : State) : State :=
  if state.client.connected then
    match outcome with
    | .ok _ =>
      { state with handled := state.handled ++ [(sent, .written state.client.stream)] }
    | .error message =>
      { state with
        client := state.client.report ("Send error: " ++ message)
        handled := state.handled ++ [(sent, .failed state.client.stream)] }
  else { state with handled := state.handled ++ [(sent, .dropped)] }

/-- The labels of the client that are handlers of the loop. -/
def ofLoop : WebSocketClient.Label → Bool
  | .disconnect => false
  | _ => true

/-- The client has given the loop nothing to wait for. -/
def unoccupied (client : WebSocketClient.State) : Bool :=
  client.reads.isEmpty && client.pings = 0 && client.retries.isEmpty

def step (config : WebSocketConfig) (state : State) : Label → Option State
  | .check sender message =>
    match state.passing sender with
    | some _ => none
    | none =>
      if state.client.connected then
        some { state with
          passing := Function.update state.passing sender (some message)
          passed := Function.update state.passed sender (state.passed sender ++ [message]) }
      else some { state with rejected := state.rejected ++ [(sender, message)] }
  | .post sender =>
    match state.passing sender with
    | some message =>
      let sent := ⟨sender, message, state.client.stream⟩
      some { state with
        passing := Function.update state.passing sender none
        queue := state.queue ++ [.write sent]
        accepted := state.accepted ++ [sent] }
    | none => none
  | .runWrite outcome =>
    match state.stopped, state.queue with
    | false, .write sent :: rest => some (handleWrite sent outcome { state with queue := rest })
    | _, _ => none
  | .client label =>
    if state.stopped = true ∧ ofLoop label = true then none
    else (WebSocketClient.step config state.client label).map fun client =>
      { state with client := client }
  | .postStop =>
    if state.client.shouldStop then some { state with queue := state.queue ++ [.stop] } else none
  | .runStop =>
    match state.stopped, state.queue with
    | false, .stop :: rest => some { state with queue := rest, stopped := true }
    | _, _ => none
  | .leaveLoop =>
    -- `run` returns once there is nothing to wait for, and leaves the context stopped.
    if state.stopped = false ∧ state.queue = [] ∧ unoccupied state.client = true then
      some { state with stopped := true }
    else none

def machine (config : WebSocketConfig) : Machine State Label where
  step := step config

/-- The stream that a handler used. -/
def Result.stream? : Result → Option Nat
  | .written stream | .failed stream => some stream
  | .dropped => none

/-- The posted messages of one sender. -/
def State.acceptedFrom (state : State) (sender : Nat) : List String :=
  (state.accepted.filter fun sent => sent.sender = sender).map Sent.message

/-- The messages among the posted handlers, and those ahead of the first stop. -/
def messages (queue : List Posted) : List Sent := queue.filterMap Posted.sent?

def aheadOfStop : List Posted → List Sent
  | .write sent :: rest => sent :: aheadOfStop rest
  | _ => []

/-- The streams that were used, in order. -/
def State.streams (state : State) : List Nat :=
  state.handled.filterMap fun entry => entry.2.stream?

structure Accounted (state : State) : Prop where
  everyCall : ∀ sender,
    state.passed sender = state.acceptedFrom sender ++ (state.passing sender).toList
  inOrder : state.accepted = state.handled.map Prod.fst ++ messages state.queue
  forward : state.streams.Pairwise (· ≤ ·)
  current : ∀ stream ∈ state.streams, stream ≤ state.client.stream
  posted : ∀ sent ∈ messages state.queue, sent.postedOn ≤ state.client.stream
  later : ∀ sent result stream, (sent, result) ∈ state.handled → result.stream? = some stream →
    sent.postedOn ≤ stream

variable {config : WebSocketConfig} {state after : State} {label : Label}

theorem messages_append (queue more : List Posted) :
    messages (queue ++ more) = messages queue ++ messages more :=
  List.filterMap_append

theorem Accounted.initial : Accounted initial where
  everyCall _ := rfl
  inOrder := rfl
  forward := List.Pairwise.nil
  current := nofun
  posted := nofun
  later := nofun

/-- No handler goes back to an earlier stream. -/
theorem stream_le_of_step {client next : WebSocketClient.State} {label : WebSocketClient.Label}
    (handled : (WebSocketClient.machine config).step client label = some next) :
    client.stream ≤ next.stream := by
  cases WebSocketClient.transition_of_step handled with
  | readFails outstanding running =>
    rw [WebSocketClient.attemptReconnect_stream]
    exact Nat.le_refl _
  | pingFails waiting running up =>
    rw [WebSocketClient.attemptReconnect_stream]
    exact Nat.le_refl _
  | retryFails pending running =>
    rw [WebSocketClient.attemptReconnect_stream]
    exact Nat.le_succ _
  | reconnects pending running => exact Nat.le_succ _
  | _ => exact Nat.le_refl _

theorem Accounted.check (accounted : Accounted state) {sender : Nat} {message : String}
    (free : state.passing sender = none) :
    Accounted { state with
      passing := Function.update state.passing sender (some message)
      passed := Function.update state.passed sender (state.passed sender ++ [message]) } := by
  refine ⟨fun other => ?_, accounted.inOrder, accounted.forward, accounted.current,
    accounted.posted, accounted.later⟩
  have before := accounted.everyCall other
  by_cases same : other = sender
  · subst same
    simp only [free, Option.toList_none, List.append_nil] at before
    simp only [Function.update_self, before, Option.toList_some]
    rfl
  · simp only [Function.update_of_ne same]
    exact before

theorem Accounted.post (accounted : Accounted state) {sender : Nat} {message : String}
    (passing : state.passing sender = some message) :
    Accounted { state with
      passing := Function.update state.passing sender none
      queue := state.queue ++ [.write ⟨sender, message, state.client.stream⟩]
      accepted := state.accepted ++ [⟨sender, message, state.client.stream⟩] } := by
  refine ⟨fun other => ?_, ?_, accounted.forward, accounted.current, ?_, accounted.later⟩
  · have before := accounted.everyCall other
    by_cases same : other = sender
    · subst same
      rw [passing] at before
      simp [State.acceptedFrom, before]
    · have different : ¬ sender = other := fun equal => same equal.symm
      simp [State.acceptedFrom, Function.update_of_ne same, different, before]
  · show state.accepted ++ _ = _
    rw [accounted.inOrder, List.append_assoc, messages_append]
    rfl
  · intro sent queued
    rw [messages_append] at queued
    rcases List.mem_append.mp queued with earlier | own
    · exact accounted.posted sent earlier
    · obtain rfl := List.mem_singleton.mp own
      exact Nat.le_refl _

/-- The oldest posted message is handled, on the current stream if on any. -/
theorem Accounted.handle (accounted : Accounted state) {sent : Sent} {rest : List Posted}
    (oldest : state.queue = .write sent :: rest) {client : WebSocketClient.State} {result : Result}
    (same : client.stream = state.client.stream)
    (onCurrent : ∀ stream, result.stream? = some stream → stream = state.client.stream) :
    Accounted { state with
      client := client, queue := rest, handled := state.handled ++ [(sent, result)] } := by
  have used : State.streams { state with
      client := client, queue := rest, handled := state.handled ++ [(sent, result)] } =
        state.streams ++ result.stream?.toList := by
    cases result <;> simp [State.streams, Result.stream?]
  have isCurrent : ∀ stream ∈ result.stream?.toList, stream = state.client.stream :=
    fun stream used => onCurrent stream (Option.mem_toList.mp used)
  refine ⟨accounted.everyCall, ?_, ?_, ?_, ?_, ?_⟩
  · show state.accepted = _
    rw [accounted.inOrder, oldest]
    simp [messages, Posted.sent?]
  · rw [used]
    refine List.pairwise_append.mpr ⟨accounted.forward, ?_, ?_⟩
    · cases result.stream? with
      | none => exact List.Pairwise.nil
      | some stream => exact List.pairwise_singleton _ _
    · intro earlier before stream now
      rw [isCurrent stream now]
      exact accounted.current earlier before
  · rw [used]
    intro stream either
    rw [show client.stream = state.client.stream from same]
    rcases List.mem_append.mp either with before | now
    · exact accounted.current stream before
    · exact Nat.le_of_eq (isCurrent stream now)
  · intro waiting queued
    rw [show client.stream = state.client.stream from same]
    exact accounted.posted waiting (by rw [oldest]; exact List.mem_cons_of_mem _ queued)
  · intro other outcome stream either chosen
    rcases List.mem_append.mp either with before | now
    · exact accounted.later other outcome stream before chosen
    · cases List.mem_singleton.mp now
      rw [onCurrent stream chosen]
      exact accounted.posted sent (by rw [oldest]; exact List.mem_cons_self)

theorem Accounted.runWrite (accounted : Accounted state) {sent : Sent} {rest : List Posted}
    (oldest : state.queue = .write sent :: rest) (outcome : Except String Unit) :
    Accounted (handleWrite sent outcome { state with queue := rest }) := by
  unfold handleWrite
  split
  · cases outcome with
    | ok _ =>
      refine accounted.handle oldest rfl fun stream chosen => ?_
      exact (Option.some.inj chosen).symm
    | error message =>
      refine accounted.handle oldest rfl fun stream chosen => ?_
      exact (Option.some.inj chosen).symm
  · exact accounted.handle oldest rfl nofun

theorem Accounted.step (accounted : Accounted state)
    (taken : (machine config).step state label = some after) : Accounted after := by
  cases label with
  | check sender message =>
    simp only [machine, SendQueue.step] at taken
    split at taken
    · cases taken
    · rename_i free
      split at taken <;> cases taken
      · exact accounted.check free
      · exact ⟨accounted.everyCall, accounted.inOrder, accounted.forward, accounted.current,
          accounted.posted, accounted.later⟩
  | post sender =>
    simp only [machine, SendQueue.step] at taken
    split at taken <;> cases taken
    exact accounted.post ‹_›
  | runWrite outcome =>
    simp only [machine, SendQueue.step] at taken
    split at taken <;> cases taken
    exact accounted.runWrite ‹_› outcome
  | client handled =>
    simp only [machine, SendQueue.step] at taken
    split at taken
    · cases taken
    · obtain ⟨client, moved, rfl⟩ := Option.map_eq_some_iff.mp taken
      have forward : state.client.stream ≤ client.stream := stream_le_of_step moved
      exact ⟨accounted.everyCall, accounted.inOrder, accounted.forward,
        fun stream used => Nat.le_trans (accounted.current stream used) forward,
        fun sent queued => Nat.le_trans (accounted.posted sent queued) forward, accounted.later⟩
  | postStop =>
    simp only [machine, SendQueue.step] at taken
    split at taken <;> cases taken
    have same : messages (state.queue ++ [.stop]) = messages state.queue := by
      rw [messages_append]
      exact List.append_nil _
    exact ⟨accounted.everyCall, same ▸ accounted.inOrder, accounted.forward, accounted.current,
      same ▸ accounted.posted, accounted.later⟩
  | runStop =>
    simp only [machine, SendQueue.step] at taken
    split at taken <;> cases taken
    rename_i first
    have inOrder := accounted.inOrder
    have posted := accounted.posted
    rw [first] at inOrder posted
    exact ⟨accounted.everyCall, inOrder, accounted.forward, accounted.current, posted,
      accounted.later⟩
  | leaveLoop =>
    simp only [machine, SendQueue.step] at taken
    split at taken <;> cases taken
    exact ⟨accounted.everyCall, accounted.inOrder, accounted.forward, accounted.current,
      accounted.posted, accounted.later⟩

/-- A message is handled once its handler runs, whatever comes of the write. -/
theorem handleWrite_handled (sent : Sent) (outcome : Except String Unit) (state : State) :
    (handleWrite sent outcome state).handled.map Prod.fst = state.handled.map Prod.fst ++ [sent] ∧
      (handleWrite sent outcome state).queue = state.queue ∧
        (handleWrite sent outcome state).stopped = state.stopped := by
  unfold handleWrite
  split
  · cases outcome <;> simp
  · simp

/-- A running loop can get through the messages ahead of the first stop. -/
theorem reaches_handled (running : state.stopped = false) :
    ∃ later, (machine config).Reachable Machine.anyStep state later ∧
      later.handled.map Prod.fst = state.handled.map Prod.fst ++ aheadOfStop state.queue := by
  induction queued : state.queue generalizing state with
  | nil => exact ⟨state, .start, (List.append_nil _).symm⟩
  | cons first rest ih =>
    cases first with
    | stop => exact ⟨state, .start, (List.append_nil _).symm⟩
    | write sent =>
      have taken : (machine config).step state (.runWrite (.ok ())) =
          some (handleWrite sent (.ok ()) { state with queue := rest }) := by
        simp only [machine, step, running, queued]
      obtain ⟨handled, left, going⟩ := handleWrite_handled sent (.ok ()) { state with queue := rest }
      obtain ⟨later, onward, done⟩ := ih (going.trans running) left
      refine ⟨later, Machine.Reachable.trans (.next .start trivial taken) onward, ?_⟩
      rw [done, handled, List.append_assoc]
      rfl

/-- A stopped loop handles nothing more. -/
theorem handled_of_stopped (stopped : state.stopped = true)
    (taken : (machine config).step state label = some after) :
    after.stopped = true ∧ after.handled = state.handled := by
  cases label with
  | check sender message =>
    simp only [machine, step] at taken
    split at taken
    · cases taken
    · split at taken <;> cases taken <;> exact ⟨stopped, rfl⟩
  | post sender =>
    simp only [machine, step] at taken
    split at taken <;> cases taken
    exact ⟨stopped, rfl⟩
  | client handled =>
    simp only [machine, step] at taken
    split at taken
    · cases taken
    · obtain ⟨client, -, rfl⟩ := Option.map_eq_some_iff.mp taken
      exact ⟨stopped, rfl⟩
  | postStop =>
    simp only [machine, step] at taken
    split at taken <;> cases taken
    exact ⟨stopped, rfl⟩
  | runWrite outcome => simp [machine, step, stopped] at taken
  | runStop => simp [machine, step, stopped] at taken
  | leaveLoop => simp [machine, step, stopped] at taken

/-- In every run, with any number of senders, reconnects and a stop in between. The messages
of a sender whose check passed are those it has posted, in the order of its calls, and the
one it is about to post. Messages are handled in the order of their posts, each at most once;
the streams that they are written to never go back, and none is written to a stream older than
the one it was posted on. As long as the loop runs, all messages ahead of the handler that stops
it can still be handled; once it is stopped, no more are. -/
theorem sends_handled_in_order
    (reached : (machine config).Reachable Machine.anyStep initial state) :
    (∀ sender,
      state.passed sender = state.acceptedFrom sender ++ (state.passing sender).toList) ∧
    state.accepted = state.handled.map Prod.fst ++ messages state.queue ∧
    state.streams.Pairwise (· ≤ ·) ∧
    (∀ sent result stream, (sent, result) ∈ state.handled → result.stream? = some stream →
      sent.postedOn ≤ stream ∧ stream ≤ state.client.stream) ∧
    (state.stopped = false → ∃ later, (machine config).Reachable Machine.anyStep state later ∧
      later.handled.map Prod.fst = state.handled.map Prod.fst ++ aheadOfStop state.queue) ∧
    (state.stopped = true → ∀ later, (machine config).Reachable Machine.anyStep state later →
      later.handled = state.handled) := by
  have accounted : Accounted state :=
    reached.invariant Accounted.initial fun accounted _ taken => accounted.step taken
  refine ⟨accounted.everyCall, accounted.inOrder, accounted.forward, ?_, reaches_handled, ?_⟩
  · intro sent result stream handled chosen
    refine ⟨accounted.later sent result stream handled chosen, accounted.current stream ?_⟩
    exact List.mem_filterMap.mpr ⟨(sent, result), handled, chosen⟩
  · intro stopped later onward
    let Final (after : State) : Prop := after.stopped = true ∧ after.handled = state.handled
    have final : Final later := by
      refine onward.invariant ⟨stopped, rfl⟩ ?_
      intro before after label kept _ taken
      obtain ⟨still, same⟩ := handled_of_stopped kept.1 taken
      exact ⟨still, same.trans kept.2⟩
    exact final.2

/-- Three senders. The client reconnects after the first message was posted, and loses its
connection before the second has its turn; the third posts after the handler of `disconnect`. -/
theorem sends_handled_in_order_across_reconnect :
    ∃ state, (machine ⟨5, 10⟩).Reachable Machine.anyStep initial state ∧
      (state.handled = [(⟨0, "a", 0⟩, .written 1), (⟨1, "b", 1⟩, .dropped)] ∧
        state.queue = [.write ⟨2, "c", 1⟩]) ∧
        state.accepted = state.handled.map Prod.fst ++ messages state.queue ∧
          ∀ later, (machine ⟨5, 10⟩).Reachable Machine.anyStep state later →
            later.handled = state.handled := by
  obtain ⟨state, reached, logs, stopped⟩ : ∃ state,
      (machine ⟨5, 10⟩).Reachable Machine.anyStep initial state ∧
        ((state.handled = [(⟨0, "a", 0⟩, .written 1), (⟨1, "b", 1⟩, .dropped)] ∧
          state.queue = [.write ⟨2, "c", 1⟩]) ∧ state.stopped = true) :=
    Machine.exists_reachable_of_run
      [.check 0 "a", .post 0, .client (.readCompletes 0 (.error "reset")),
        .client (.retryFires 0 (.ok ())), .check 1 "b", .check 2 "c", .runWrite (.ok ()), .post 1,
        .client (.readCompletes 1 (.error "reset")), .runWrite (.ok ()), .client .disconnect,
        .postStop, .post 2, .runStop] (by decide)
  obtain ⟨-, inOrder, -, -, -, final⟩ := sends_handled_in_order reached
  exact ⟨state, reached, logs, inOrder, final stopped⟩

end Bintrade.Ws.SendQueue
