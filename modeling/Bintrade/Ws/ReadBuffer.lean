import Bintrade.Ws.OutstandingReads

/-! The `read_buffer` of the WebSocket client. A message may arrive in pieces, which
`async_read` appends to the buffer; `handle_read` passes on what the buffer holds and
empties it, and a reconnect clears it. The messages themselves are those of the machine in
`WebSocketClient`, which this one refines. -/

namespace Bintrade.Ws.ReadBuffer

open Bintrade.System Bintrade.Core

/-- `pieces` are those that have arrived of the message that the current stream is
receiving. The client knows the buffer only. -/
structure State where
  client : WebSocketClient.State
  buffer : String
  pieces : List String

def initial : State := ⟨WebSocketClient.initial, "", []⟩

/-- `completes` is the end of a message, a text or a binary one; the other handlers are
those of the client, except that they do not deliver frames. -/
inductive Label where
  | arrives (piece : String)
  | completes (stream : Nat) (isText : Bool)
  | other (label : WebSocketClient.Label)

def deliversFrame : WebSocketClient.Label → Bool
  | .readCompletes _ (.ok _) => true
  | _ => false

/-- `handle_read` takes the whole buffer for the message. -/
def frame (buffer : String) (isText : Bool) : WebSocketClient.Frame :=
  if isText then .text buffer else .binary

/-- The buffer after a handler that delivers no frame: a reconnect that succeeds clears
it. -/
def cleared (state : State) : WebSocketClient.Label → String
  | .retryFires _ (.ok _) => if state.client.shouldStop then state.buffer else ""
  | _ => state.buffer

def step (config : WebSocketConfig) (state : State) : Label → Option State
  | .arrives piece =>
    if state.client.stream ∈ state.client.reads then
      some { state with buffer := state.buffer ++ piece, pieces := state.pieces ++ [piece] }
    else none
  | .completes stream isText =>
    (WebSocketClient.step config state.client
      (.readCompletes stream (.ok (frame state.buffer isText)))).map fun client =>
        { client
          -- `handle_read` returns before it consumes the buffer once the client stops.
          buffer := if state.client.shouldStop then state.buffer else ""
          pieces := if stream = state.client.stream then [] else state.pieces }
  | .other label =>
    if deliversFrame label then none
    else (WebSocketClient.step config state.client label).map fun client =>
      { client
        buffer := cleared state label
        pieces := if client.stream = state.client.stream then state.pieces else [] }

def machine (config : WebSocketConfig) : Machine State Label := ⟨step config⟩

/-- A text message that ended, with its stream. -/
structure Message where
  stream : Nat
  pieces : List String
  deriving DecidableEq

def Message.text (message : Message) : String := String.join message.pieces

/-- The text messages that have ended on the streams while the client was running. -/
def noteMessage (state : State) (label : Label) (messages : List Message) : List Message :=
  match label with
  | .completes _ true =>
    if state.client.shouldStop then messages
    else messages ++ [⟨state.client.stream, state.pieces⟩]
  | _ => messages

def framesLive (state : State) : Label → Bool
  | .completes stream _ => stream = state.client.stream
  | _ => true

/-- The stream that a reconnect replaces is destroyed, which aborts its reads: no message
ends on it. -/
def FramesLive (observed : State × List Message) (label : Label) : Prop :=
  framesLive observed.1 label = true

instance (observed : State × List Message) (label : Label) :
    Decidable (FramesLive observed label) :=
  inferInstanceAs (Decidable (_ = true))

/-- Everything one step can do. -/
inductive Transition (config : WebSocketConfig) (state : State) : Label → State → Prop where
  | arrives {piece : String} (reading : state.client.stream ∈ state.client.reads) :
      Transition config state (.arrives piece)
        { state with buffer := state.buffer ++ piece, pieces := state.pieces ++ [piece] }
  | completes {stream : Nat} {isText : Bool} {client : WebSocketClient.State}
      (handled : (WebSocketClient.machine config).step state.client
        (.readCompletes stream (.ok (frame state.buffer isText))) = some client) :
      Transition config state (.completes stream isText)
        { client
          buffer := if state.client.shouldStop then state.buffer else ""
          pieces := if stream = state.client.stream then [] else state.pieces }
  | other {label : WebSocketClient.Label} {client : WebSocketClient.State}
      (frameless : deliversFrame label = false)
      (handled : (WebSocketClient.machine config).step state.client label = some client) :
      Transition config state (.other label)
        { client
          buffer := cleared state label
          pieces := if client.stream = state.client.stream then state.pieces else [] }

variable {config : WebSocketConfig} {state after : State} {label : Label}

theorem transition_of_step (taken : (machine config).step state label = some after) :
    Transition config state label after := by
  cases label with
  | arrives piece =>
    obtain ⟨reading, moved⟩ := Option.ite_none_right_eq_some.mp taken
    rw [← Option.some.inj moved]
    exact .arrives reading
  | completes stream isText =>
    obtain ⟨client, handled, rfl⟩ := Option.map_eq_some_iff.mp taken
    exact .completes handled
  | other handler =>
    obtain ⟨frameless, moved⟩ := Option.ite_none_left_eq_some.mp taken
    obtain ⟨client, handled, rfl⟩ := Option.map_eq_some_iff.mp moved
    exact .other (Bool.eq_false_iff.mpr frameless) handled

/-- Each step is one of the client, or none. -/
theorem client_reachable {permitted : State → Label → Prop}
    (reached : (machine config).Reachable permitted initial state) :
    (WebSocketClient.machine config).Reachable Machine.anyStep WebSocketClient.initial
      state.client := by
  induction reached with
  | start => exact .start
  | next earlier _ taken ih =>
    cases transition_of_step taken with
    | arrives reading => exact ih
    | completes handled => exact .next ih trivial handled
    | other frameless handled => exact .next ih trivial handled

/-- What a handler that delivers no frame can do to the current stream: it leaves it, or
replaces it with one that is read from an empty buffer, or with one that is not read. -/
inductive Handled (state : State) (handler : WebSocketClient.Label)
    (client : WebSocketClient.State) : Prop where
  | stays (same : client.stream = state.client.stream)
      (fewer : ∀ stream ∈ client.reads, stream ∈ state.client.reads)
      (running : client.shouldStop = false → state.client.shouldStop = false)
      (kept : client.shouldStop = false → cleared state handler = state.buffer)
  | reconnected (next : client.stream = state.client.stream + 1)
      (empty : cleared state handler = "")
  | replaced (next : client.stream = state.client.stream + 1)
      (unread : client.reads = state.client.reads)

theorem handled_of_step {handler : WebSocketClient.Label} {client : WebSocketClient.State}
    (frameless : deliversFrame handler = false)
    (taken : (WebSocketClient.machine config).step state.client handler = some client) :
    client.received = state.client.received ∧ Handled state handler client := by
  cases WebSocketClient.transition_of_step taken with
  | readStopped outstanding stopped =>
    exact ⟨rfl, .stays rfl (fun _ => List.mem_of_mem_erase) id fun _ => by
      cases ‹Except String WebSocketClient.Frame› <;> rfl⟩
  | readFails outstanding running =>
    refine ⟨?_, .stays ?_ ?_ (fun _ => running) fun _ => rfl⟩
    · rw [WebSocketClient.attemptReconnect_received]
      rfl
    · rw [WebSocketClient.attemptReconnect_stream]
      rfl
    · rw [WebSocketClient.attemptReconnect_reads]
      exact fun _ => List.mem_of_mem_erase
  | readDelivers outstanding running => cases frameless
  | pingStopped waiting stopped => exact ⟨rfl, .stays rfl (fun _ => id) id fun _ => rfl⟩
  | pingFails waiting running up =>
    refine ⟨?_, .stays ?_ ?_ (fun _ => running) fun _ => rfl⟩
    · rw [WebSocketClient.attemptReconnect_received]
      rfl
    · rw [WebSocketClient.attemptReconnect_stream]
      rfl
    · rw [WebSocketClient.attemptReconnect_reads]
      exact fun _ => id
  | pingRestarts waiting running answered =>
    exact ⟨rfl, .stays rfl (fun _ => id) id fun _ => rfl⟩
  | pingAborted spare => exact ⟨rfl, .stays rfl (fun _ => id) id fun _ => rfl⟩
  | retryStopped pending stopped =>
    refine ⟨rfl, .stays rfl (fun _ => id) id ?_⟩
    intro running
    rw [show state.client.shouldStop = false from running] at stopped
    cases stopped
  | reconnects pending running =>
    refine ⟨rfl, .reconnected rfl ?_⟩
    rw [cleared, running]
    rfl
  | retryFails pending running =>
    refine ⟨?_, .replaced ?_ ?_⟩
    · rw [WebSocketClient.attemptReconnect_received]
      rfl
    · rw [WebSocketClient.attemptReconnect_stream]
      rfl
    · rw [WebSocketClient.attemptReconnect_reads]
      rfl
  | disconnect =>
    refine ⟨rfl, .stays rfl (fun _ => id) ?_ fun _ => rfl⟩
    intro running
    cases running

/-- What is left in the buffer does not matter once the current stream is not read. -/
structure Whole (state : State) (messages : List Message) : Prop where
  assembled : state.client.shouldStop = false → state.client.stream ∈ state.client.reads →
    state.buffer = String.join state.pieces
  received : state.client.received = messages.map Message.text
  past : ∀ message ∈ messages, message.stream ≤ state.client.stream
  ordered : (messages.map Message.stream).Pairwise (· ≤ ·)

theorem Whole.initial : Whole initial [] := by
  refine ⟨fun _ _ => rfl, rfl, List.forall_mem_nil _, .nil⟩

section Steps

variable {messages : List Message}

theorem Whole.arrives (whole : Whole state messages) (piece : String) :
    Whole { state with buffer := state.buffer ++ piece, pieces := state.pieces ++ [piece] }
      messages := by
  refine ⟨?_, whole.received, whole.past, whole.ordered⟩
  intro running reading
  have assembled : state.buffer = String.join state.pieces := whole.assembled running reading
  simp only [assembled, String.join_append, String.join_cons, String.join_nil, String.append_empty]

theorem Whole.completes {isText : Bool} {client : WebSocketClient.State}
    (whole : Whole state messages)
    (handled : (WebSocketClient.machine config).step state.client
      (.readCompletes state.client.stream (.ok (frame state.buffer isText))) = some client) :
    Whole { client, buffer := if state.client.shouldStop then state.buffer else "", pieces := [] }
      (noteMessage state (.completes state.client.stream isText) messages) := by
  cases WebSocketClient.transition_of_step handled with
  | readStopped outstanding stopped =>
    have unnoted : noteMessage state (.completes state.client.stream isText) messages =
        messages := by
      cases isText with
      | false => rfl
      | true => exact if_pos stopped
    rw [unnoted]
    refine ⟨?_, whole.received, whole.past, whole.ordered⟩
    intro running
    exact absurd running (by simp [WebSocketClient.State.withoutRead, stopped])
  | readDelivers outstanding running =>
    rw [running]
    cases isText with
    | false =>
      refine ⟨fun _ _ => rfl, ?_, whole.past, whole.ordered⟩
      exact (List.append_nil _).trans whole.received
    | true =>
      have noted : noteMessage state (.completes state.client.stream true) messages =
          messages ++ [⟨state.client.stream, state.pieces⟩] := by
        simp [noteMessage, running]
      rw [noted]
      refine ⟨fun _ _ => rfl, ?_, ?_, ?_⟩
      · rw [List.map_append, ← whole.received, List.map_singleton, Message.text,
          ← whole.assembled running outstanding]
        rfl
      · intro message member
        rcases List.mem_append.mp member with earlier | last
        · exact whole.past message earlier
        · exact Nat.le_of_eq (congrArg Message.stream (List.mem_singleton.mp last))
      · rw [List.map_append]
        refine List.pairwise_append.mpr ⟨whole.ordered, List.pairwise_singleton _ _, ?_⟩
        intro stream member last isLast
        obtain ⟨message, inside, rfl⟩ := List.mem_map.mp member
        rw [List.mem_singleton.mp isLast]
        exact whole.past message inside

/-- A handler that delivers no frame keeps the messages; it has to leave the buffer in
order only if it leaves the current stream being read. -/
theorem Whole.keeps (whole : Whole state messages)
    (received : after.client.received = state.client.received)
    (forward : state.client.stream ≤ after.client.stream)
    (assembled : after.client.shouldStop = false → after.client.stream ∈ after.client.reads →
      after.buffer = String.join after.pieces) : Whole after messages where
  assembled := assembled
  received := received.trans whole.received
  past message member := Nat.le_trans (whole.past message member) forward
  ordered := whole.ordered

theorem Whole.other {handler : WebSocketClient.Label} {client : WebSocketClient.State}
    (whole : Whole state messages)
    (past : ∀ stream ∈ state.client.reads, stream ≤ state.client.stream)
    (received : client.received = state.client.received)
    (handled : Handled state handler client) :
    Whole
      { client
        buffer := cleared state handler
        pieces := if client.stream = state.client.stream then state.pieces else [] } messages := by
  cases handled with
  | stays same fewer running kept =>
    refine whole.keeps received (Nat.le_of_eq same.symm) ?_
    intro going reading
    have assembled : state.buffer = String.join state.pieces :=
      whole.assembled (running going) (same ▸ fewer _ reading)
    rw [kept going, if_pos same]
    exact assembled
  | reconnected next empty =>
    have forward : state.client.stream ≤ client.stream := by omega
    refine whole.keeps received forward ?_
    intro _ _
    rw [empty, if_neg (by omega)]
    rfl
  | replaced next unread =>
    have forward : state.client.stream ≤ client.stream := by omega
    refine whole.keeps received forward ?_
    intro _ reading
    have behind : client.stream ≤ state.client.stream := past _ (unread ▸ reading)
    omega

end Steps

theorem Whole.step {messages noted : List Message} (whole : Whole state messages)
    (reached : (machine config).Reachable Machine.anyStep ReadBuffer.initial state)
    (live : FramesLive (state, messages) label)
    (taken : (machine config).step state label = some after)
    (logged : noted = noteMessage state label messages) : Whole after noted := by
  subst logged
  cases transition_of_step taken with
  | arrives reading => exact whole.arrives _
  | completes handled =>
    obtain rfl := of_decide_eq_true live
    rw [if_pos rfl]
    exact whole.completes handled
  | other frameless handled =>
    obtain ⟨received, summary⟩ := handled_of_step frameless handled
    exact whole.other (WebSocketClient.reachable_served (client_reachable reached)).past received
      summary

/-- However the messages are cut into pieces and wherever connections are lost in between:
the run is one of the client as the other theorems know it, and the texts it passes on are
the messages that ended while it was running, each put together from its own pieces, once and
in order. Nothing of a message that a lost connection broke off reaches a later one. -/
theorem messages_put_together {messages : List Message}
    (reached : ((machine config).observe noteMessage).Reachable FramesLive (initial, [])
      (state, messages)) :
    (WebSocketClient.machine config).Reachable Machine.anyStep WebSocketClient.initial
        state.client ∧
      state.client.received = messages.map Message.text ∧
        (messages.map Message.stream).Pairwise (· ≤ ·) := by
  have whole : Whole state messages := by
    generalize ending : (state, messages) = observed at reached
    induction reached generalizing state messages with
    | start =>
      cases ending
      exact .initial
    | @next before _ _ earlier live taken ih =>
      subst ending
      obtain ⟨moved, logged⟩ := Machine.observe_step taken
      exact (ih rfl).step earlier.unobserved live moved logged
  exact ⟨client_reachable reached.unobserved, whole.received, whole.ordered⟩

/-- A connection is lost in the middle of the second message. -/
theorem messages_put_together_lost :
    ∃ state messages,
      ((machine ⟨5, 10⟩).observe noteMessage).Reachable FramesLive (initial, [])
        (state, messages) ∧
      messages = [⟨0, ["ab", "c"]⟩, ⟨1, ["f"]⟩] ∧ state.client.received = ["abc", "f"] := by
  obtain ⟨state, messages, evaluated, noted⟩ :
      ∃ state messages, ((machine ⟨5, 10⟩).observe noteMessage).run FramesLive (initial, [])
          [.arrives "ab", .arrives "c", .completes 0 true, .arrives "de",
            .other (.readCompletes 0 (.error "reset")), .other (.retryFires 0 (.ok ())),
            .arrives "f", .completes 1 true] = some (state, messages) ∧
        messages = [⟨0, ["ab", "c"]⟩, ⟨1, ["f"]⟩] := ⟨_, _, rfl, rfl⟩
  have reached := Machine.reachable_of_run evaluated
  refine ⟨state, messages, reached, noted, ?_⟩
  rw [(messages_put_together reached).2.1, noted]
  rfl

/-- A read of a replaced stream that ended with a frame would pass on half a message. -/
example : ∃ observed, ((machine ⟨5, 10⟩).observe noteMessage).Reachable Machine.anyStep
    (initial, []) observed ∧ observed.1.client.received = ["f", "g"] :=
  Machine.exists_reachable_of_run
    [.other (.pingFires (.error "broken pipe")), .other (.retryFires 0 (.ok ())), .arrives "f",
      .completes 0 true, .arrives "g", .completes 1 true] (by decide)

end Bintrade.Ws.ReadBuffer
