import Bintrade.Rest.TransportErrors

/-! Whose response a call returns. HTTP/1.1 has no request identifiers: a server answers the
requests of a connection in the order in which they arrive, and a client has to know for
which of them it waits. -/

namespace Bintrade.Rest.HttpClient

open Bintrade.System

/-- The requests that were written to each connection and not answered yet, oldest first. A
request is known by its call and its attempt. -/
abbrev InFlight := Nat → List (Nat × Nat)

def noteRequests (state : State) (label : Label) (inFlight : InFlight) : InFlight :=
  match label with
  | .write task (.ok _) _ =>
    match state.phase task with
    | .writing attempt (some conn) _ _ =>
      Function.update inFlight conn (inFlight conn ++ [(task, attempt)])
    | _ => inFlight
  | .read task (.ok _) _ =>
    match state.phase task with
    | .reading _ (some conn) _ _ => Function.update inFlight conn (inFlight conn).tail
    | _ => inFlight
  | _ => inFlight

/-- What the server sends for a request. -/
abbrev Server := Nat × Nat → RawResponse

def Server.sends (server : Server) (observed : State × InFlight) : Label → Bool
  | .read task (.ok raw) _ =>
    match observed.1.phase task with
    | .reading _ (some conn) _ _ => (observed.2 conn).head?.map server = some raw
    | _ => true
  | _ => true

/-- A response that is read from a connection is that of its oldest open request. -/
def Server.AnswersInOrder (server : Server) (observed : State × InFlight) (label : Label) : Prop :=
  server.sends observed label = true

instance (server : Server) (observed : State × InFlight) (label : Label) :
    Decidable (server.AnswersInOrder observed label) :=
  inferInstanceAs (Decidable (_ = true))

/-- The server answers in order, and every `do_connect` ends in place. -/
def Server.Orderly (server : Server) (observed : State × InFlight) (label : Label) : Prop :=
  settledInPlace observed.1 label ∧ server.AnswersInOrder observed label

instance (server : Server) (observed : State × InFlight) (label : Label) :
    Decidable (server.Orderly observed label) :=
  inferInstanceAs (Decidable (_ ∧ _))

/-- The request for whose response a call waits, and the connection. -/
def Phase.awaits? : Phase → Option (Nat × Nat)
  | .reading attempt (some conn) _ _ => some (conn, attempt)
  | _ => none

def Event.isFailure : Event → Bool
  | .broke _ => true
  | _ => false

/-- The attempts of the call that have failed. It is also the number of the attempt that the
call is in, or in which it returned. -/
def State.failures (state : State) (task : Nat) : Nat :=
  (state.history task).countP Event.isFailure

/-- On every connection that can still be used, the only open request is that of the call
that waits there. -/
structure Matched (server : Server) (state : State) (inFlight : InFlight) : Prop where
  invariant : Invariant state
  waiting : ∀ task conn attempt, (state.phase task).awaits? = some (conn, attempt) →
    inFlight conn = [(task, attempt)]
  quiet : ∀ conn, ¬ Gone state conn →
    (∀ task attempt, (state.phase task).awaits? ≠ some (conn, attempt)) → inFlight conn = []
  returned : ∀ task response, state.phase task = .returned response →
    response = toResponse (server (task, state.failures task))

section Steps

variable {server : Server} {settings : Settings} {state after : State} {inFlight : InFlight}
  {task : Nat}

theorem Matched.initial (server : Server) : Matched server initial fun _ => [] where
  invariant := Invariant.initial
  waiting := nofun
  quiet _ _ _ := rfl
  returned := nofun

theorem Earlier.failures {message : Message} {attempt : Nat} {events : List Event}
    (earlier : Earlier message attempt events) : events.countP Event.isFailure = attempt := by
  rcases attempt with _ | _ | attempt
  · obtain rfl : events = [] := earlier
    rfl
  · obtain ⟨text, failed⟩ := earlier
    cases failed <;> rfl
  · exact earlier.elim

/-- A call waits on the connection that it owns. -/
theorem Invariant.slot_of_awaits {conn attempt : Nat} (invariant : Invariant state)
    (waits : (state.phase task).awaits? = some (conn, attempt)) :
    (state.phase task).slot? = some conn := by
  have sound := invariant.sound task
  cases phase : state.phase task with
  | reading attempt pointer reserved wasPreconnected =>
    rw [phase] at waits sound
    obtain ⟨rfl, -⟩ := sound
    cases waits
    rfl
  | _ =>
    rw [phase] at waits
    cases waits

theorem Invariant.not_gone {conn : Nat} (invariant : Invariant state)
    (owns : (state.phase task).slot? = some conn) : ¬ Gone state conn := by
  intro gone
  obtain ⟨own, member, same, -⟩ := (invariant.sound task).inUse owns
  exact gone.absent own member same

/-- What a step has to say about its own call and the connections it changes; the other calls
are where they were. -/
theorem Matched.advance {label : Label} {later : InFlight} (matched : Matched server state inFlight)
    (inPlace : settledInPlace state label)
    (taken : (machine settings).step state label = some after)
    (waiting : ∀ conn attempt, (after.phase label.task).awaits? = some (conn, attempt) →
      later conn = [(label.task, attempt)])
    (kept : ∀ other ≠ label.task, ∀ conn, (state.phase other).slot? = some conn →
      later conn = inFlight conn)
    (quiet : ∀ conn, ¬ Gone after conn →
      (∀ attempt, (after.phase label.task).awaits? ≠ some (conn, attempt)) → later conn = [] ∨
        later conn = inFlight conn ∧
          ∀ attempt, (state.phase label.task).awaits? ≠ some (conn, attempt))
    (returned : ∀ response, after.phase label.task = .returned response →
      response = toResponse (server (label.task, after.failures label.task))) :
    Matched server after later where
  invariant := matched.invariant.step inPlace taken
  waiting task conn attempt waits := by
    by_cases own : task = label.task
    · subst own
      exact waiting conn attempt waits
    · rw [(step_other taken own).1] at waits
      rw [kept task own conn (matched.invariant.slot_of_awaits waits)]
      exact matched.waiting task conn attempt waits
  quiet conn usable unawaited := by
    rcases quiet conn usable (unawaited label.task) with empty | ⟨same, unawaitedBefore⟩
    · exact empty
    · rw [same]
      apply matched.quiet conn fun gone => usable (gone.evolve (evolves_of_step taken))
      intro task attempt waits
      by_cases own : task = label.task
      · subst own
        exact unawaitedBefore attempt waits
      · rw [← (step_other taken own).1] at waits
        exact unawaited task attempt waits
  returned task response ended := by
    by_cases own : task = label.task
    · subst own
      exact returned response ended
    · obtain ⟨phase, history⟩ := step_other taken own
      rw [phase] at ended
      rw [State.failures, history]
      exact matched.returned task response ended

/-- The call neither waits for a response nor has one. -/
def Phase.Unanswered (phase : Phase) : Prop :=
  phase.awaits? = none ∧ ∀ response, phase ≠ .returned response

/-- A step that leaves its call without a response, and closes the connection on which it
waited for one. -/
theorem Matched.leave {label : Label} (matched : Matched server state inFlight)
    (inPlace : settledInPlace state label)
    (taken : (machine settings).step state label = some after)
    (unanswered : (after.phase label.task).Unanswered)
    (closed : ∀ conn attempt, (state.phase label.task).awaits? = some (conn, attempt) →
      Gone after conn) :
    Matched server after inFlight := by
  refine matched.advance inPlace taken ?_ (fun _ _ _ _ => rfl) ?_ ?_
  · intro conn attempt waits
    rw [unanswered.1] at waits
    cases waits
  · intro conn usable _
    exact .inr ⟨rfl, fun attempt waits => usable (closed conn attempt waits)⟩
  · intro response ended
    exact absurd ended (unanswered.2 response)

theorem Matched.proceed {label : Label} (matched : Matched server state inFlight)
    (inPlace : settledInPlace state label)
    (taken : (machine settings).step state label = some after)
    (unanswered : (after.phase label.task).Unanswered)
    (elsewhere : (state.phase label.task).awaits? = none) : Matched server after inFlight := by
  refine matched.leave inPlace taken unanswered ?_
  intro conn attempt waits
  rw [elsewhere] at waits
  cases waits

theorem Acquired.unanswered {attempt : Nat} (acquired : Acquired state task attempt after) :
    (after.phase task).Unanswered := by
  cases acquired <;> rw [Phase.Unanswered] <;>
    simp [startRequest, State.setPhase, Phase.awaits?]

theorem Caught.unanswered {attempt : Nat} {wasPreconnected sni : Bool} {failure : Failure}
    (caught : Caught state task attempt wasPreconnected sni failure after) :
    (after.phase task).Unanswered := by
  cases caught with
  | ended message final => simp [Phase.Unanswered, State.setPhase, Phase.awaits?]
  | retried again more => exact (acquired state task (attempt + 1) sni).unanswered

/-- The request is the only open one on a connection that nobody else waits on. -/
theorem Matched.writeCompletes {attempt reserved : Nat} {conn : Option Nat}
    {wasPreconnected sni : Bool} (matched : Matched server state inFlight)
    (inPlace : settledInPlace state (.write task (.ok ()) sni))
    (waiting : state.phase task = .writing attempt conn reserved wasPreconnected)
    (taken : (machine settings).step state (.write task (.ok ()) sni) = some after)
    (moved : after.phase task = .reading attempt conn reserved wasPreconnected) :
    Matched server after (noteRequests state (.write task (.ok ()) sni) inFlight) := by
  obtain ⟨⟨rfl, -⟩, unclaimed⟩ := matched.invariant.atPhase waiting rfl
  have owns : (state.phase task).slot? = some reserved := by rw [waiting]; rfl
  have unawaited : ∀ number, (state.phase task).awaits? ≠ some (reserved, number) := by
    rw [waiting]
    nofun
  have empty : inFlight reserved = [] := by
    apply matched.quiet reserved (matched.invariant.not_gone owns)
    intro other number waits
    have same : other = task := matched.invariant.apart other task reserved
      (matched.invariant.slot_of_awaits waits) owns
    exact unawaited number (same ▸ waits)
  have noted : noteRequests state (.write task (.ok ()) sni) inFlight =
      Function.update inFlight reserved [(task, attempt)] := by
    simp only [noteRequests, waiting, empty, List.nil_append]
  rw [noted]
  refine matched.advance inPlace taken ?_ ?_ ?_ ?_
  · intro conn number waits
    rw [Label.task, moved] at waits
    cases waits
    exact Function.update_self ..
  · intro other different conn claimed
    refine Function.update_of_ne ?_ _ _
    rintro rfl
    exact unclaimed other different claimed
  · intro conn _ still
    have elsewhere : conn ≠ reserved := by
      rintro rfl
      exact still attempt (by rw [Label.task, moved]; rfl)
    refine .inr ⟨Function.update_of_ne elsewhere _ _, ?_⟩
    rw [Label.task, waiting]
    nofun
  · intro response ended
    rw [Label.task, moved] at ended
    cases ended

/-- The oldest open request is the one that the call made, and it was the only one. -/
theorem Matched.readCompletes {attempt reserved : Nat} {conn : Option Nat}
    {wasPreconnected sni : Bool} {raw : RawResponse} (matched : Matched server state inFlight)
    (inPlace : settledInPlace state (.read task (.ok raw) sni))
    (inOrder : server.AnswersInOrder (state, inFlight) (.read task (.ok raw) sni))
    (waiting : state.phase task = .reading attempt conn reserved wasPreconnected)
    (latest : state.failures task = attempt)
    (taken : (machine settings).step state (.read task (.ok raw) sni) = some after)
    (moved : after.phase task = .returned (toResponse raw))
    (received : after.history task = state.history task ++ [.received]) :
    Matched server after (noteRequests state (.read task (.ok raw) sni) inFlight) := by
  obtain ⟨⟨rfl, -⟩, unclaimed⟩ := matched.invariant.atPhase waiting rfl
  have only := matched.waiting task reserved attempt (by rw [waiting]; rfl)
  have answer : server (task, attempt) = raw := by
    simp only [Server.AnswersInOrder, Server.sends, waiting, only, List.head?_cons,
      Option.map_some, decide_eq_true_eq] at inOrder
    exact Option.some.inj inOrder
  have noted : noteRequests state (.read task (.ok raw) sni) inFlight =
      Function.update inFlight reserved [] := by
    simp only [noteRequests, waiting, only, List.tail_cons]
  rw [noted]
  refine matched.advance inPlace taken ?_ ?_ ?_ ?_
  · intro conn number waits
    rw [Label.task, moved] at waits
    cases waits
  · intro other different conn claimed
    refine Function.update_of_ne ?_ _ _
    rintro rfl
    exact unclaimed other different claimed
  · intro conn _ _
    by_cases same : conn = reserved
    · exact .inl (by rw [same, Function.update_self])
    · refine .inr ⟨Function.update_of_ne same _ _, ?_⟩
      intro number waits
      rw [Label.task, waiting] at waits
      cases waits
      exact same rfl
  · intro response ended
    rw [Label.task, moved] at ended
    cases ended
    have same : after.failures task = attempt := by
      rw [← latest]
      simp [State.failures, received, Event.isFailure]
    rw [Label.task, same, answer]

theorem Matched.step {label : Label} (matched : Matched server state inFlight)
    (log : (state.phase label.task).Log (buildRequest settings (settings.request label.task))
      (state.history label.task))
    (inPlace : settledInPlace state label)
    (inOrder : server.AnswersInOrder (state, inFlight) label)
    (taken : (machine settings).step state label = some after) :
    Matched server after (noteRequests state label inFlight) := by
  cases transition_of_step taken with
  | @execute task sni after fresh acquired =>
    exact matched.proceed inPlace taken acquired.unanswered (by rw [Label.task, fresh]; rfl)
  | @connectFails task attempt slot position created stage message waiting =>
    refine matched.proceed inPlace taken ?_ (by rw [Label.task, waiting]; rfl)
    simp [Phase.Unanswered, connectFails, State.setPhase, Phase.awaits?, Label.task]
  | @connectAdvances task attempt slot position created stage later waiting =>
    refine matched.proceed inPlace taken ?_ (by rw [Label.task, waiting]; rfl)
    simp [Phase.Unanswered, State.setPhase, Phase.awaits?, Label.task]
  | @connectCompletes task attempt slot position created waiting =>
    refine matched.proceed inPlace taken ?_ (by rw [Label.task, waiting]; rfl)
    simp [Phase.Unanswered, connectCompletes, startRequest, State.setPhase, Phase.awaits?,
      Label.task]
  | @writeCompletes task attempt conn reserved wasPreconnected sni waiting =>
    exact matched.writeCompletes inPlace waiting taken (Function.update_self ..)
  | @writeFails task attempt conn reserved wasPreconnected sni failure waiting =>
    exact matched.proceed inPlace taken (caught ..).unanswered (by rw [Label.task, waiting]; rfl)
  | @readFails task attempt conn reserved wasPreconnected sni failure waiting =>
    refine matched.leave inPlace taken (caught ..).unanswered ?_
    obtain ⟨⟨rfl, own, member, same, -⟩, -⟩ := matched.invariant.atPhase waiting rfl
    intro conn number waits
    rw [Label.task, waiting] at waits
    cases waits
    exact requestFails_gone matched.invariant.distinct
      (same ▸ matched.invariant.fresh own member) _ _ _ _ _ _
  | @readCompletes task attempt conn reserved wasPreconnected sni raw waiting =>
    rw [Label.task, waiting] at log
    obtain ⟨earlier, before, events⟩ := log
    have latest : state.failures task = attempt := by
      rw [State.failures, events, List.countP_append, before.failures]
      rfl
    exact matched.readCompletes inPlace inOrder waiting latest taken (Function.update_self ..)
      (Function.update_self ..)

end Steps

/-- In every run in which each `do_connect` ends in place, however the calls overlap, fail
and are retried: a call that returns, returns what the server sent for its own request, and for
the one of its last attempt. -/
theorem responses_answer_own_request {settings : Settings} {server : Server} {state : State}
    {inFlight : InFlight} {task : Nat} {response : HttpResponse}
    (reached : ((machine settings).observe noteRequests).Reachable server.Orderly
      (initial, fun _ => []) (state, inFlight))
    (ended : state.phase task = .returned response) :
    response = toResponse (server (task, state.failures task)) := by
  have matched (observed : State × InFlight)
      (reached : ((machine settings).observe noteRequests).Reachable server.Orderly
        (initial, fun _ => []) observed) : Matched server observed.1 observed.2 := by
    induction reached with
    | start => exact Matched.initial server
    | next earlier orderly taken ih =>
      obtain ⟨moved, noted⟩ := Machine.observe_step taken
      rw [noted]
      exact ih.step (reachable_log rfl rfl earlier.unobserved) orderly.1 orderly.2 moved
  exact (matched _ reached).returned task response ended

/-- A server that names the call and its attempt in its response. -/
def namingServer : Server := fun request =>
  ⟨11, 200, [], toString request.1 ++ "/" ++ toString request.2⟩

/-- Two calls at the same time. The later one is answered first, in its second attempt. -/
theorem responses_answer_own_request_overlapping :
    ∃ state inFlight response,
      ((machine orderClient).observe noteRequests).Reachable namingServer.Orderly
        (initial, fun _ => []) (state, inFlight) ∧
      state.phase 1 = .returned response ∧ (state.phase 0).awaits? = some (0, 0) ∧
        response = toResponse (namingServer (1, 1)) := by
  let labels : List Label := [.execute 0 true] ++ connect 0 ++ [.execute 1 true] ++ connect 1 ++
    [.write 0 (.ok ()) true, .write 1 (.ok ()) true,
      .read 1 (.error (.system "end of stream")) true] ++ connect 1 ++
    [.write 1 (.ok ()) true, .read 1 (.ok ⟨11, 200, [], "1/1"⟩) true]
  obtain ⟨state, inFlight, response, evaluated, ended, waits, again⟩ :
      ∃ state inFlight response,
        ((machine orderClient).observe noteRequests).run namingServer.Orderly
          (initial, fun _ => []) labels = some (state, inFlight) ∧
        state.phase 1 = .returned response ∧ (state.phase 0).awaits? = some (0, 0) ∧
          state.failures 1 = 1 :=
    ⟨_, _, _, rfl, rfl, rfl, rfl⟩
  have reached := Machine.reachable_of_run evaluated
  have answered := responses_answer_own_request reached ended
  rw [again] at answered
  exact ⟨state, inFlight, response, reached, ended, waits, answered⟩

end Bintrade.Rest.HttpClient
