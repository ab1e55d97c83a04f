import Bintrade.System.Machine
import Bintrade.Core.Error
import Bintrade.Rest.HttpTransport
import Mathlib.Data.List.Induction

/-! `HttpClient::Impl`: a pool of connections and any number of `execute` coroutines
on one I/O thread. A coroutine runs without interruption from one asynchronous
operation to the next; the operations complete in any order and with any outcome. -/

namespace Bintrade.Rest.HttpClient

open Bintrade.System Bintrade.Core Bintrade.Rest

/-- A `PooledConnection`. The identity stands for its address; the pool is a vector
of such addresses. -/
structure Slot where
  id : Nat
  inUse : Bool
  connected : Bool
  deriving DecidableEq

/-- The asynchronous operation that a `do_connect` waits for. The socket option set
after the TCP connect fails as part of it. -/
inductive Stage where
  | resolving
  | connecting
  | handshaking
  deriving DecidableEq

/-- What a failed operation of a request throws: a `boost::system::system_error`, or
some other `std::exception`. -/
inductive Failure where
  | system (message : String)
  | standard (message : String)
  deriving DecidableEq

/-- A message as it is received, with its header fields in order. -/
structure RawResponse where
  version : Nat
  statusCode : Int
  fields : List (String × String)
  body : String
  deriving DecidableEq

/-- Where one `execute` stands.

While it connects, `slot` is the connection it connects, `position` the place in the
pool that `slot` or `new_slot` refers to, and `created` says that the connection was
appended by this call. While it runs a request, `conn` is the pointer returned by
`acquire_connection` and `reserved` the connection that this call marked as used. -/
inductive Phase where
  | notStarted
  | connecting (attempt slot position : Nat) (created : Bool) (stage : Stage)
  | writing (attempt : Nat) (conn : Option Nat) (reserved : Nat) (wasPreconnected : Bool)
  | reading (attempt : Nat) (conn : Option Nat) (reserved : Nat) (wasPreconnected : Bool)
  | returned (response : HttpResponse)
  | failed (error : Exception)

/-- A request as it is written to a connection. -/
structure Message where
  verb : Verb
  target : String
  fields : List (String × String)
  body : String
  deriving DecidableEq

/-- What the transport did for one `execute`: it wrote the whole request, received a
response, or failed in an attempt. -/
inductive Event where
  | wrote (conn : Option Nat) (message : Message)
  | received
  | broke (failure : Failure)
  deriving DecidableEq

/-- The client as it was constructed, and what each `execute` is called with. -/
structure Settings where
  poolSize : Nat
  host : String
  apiKey : String
  request : Nat → HttpRequest

structure State where
  pool : List Slot
  next : Nat
  phase : Nat → Phase
  history : Nat → List Event

/-- The scheduler picks a coroutine and the outcome of its operation. `sni` says
whether setting the SNI host name works, should the step start a `do_connect`. -/
inductive Label where
  | execute (task : Nat) (sni : Bool)
  | connectStep (task : Nat) (outcome : Except String Unit)
  | write (task : Nat) (outcome : Except Failure Unit) (sni : Bool)
  | read (task : Nat) (outcome : Except Failure RawResponse) (sni : Bool)

def initial : State where
  pool := []
  next := 0
  phase _ := .notStarted
  history _ := []

def maxAttempts : Nat := 2

/-- `std::tolower` on every character. -/
def toLower (name : String) : String := String.ofList (name.toList.map Char.toLower)

/-- A field replaces those of the same name. -/
def setField (fields : List (String × String)) (field : String × String) : List (String × String) :=
  fields.filter (fun other => toLower other.1 ≠ toLower field.1) ++ [field]

/-- The request that `do_request` builds. -/
def buildRequest (settings : Settings) (request : HttpRequest) : Message where
  verb := request.verb
  target := request.target
  fields :=
    let fields := [("Host", settings.host), ("User-Agent", "bintrade/0.1.0"),
      ("Accept", "application/json"), ("Connection", "keep-alive")]
    let fields :=
      if settings.apiKey.isEmpty then fields else setField fields ("X-MBX-APIKEY", settings.apiKey)
    let fields := request.extraHeaders.entries.foldl setField fields
    if request.body.isEmpty then fields
    else setField (setField fields ("Content-Type", "application/x-www-form-urlencoded"))
      ("Content-Length", toString request.body.utf8ByteSize)
  body := request.body

/-- The conversion at the end of `do_request`: of several fields with one name, the
last is kept. -/
def toResponse (raw : RawResponse) : HttpResponse where
  statusCode := raw.statusCode
  body := raw.body
  headers := raw.fields.foldl
    (fun headers field => headers.assign .keep (toLower field.1) field.2) .empty

/-- The value of the last field of a name, in any case. -/
def lastValue (name : String) (fields : List (String × String)) : Option String :=
  (fields.filter fun field => toLower field.1 = name).getLast?.map Prod.snd

theorem lastValue_append (name : String) (first second : List (String × String)) :
    lastValue name (first ++ second) = (lastValue name second).or (lastValue name first) := by
  simp [lastValue, List.getLast?_append, Option.map_or]

/-- Fields of one name overwrite each other in the headers of a response. -/
theorem find?_toResponse (raw : RawResponse) (name : String) :
    (toResponse raw).headers.find? name = lastValue name raw.fields := by
  unfold toResponse
  simp only
  induction raw.fields using List.reverseRecOn with
  | nil => rfl
  | append_singleton fields field ih =>
    rw [List.foldl_concat, UnorderedMap.find?_assign, ih, lastValue_append]
    by_cases named : toLower field.1 = name
    · simp [lastValue, named]
    · simp [lastValue, named, Ne.symm named]

def resKeepAlive (response : HttpResponse) : Bool :=
  match response.headers.find? "connection" with
  | some value => value ≠ "close"
  | none => true

/-- A connection that was just appended to the pool by the call that uses it. -/
def Slot.fresh (id : Nat) : Slot where
  id := id
  inUse := true
  connected := false

def Slot.reserve (slot : Slot) : Slot := { slot with inUse := true }

/-- Change the connection with an identity, wherever it stands in the pool. -/
def onSlot (pool : List Slot) (id : Nat) (change : Slot → Slot) : List Slot :=
  pool.map fun slot => if slot.id = id then change slot else slot

def idleConnected (slot : Slot) : Bool := !slot.inUse && slot.connected

def idleUnconnected (slot : Slot) : Bool := !slot.inUse && !slot.connected

/-- `conn->connected`. -/
def isConnected (pool : List Slot) (conn : Option Nat) : Bool :=
  pool.any fun slot => some slot.id = conn && slot.connected

def State.setPhase (state : State) (task : Nat) (phase : Phase) : State :=
  { state with phase := Function.update state.phase task phase }

def State.record (state : State) (task : Nat) (event : Event) : State :=
  { state with history := Function.update state.history task (state.history task ++ [event]) }

def State.setPool (state : State) (pool : List Slot) : State := { state with pool := pool }

/-- The rest of an attempt after `acquire_connection` returned, up to the write. -/
def startRequest (state : State) (task attempt : Nat) (conn : Option Nat) (reserved : Nat) :
    State :=
  state.setPhase task (.writing attempt conn reserved
    (attempt = 0 && (1 < state.pool.length || !isConnected state.pool conn)))

/-- An exception leaves `do_connect`: a connection that was appended is removed by
`pop_back`, and the exception leaves `execute`. -/
def connectFails (state : State) (task : Nat) (created : Bool) (error : Exception) : State :=
  (state.setPool (if created then state.pool.dropLast else state.pool)).setPhase task
    (.failed error)

def startConnect (state : State) (task attempt slot position : Nat) (created sni : Bool) : State :=
  if sni then state.setPhase task (.connecting attempt slot position created .resolving)
  else connectFails state task created (.network "Failed to set SNI hostname")

/-- `acquire_connection`, up to its first asynchronous operation. -/
def acquire (state : State) (task attempt : Nat) (sni : Bool) : State :=
  match state.pool.find? idleConnected with
  | some slot =>
    startRequest (state.setPool (onSlot state.pool slot.id Slot.reserve)) task attempt
      (some slot.id) slot.id
  | none =>
    match state.pool.find? idleUnconnected with
    | some slot =>
      startConnect (state.setPool (onSlot state.pool slot.id Slot.reserve)) task attempt slot.id
        (state.pool.findIdx idleUnconnected) false sni
    | none =>
      startConnect
        { state with
          pool := state.pool ++ [Slot.fresh state.next]
          next := state.next + 1 }
        task attempt state.next state.pool.length true sni

def releaseConnection (poolSize : Nat) (pool : List Slot) (conn : Option Nat) (keepAlive : Bool) :
    List Slot :=
  match pool.find? fun slot => some slot.id = conn with
  | none => pool
  | some slot =>
    if !keepAlive || poolSize < pool.length then pool.eraseP fun other => some other.id = conn
    else onSlot pool slot.id fun slot => { slot with inUse := false }

/-- The catch blocks of `execute`. -/
def requestFails (poolSize : Nat) (state : State) (task attempt : Nat) (conn : Option Nat)
    (wasPreconnected : Bool) (failure : Failure) (sni : Bool) : State :=
  let released := (state.setPool (releaseConnection poolSize state.pool conn false)).record task
    (.broke failure)
  match failure with
  | .system message =>
    if !wasPreconnected || attempt + 1 = maxAttempts then
      released.setPhase task (.failed (.network message))
    else acquire released task (attempt + 1) sni
  | .standard message => released.setPhase task (.failed (.network message))

/-- `do_connect` is done: `slot.get()` or `new_slot.get()` reads the place in the pool
that it refers to. -/
def connectCompletes (state : State) (task attempt slot position : Nat) : State :=
  let pool := onSlot state.pool slot fun slot => { slot with connected := true }
  startRequest (state.setPool pool) task attempt (pool[position]?.map Slot.id) slot

def step (settings : Settings) (state : State) : Label → Option State
  | .execute task sni =>
    match state.phase task with
    | .notStarted => some (acquire state task 0 sni)
    | _ => none
  | .connectStep task outcome =>
    match state.phase task, outcome with
    | .connecting _ _ _ created _, .error message =>
      some (connectFails state task created (.system message))
    | .connecting attempt slot position created .resolving, .ok _ =>
      some (state.setPhase task (.connecting attempt slot position created .connecting))
    | .connecting attempt slot position created .connecting, .ok _ =>
      some (state.setPhase task (.connecting attempt slot position created .handshaking))
    | .connecting attempt slot position _ .handshaking, .ok _ =>
      some (connectCompletes state task attempt slot position)
    | _, _ => none
  | .write task outcome sni =>
    match state.phase task, outcome with
    | .writing attempt conn reserved wasPreconnected, .ok _ =>
      let message := buildRequest settings (settings.request task)
      some ((state.record task (.wrote conn message)).setPhase task
        (.reading attempt conn reserved wasPreconnected))
    | .writing attempt conn _ wasPreconnected, .error failure =>
      some (requestFails settings.poolSize state task attempt conn wasPreconnected failure sni)
    | _, _ => none
  | .read task outcome sni =>
    match state.phase task, outcome with
    | .reading _ conn _ _, .ok raw =>
      let response := toResponse raw
      some (((state.setPool (releaseConnection settings.poolSize state.pool conn
        (resKeepAlive response))).record task .received).setPhase task (.returned response))
    | .reading attempt conn _ wasPreconnected, .error failure =>
      some (requestFails settings.poolSize state task attempt conn wasPreconnected failure sni)
    | _, _ => none

def machine (settings : Settings) : Machine State Label where
  step := step settings

/-- How `acquire_connection` can leave the state. -/
inductive Acquired (state : State) (task attempt : Nat) : State → Prop where
  | reused {slot : Slot} (found : slot ∈ state.pool) (idle : slot.inUse = false)
      (alive : slot.connected = true) :
      Acquired state task attempt
        (startRequest (state.setPool (onSlot state.pool slot.id Slot.reserve)) task attempt
          (some slot.id) slot.id)
  | reconnecting {slot : Slot} (position : Nat) (found : slot ∈ state.pool)
      (idle : slot.inUse = false) (dead : slot.connected = false) :
      Acquired state task attempt
        ((state.setPool (onSlot state.pool slot.id Slot.reserve)).setPhase task
          (.connecting attempt slot.id position false .resolving))
  | abandoned {slot : Slot} (found : slot ∈ state.pool) (idle : slot.inUse = false)
      (dead : slot.connected = false) (error : Exception) :
      Acquired state task attempt
        ((state.setPool (onSlot state.pool slot.id Slot.reserve)).setPhase task (.failed error))
  | created :
      Acquired state task attempt
        (State.setPhase
          { state with
            pool := state.pool ++ [Slot.fresh state.next]
            next := state.next + 1 }
          task (.connecting attempt state.next state.pool.length true .resolving))
  | discarded (error : Exception) :
      Acquired state task attempt
        (State.setPhase { state with next := state.next + 1 } task (.failed error))

theorem acquired (state : State) (task attempt : Nat) (sni : Bool) :
    Acquired state task attempt (acquire state task attempt sni) := by
  unfold acquire
  split
  · rename_i slot found
    have idle : idleConnected slot = true := List.find?_some found
    simp only [idleConnected, Bool.and_eq_true, Bool.not_eq_true'] at idle
    exact .reused (List.mem_of_find?_eq_some found) idle.1 idle.2
  · split
    · rename_i slot found
      have idle : idleUnconnected slot = true := List.find?_some found
      simp only [idleUnconnected, Bool.and_eq_true, Bool.not_eq_true'] at idle
      have member := List.mem_of_find?_eq_some found
      cases sni with
      | true => exact .reconnecting _ member idle.1 idle.2
      | false => exact .abandoned member idle.1 idle.2 _
    · cases sni with
      | true => exact .created
      | false =>
        simp only [startConnect, connectFails, State.setPool, if_true, List.dropLast_concat,
          Bool.false_eq_true, if_false]
        exact .discarded _

/-- How the catch blocks of `execute` leave a state from which the connection is released. -/
inductive Caught (released : State) (task attempt : Nat) (wasPreconnected sni : Bool) :
    Failure → State → Prop where
  | ended {failure : Failure} (message : String)
      (final : ∀ text, failure = .system text →
        wasPreconnected = false ∨ attempt + 1 = maxAttempts) :
      Caught released task attempt wasPreconnected sni failure
        (released.setPhase task (.failed (.network message)))
  | retried {message : String} (again : wasPreconnected = true)
      (more : attempt + 1 ≠ maxAttempts) :
      Caught released task attempt wasPreconnected sni (.system message)
        (acquire released task (attempt + 1) sni)

theorem caught (poolSize : Nat) (state : State) (task attempt : Nat) (conn : Option Nat)
    (wasPreconnected : Bool) (failure : Failure) (sni : Bool) :
    Caught ((state.setPool (releaseConnection poolSize state.pool conn false)).record task
      (.broke failure)) task attempt wasPreconnected sni failure
      (requestFails poolSize state task attempt conn wasPreconnected failure sni) := by
  unfold requestFails
  cases failure with
  | standard message =>
    refine .ended message ?_
    intro text impossible
    cases impossible
  | system message =>
    simp only
    by_cases last : (!wasPreconnected || decide (attempt + 1 = maxAttempts)) = true
    · rw [if_pos last]
      simp only [Bool.or_eq_true, Bool.not_eq_true', decide_eq_true_eq] at last
      exact .ended message fun _ _ => last
    · rw [if_neg last]
      simp only [Bool.or_eq_true, Bool.not_eq_true', decide_eq_true_eq, not_or,
        Bool.not_eq_false] at last
      exact .retried last.1 last.2

/-- Everything one step can do. -/
inductive Transition (settings : Settings) (state : State) : Label → State → Prop where
  | execute {task : Nat} {sni : Bool} {after : State} (fresh : state.phase task = .notStarted)
      (acquired : Acquired state task 0 after) :
      Transition settings state (.execute task sni) after
  | connectFails {task attempt slot position : Nat} {created : Bool} {stage : Stage}
      {message : String}
      (waiting : state.phase task = .connecting attempt slot position created stage) :
      Transition settings state (.connectStep task (.error message))
        (connectFails state task created (.system message))
  | connectAdvances {task attempt slot position : Nat} {created : Bool} {stage : Stage}
      (later : Stage)
      (waiting : state.phase task = .connecting attempt slot position created stage) :
      Transition settings state (.connectStep task (.ok ()))
        (state.setPhase task (.connecting attempt slot position created later))
  | connectCompletes {task attempt slot position : Nat} {created : Bool}
      (waiting : state.phase task = .connecting attempt slot position created .handshaking) :
      Transition settings state (.connectStep task (.ok ()))
        (connectCompletes state task attempt slot position)
  | writeCompletes {task attempt : Nat} {conn : Option Nat} {reserved : Nat}
      {wasPreconnected sni : Bool}
      (waiting : state.phase task = .writing attempt conn reserved wasPreconnected) :
      Transition settings state (.write task (.ok ()) sni)
        ((state.record task (.wrote conn (buildRequest settings (settings.request task)))).setPhase
          task (.reading attempt conn reserved wasPreconnected))
  | writeFails {task attempt : Nat} {conn : Option Nat} {reserved : Nat}
      {wasPreconnected sni : Bool} {failure : Failure}
      (waiting : state.phase task = .writing attempt conn reserved wasPreconnected) :
      Transition settings state (.write task (.error failure) sni)
        (requestFails settings.poolSize state task attempt conn wasPreconnected failure sni)
  | readCompletes {task attempt : Nat} {conn : Option Nat} {reserved : Nat}
      {wasPreconnected sni : Bool} {raw : RawResponse}
      (waiting : state.phase task = .reading attempt conn reserved wasPreconnected) :
      Transition settings state (.read task (.ok raw) sni)
        (((state.setPool (releaseConnection settings.poolSize state.pool conn
          (resKeepAlive (toResponse raw)))).record task .received).setPhase task
            (.returned (toResponse raw)))
  | readFails {task attempt : Nat} {conn : Option Nat} {reserved : Nat}
      {wasPreconnected sni : Bool} {failure : Failure}
      (waiting : state.phase task = .reading attempt conn reserved wasPreconnected) :
      Transition settings state (.read task (.error failure) sni)
        (requestFails settings.poolSize state task attempt conn wasPreconnected failure sni)

theorem transition_of_step {settings : Settings} {state after : State} {label : Label}
    (taken : (machine settings).step state label = some after) :
    Transition settings state label after := by
  cases label with
  | execute task sni =>
    simp only [machine, step] at taken
    split at taken <;> cases taken
    exact .execute ‹_› (acquired state task 0 sni)
  | connectStep task outcome =>
    simp only [machine, step] at taken
    split at taken <;> cases taken
    · exact .connectFails ‹_›
    · exact .connectAdvances .connecting ‹_›
    · exact .connectAdvances .handshaking ‹_›
    · exact .connectCompletes ‹_›
  | write task outcome sni =>
    simp only [machine, step] at taken
    split at taken <;> cases taken
    · exact .writeCompletes ‹_›
    · exact .writeFails ‹_›
  | read task outcome sni =>
    simp only [machine, step] at taken
    split at taken <;> cases taken
    · exact .readCompletes ‹_›
    · exact .readFails ‹_›

/-- The client with the default pool, placing the same order in every call. -/
def orderClient : Settings where
  poolSize := 4
  host := "api.binance.com"
  apiKey := "key"
  request _ := post "/api/v3/order" "symbol=BTCUSDT" .empty

/-- A call connects. -/
def connect (task : Nat) : List Label :=
  [.connectStep task (.ok ()), .connectStep task (.ok ()), .connectStep task (.ok ())]

end Bintrade.Rest.HttpClient
