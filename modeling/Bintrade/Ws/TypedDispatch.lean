import Bintrade.Ws.Indexing
import Bintrade.Ws.TradeViews

/-! The two ways a message reaches a callback: `MarketStream` and `UserStream` call a
`std::function`, the typed streams call a handler that tests its `std::function` first. What
a callback does before it throws stays done. -/

namespace Bintrade.Ws

open Bintrade.System Bintrade.Core Bintrade.Models Bintrade.Rest

/-- The exceptions a dispatch can meet. -/
inductive Thrown where
  | parsing (error : Exception)
  | badFunctionCall
  | callback (what : String)

/-- What callbacks change, and the calls made so far. -/
structure Run (World Event : Type) where
  world : World
  calls : List Event

abbrev Dispatch (World Event : Type) := ExceptT (Fault Thrown) (StateM (Run World Event))

/-- A callback may change anything and may throw. -/
abbrev Callback (World Model : Type) := World → Model → World × Except String Unit

section Calls

variable {World Event Model : Type}

/-- A call of a parser inside a dispatch. -/
def parsed {α : Type} (outcome : Except (Fault Exception) α) : Dispatch World Event α :=
  ExceptT.mk (pure (outcome.mapError (Fault.map .parsing)))

def invoke (event : Model → Event) (callback : Callback World Model) (model : Model) :
    Dispatch World Event Unit :=
  ExceptT.mk fun run =>
    let (world, outcome) := callback run.world model
    (outcome.mapError fun what => .thrown (.callback what), ⟨world, run.calls ++ [event model]⟩)

/-- `std::function::operator()` throws if there is no function. -/
def callFunction (event : Model → Event) (function : Option (Callback World Model))
    (model : Model) : Dispatch World Event Unit :=
  match function with
  | some callback => invoke event callback model
  | none => throw (.thrown .badFunctionCall)

/-- A method of `FunctionalMarketHandler` or `FunctionalUserHandler`. -/
def handle (event : Model → Event) (function : Option (Callback World Model)) (model : Model) :
    Dispatch World Event Unit :=
  if function.isSome then callFunction event function model else pure ()

/-- `catch (const std::exception&)`. -/
def catchException (body : Dispatch World Event Unit) : Dispatch World Event Unit :=
  ExceptT.mk fun run =>
    match body run with
    | (.error (.thrown _), after) => (.ok (), after)
    | result => result

/-- The message callback of a subscription: `MarketStream` passes `callFunction`, and
`TypedMarketStream` passes `handle`. -/
def onMessage (parse : JsonParser) (kind : String) (read : Json → Except (Fault Exception) Model)
    (receive : Model → Dispatch World Event Unit) (message : String) :
    Dispatch World Event Unit :=
  catchException do
    let json ← parsed (throws (throwJson (parse message)))
    if (← parsed (throws (text json "e" ""))) = kind then
      receive (← parsed (read json))

/-- The messages of a connection, one after the other, as long as none throws. -/
def deliver (dispatch : String → Dispatch World Event Unit) :
    List String → Dispatch World Event Unit
  | [] => pure ()
  | message :: rest => do
    dispatch message
    deliver dispatch rest

/-- A dispatch that returns is followed by the messages after it. -/
theorem deliver_cons {dispatch : String → Dispatch World Event Unit} {message : String}
    {rest : List String} {start run : Run World Event}
    (returned : dispatch message start = (.ok (), run)) :
    deliver dispatch (message :: rest) start = deliver dispatch rest run := by
  simp only [deliver, bind, ExceptT.bind, ExceptT.mk, StateT.bind, returned]
  rfl

end Calls

inductive MarketEvent (Double : Type) where
  | trade (trade : Trade Double)
  | kline (kline : Kline Double)
  | ticker (ticker : Ticker Double)
  | orderBook (book : OrderBook Double)

structure FunctionalMarketHandler (World Double : Type) where
  onTradeFn : Option (Callback World (Trade Double))
  onKlineFn : Option (Callback World (Kline Double))
  onTickerFn : Option (Callback World (Ticker Double))
  onOrderBookFn : Option (Callback World (OrderBook Double))

structure FunctionalUserHandler (World Double : Type) where
  onOrderUpdateFn : Option (Callback World (Order Double))
  onAccountUpdateFn : Option (Callback World (AccountInfo Double))

section Streams

variable {World Double : Type} (numerals : Numerals Double) (parse : JsonParser)

namespace MarketStream

def subscribeTrades [Mul Double] (callback : Option (Callback World (Trade Double))) :
    String → Dispatch World (MarketEvent Double) Unit :=
  onMessage parse "trade" (fun json => throws (parseTradeStream numerals json))
    (callFunction .trade callback)

def subscribeKlines (callback : Option (Callback World (Kline Double))) :
    String → Dispatch World (MarketEvent Double) Unit :=
  onMessage parse "kline" (fun json => throws (parseKlineStream numerals json))
    (callFunction .kline callback)

def subscribeTicker (callback : Option (Callback World (Ticker Double))) :
    String → Dispatch World (MarketEvent Double) Unit :=
  onMessage parse "24hrTicker" (fun json => throws (parseTickerStream numerals json))
    (callFunction .ticker callback)

def subscribeDepth (callback : Option (Callback World (OrderBook Double))) :
    String → Dispatch World (MarketEvent Double) Unit :=
  onMessage parse "depthUpdate" (parseDepthStream numerals) (callFunction .orderBook callback)

end MarketStream

namespace TypedMarketStream

variable (handler : FunctionalMarketHandler World Double)

def subscribeTrades [Mul Double] : String → Dispatch World (MarketEvent Double) Unit :=
  onMessage parse "trade" (fun json => throws (parseTradeStream numerals json))
    (handle .trade handler.onTradeFn)

def subscribeKlines : String → Dispatch World (MarketEvent Double) Unit :=
  onMessage parse "kline" (fun json => throws (parseKlineStream numerals json))
    (handle .kline handler.onKlineFn)

def subscribeTicker : String → Dispatch World (MarketEvent Double) Unit :=
  onMessage parse "24hrTicker" (fun json => throws (parseTickerStream numerals json))
    (handle .ticker handler.onTickerFn)

def subscribeDepth : String → Dispatch World (MarketEvent Double) Unit :=
  onMessage parse "depthUpdate" (parseDepthStream numerals)
    (handle .orderBook handler.onOrderBookFn)

end TypedMarketStream

/-- `UserStream::do_dispatch` parses an event only if its callback is set. -/
def UserStream.doDispatch (orderCallback : Option (Callback World (Order Double)))
    (accountCallback : Option (Callback World (AccountInfo Double))) (message : String) :
    Dispatch World (UserEvent Double) Unit :=
  catchException do
    let json ← parsed (throws (throwJson (parse message)))
    let kind ← parsed (throws (text json "e" ""))
    if kind = "executionReport" then
      if orderCallback.isSome then
        callFunction .order orderCallback (← parsed (throws (parseOrderUpdate numerals json)))
    else if kind = "outboundAccountPosition" then
      if accountCallback.isSome then
        callFunction .account accountCallback (← parsed (parseAccountUpdate numerals json))

/-- `TypedUserStream::do_dispatch` parses an event before the handler looks at its callback. -/
def TypedUserStream.doDispatch (handler : FunctionalUserHandler World Double) (message : String) :
    Dispatch World (UserEvent Double) Unit :=
  catchException do
    let json ← parsed (throws (throwJson (parse message)))
    let kind ← parsed (throws (text json "e" ""))
    if kind = "executionReport" then
      handle .order handler.onOrderUpdateFn (← parsed (throws (parseOrderUpdate numerals json)))
    else if kind = "outboundAccountPosition" then
      handle .account handler.onAccountUpdateFn (← parsed (parseAccountUpdate numerals json))

end Streams

/-- What a callback leaves, if it is set. -/
def effect {World Event Model : Type} (event : Model → Event)
    (function : Option (Callback World Model)) (model : Model) (run : Run World Event) :
    Run World Event :=
  match function with
  | some callback => ⟨(callback run.world model).1, run.calls ++ [event model]⟩
  | none => run

def userEffect {World Double : Type} (handler : FunctionalUserHandler World Double) :
    UserEvent Double → Run World (UserEvent Double) → Run World (UserEvent Double)
  | .order order => effect .order handler.onOrderUpdateFn order
  | .account account => effect .account handler.onAccountUpdateFn account

/-- What a dispatch amounts to: the model, if there is one, has its effect, and no exception
leaves. -/
def passed {World Event Model : Type} (effect : Model → Run World Event → Run World Event)
    (outcome : Except (Fault Exception) (Option Model)) : Dispatch World Event Unit :=
  ExceptT.mk fun run =>
    match outcome with
    | .ok (some model) => (.ok (), effect model run)
    | .ok none => (.ok (), run)
    | .error _ => (.error .undefined, run)

section Meaning

variable {World Event Model : Type} {event : Model → Event}
  {function : Option (Callback World Model)}

theorem catchException_invoke (callback : Callback World Model) (model : Model) :
    catchException (invoke event callback model) =
      passed (effect event (some callback)) (.ok (some model)) := by
  funext run
  simp only [catchException, invoke, passed, ExceptT.mk]
  cases (callback run.world model).2 with
  | ok _ => rfl
  | error what => rfl

theorem catchException_callFunction (model : Model) :
    catchException (callFunction event function model) =
      passed (effect event function) (.ok (some model)) := by
  cases function with
  | none => rfl
  | some callback => exact catchException_invoke callback model

theorem catchException_handle (model : Model) :
    catchException (handle event function model) =
      passed (effect event function) (.ok (some model)) := by
  cases function with
  | none => rfl
  | some callback => exact catchException_invoke callback model

/-- A parser inside a dispatch, and what follows if it returns. -/
theorem catchException_parsed_bind {α : Type} {outcome : Except (Fault Exception) α}
    {next : α → Dispatch World Event Unit} {model : α → Except (Fault Exception) (Option Model)}
    {effect : Model → Run World Event → Run World Event}
    (following : ∀ value,
      catchException (next value) = passed effect (discardThrown (model value))) :
    catchException (parsed outcome >>= next) =
      passed effect (discardThrown (outcome >>= model)) := by
  cases outcome with
  | ok value => exact following value
  | error fault =>
    cases fault with
    | thrown error => rfl
    | undefined => rfl

/-- Both kinds of stream do with a message what `dispatchEvent` says. -/
theorem onMessage_eq_passed {parse : JsonParser} {kind : String}
    {read : Json → Except (Fault Exception) Model} {receive : Model → Dispatch World Event Unit}
    (received : ∀ model,
      catchException (receive model) = passed (effect event function) (.ok (some model)))
    (message : String) :
    onMessage parse kind read receive message =
      passed (effect event function) (dispatchEvent parse kind read message) := by
  apply catchException_parsed_bind
  intro json
  apply catchException_parsed_bind
  intro found
  by_cases same : found = kind
  · rw [if_pos same, if_pos same, map_eq_pure_bind]
    apply catchException_parsed_bind
    intro model
    exact received model
  · rw [if_neg same, if_neg same]
    rfl

section Branches

variable {Kind : Type} {whole : Kind → Run World Event → Run World Event} {tag : Model → Kind}
  {outcome : Except (Fault Exception) Model}

/-- One kind of user event, with the test of its callback before the parser. -/
theorem catchException_callFunction_bind
    (agrees : ∀ model, whole (tag model) = effect event function model) :
    catchException (if function.isSome = true then
        parsed outcome >>= fun model => callFunction event function model else pure ()) =
      passed whole (discardThrown (if function.isSome = true then
        (fun model => some (tag model)) <$> outcome else pure none)) := by
  split
  · rw [map_eq_pure_bind]
    apply catchException_parsed_bind
    intro model
    rw [catchException_callFunction]
    simp only [passed, ← agrees]
    rfl
  · rfl

/-- One kind of user event, with the parser before the test: where the parser is always
defined, it makes no difference without a callback. -/
theorem catchException_handle_bind (defined : Defined outcome)
    (agrees : ∀ model, whole (tag model) = effect event function model) :
    catchException (parsed outcome >>= fun model => handle event function model) =
      passed whole (discardThrown (if function.isSome = true then
        (fun model => some (tag model)) <$> outcome else pure none)) := by
  cases function with
  | none =>
    cases outcome with
    | ok model => rfl
    | error fault =>
      cases fault with
      | thrown error => rfl
      | undefined => exact absurd rfl defined
  | some callback =>
    rw [Option.isSome_some, if_pos rfl, map_eq_pure_bind]
    apply catchException_parsed_bind
    intro model
    rw [catchException_handle]
    simp only [passed, ← agrees]
    rfl

end Branches

end Meaning

section Users

variable {World Double : Type} {numerals : Numerals Double} {parse : JsonParser}
  (handler : FunctionalUserHandler World Double) (message : String)

theorem doDispatch_eq_passed :
    UserStream.doDispatch numerals parse handler.onOrderUpdateFn handler.onAccountUpdateFn message =
      passed (userEffect handler) (dispatchUser numerals parse handler.onOrderUpdateFn.isSome
        handler.onAccountUpdateFn.isSome message) := by
  apply catchException_parsed_bind
  intro json
  apply catchException_parsed_bind
  intro kind
  by_cases order : kind = "executionReport"
  · rw [if_pos order, if_pos order]
    exact catchException_callFunction_bind fun _ => rfl
  · rw [if_neg order, if_neg order]
    by_cases account : kind = "outboundAccountPosition"
    · rw [if_pos account, if_pos account]
      exact catchException_callFunction_bind fun _ => rfl
    · rw [if_neg account, if_neg account]
      rfl

theorem typed_doDispatch_eq_passed :
    TypedUserStream.doDispatch numerals parse handler message =
      passed (userEffect handler) (dispatchUser numerals parse handler.onOrderUpdateFn.isSome
        handler.onAccountUpdateFn.isSome message) := by
  apply catchException_parsed_bind
  intro json
  apply catchException_parsed_bind
  intro kind
  by_cases order : kind = "executionReport"
  · rw [if_pos order, if_pos order]
    exact catchException_handle_bind (defined_throws _) fun _ => rfl
  · rw [if_neg order, if_neg order]
    by_cases account : kind = "outboundAccountPosition"
    · rw [if_pos account, if_pos account]
      exact catchException_handle_bind defined_parseAccountUpdate fun _ => rfl
    · rw [if_neg account, if_neg account]
      rfl

end Users

/-- Two ways to dispatch the messages of a connection: both make the same calls, and no
exception leaves. -/
structure SameCalls {World Event : Type} (functional typed : String → Dispatch World Event Unit)
    (messages : List String) : Prop where
  same : deliver functional messages = deliver typed messages
  returns : ∀ run, (deliver functional messages run).1 = .ok ()

section Sequences

variable {World Event Model : Type} {messages : List String}

/-- A message that is dispatched without an exception leaves the later ones to come. -/
theorem deliver_returns {dispatch : String → Dispatch World Event Unit}
    (each : ∀ message ∈ messages, ∀ run, (dispatch message run).1 = .ok ())
    (run : Run World Event) : (deliver dispatch messages run).1 = .ok () := by
  induction messages generalizing run with
  | nil => rfl
  | cons message rest ih =>
    have first := each message List.mem_cons_self run
    have later := ih fun other member => each other (List.mem_cons_of_mem message member)
    cases result : dispatch message run with
    | mk outcome after =>
      rw [result] at first
      obtain rfl : outcome = .ok () := first
      have continued : deliver dispatch (message :: rest) run = deliver dispatch rest after := by
        simp only [deliver, bind, ExceptT.bind, ExceptT.mk, StateT.bind, result]
        rfl
      rw [continued]
      exact later after

theorem passed_returns {effect : Model → Run World Event → Run World Event}
    {outcome : Except (Fault Exception) (Option Model)}
    (returned : ∃ passed, (fun _ => ()) <$> outcome = .ok passed) (run : Run World Event) :
    (passed effect outcome run).1 = .ok () := by
  obtain ⟨done, returned⟩ := returned
  cases outcome with
  | ok found => cases found <;> rfl
  | error fault => cases returned

theorem sameCalls_onMessage {parse : JsonParser} {kind : String}
    {read : Json → Except (Fault Exception) Model} {event : Model → Event}
    {function : Option (Callback World Model)}
    (defined : ∀ message ∈ messages, ∀ json, parse message = .ok json → Defined (read json)) :
    SameCalls (onMessage parse kind read (callFunction event function))
      (onMessage parse kind read (handle event function)) messages where
  same := by
    congr 1
    funext message
    rw [onMessage_eq_passed catchException_callFunction,
      onMessage_eq_passed catchException_handle]
  returns := by
    apply deliver_returns
    intro message member run
    rw [onMessage_eq_passed catchException_callFunction]
    apply passed_returns
    rw [returns_dispatchEvent]
    intro json parsed _
    exact defined message member json parsed

end Sequences

/-- For any messages and callbacks, the typed streams make the calls that the streams with
`std::function` make, and no exception leaves any of them. Only the parser of a depth update
must be defined on its messages. -/
theorem typed_dispatch_same_calls {World Double : Type} [Mul Double] (numerals : Numerals Double)
    (parse : JsonParser) (market : FunctionalMarketHandler World Double)
    (user : FunctionalUserHandler World Double) (messages : List String) :
    SameCalls (MarketStream.subscribeTrades numerals parse market.onTradeFn)
        (TypedMarketStream.subscribeTrades numerals parse market) messages ∧
      SameCalls (MarketStream.subscribeKlines numerals parse market.onKlineFn)
        (TypedMarketStream.subscribeKlines numerals parse market) messages ∧
      SameCalls (MarketStream.subscribeTicker numerals parse market.onTickerFn)
        (TypedMarketStream.subscribeTicker numerals parse market) messages ∧
      ((∀ message ∈ messages, ∀ json, parse message = .ok json →
          Defined (parseDepthStream numerals json)) →
        SameCalls (MarketStream.subscribeDepth numerals parse market.onOrderBookFn)
          (TypedMarketStream.subscribeDepth numerals parse market) messages) ∧
      SameCalls (UserStream.doDispatch numerals parse user.onOrderUpdateFn user.onAccountUpdateFn)
        (TypedUserStream.doDispatch numerals parse user) messages := by
  refine ⟨?_, ?_, ?_, ?_, ?_⟩
  · exact sameCalls_onMessage fun _ _ _ _ => defined_throws _
  · exact sameCalls_onMessage fun _ _ _ _ => defined_throws _
  · exact sameCalls_onMessage fun _ _ _ _ => defined_throws _
  · exact sameCalls_onMessage
  · constructor
    · congr 1
      funext message
      rw [doDispatch_eq_passed, typed_doDispatch_eq_passed]
    · apply deliver_returns
      intro message _ run
      rw [doDispatch_eq_passed]
      exact passed_returns (returns_dispatchUser _ _ _) run

/-- A parser that knows one message. -/
def oneUpdate : JsonParser := fun message =>
  if message = "depth" then .ok (.object [("e", .string "depthUpdate")]) else .error .parseError

/-- Counts its calls, and throws each time. -/
def counting {Model : Type} : Callback Nat Model := fun count _ => (count + 1, .error "refused")

/-- A callback that throws is called for both updates. -/
theorem throwing_callback_called_again :
    SameCalls (MarketStream.subscribeDepth fewNumbers oneUpdate (some counting))
        (TypedMarketStream.subscribeDepth fewNumbers oneUpdate ⟨none, none, none, some counting⟩)
        ["depth", "noise", "depth"] ∧
      (deliver (TypedMarketStream.subscribeDepth fewNumbers oneUpdate
        ⟨none, none, none, some counting⟩) ["depth", "noise", "depth"] ⟨0, []⟩).2.world = 2 := by
  refine ⟨?_, rfl⟩
  refine (typed_dispatch_same_calls fewNumbers oneUpdate ⟨none, none, none, some counting⟩
    ⟨none, none⟩ ["depth", "noise", "depth"]).2.2.2.1 ?_
  intro message _ json parsed
  unfold oneUpdate at parsed
  split at parsed
  · cases parsed
    exact defined_pure _
  · cases parsed

end Bintrade.Ws
