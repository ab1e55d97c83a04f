import Bintrade.Rest.OrderRoundTrip
import Bintrade.Rest.RequestWire

/-! A sequence of trading calls from the client to the exchange: the parameters, the signed
request, the text on the connection, and back. -/

namespace Bintrade.Rest

open Bintrade.System Bintrade.System.Http Bintrade.Core Bintrade.Auth Bintrade.Models
  Bintrade.Rest.HttpClient

/-- A call of `new_order` or `cancel_order`, or of the asynchronous method of either. -/
inductive TradingCall (Double : Type) where
  | newOrder (request : NewOrderRequest Double)
  | cancelOrder (request : CancelOrderRequest)

def orderPath : String := "/api/v3/order"

/-- The request that the call hands to the transport. -/
def TradingCall.request {Double : Type} (numerals : Numerals Double) (services : Services)
    (client : Client) : TradingCall Double → Except Exception HttpRequest
  | .newOrder request =>
    signedPostRequest services client orderPath
      (buildNewOrderParams numerals services.layouts.filled request)
  | .cancelOrder request =>
    signedDeleteRequest services client orderPath
      (buildCancelParams services.layouts.filled request)

/-- The methods of the trading client exchange this request. -/
theorem trading_methods {Double : Type} (numerals : Numerals Double) (services : Services)
    (client : Client) :
    let answer (call : TradingCall Double) : Except Exception (Order Double) × Client :=
      let (body, client) := exchange services client (call.request numerals services client)
        (checkedBody services)
      (body >>= readOrder services numerals, client)
    newOrder services numerals client = (answer <| .newOrder ·) ∧
      asyncNewOrder services numerals client = (answer <| .newOrder ·) ∧
      cancelOrder services numerals client = (answer <| .cancelOrder ·) ∧
      asyncCancelOrder services numerals client = (answer <| .cancelOrder ·) :=
  ⟨rfl, rfl, rfl, rfl⟩

def TradingCall.texts {Double : Type} (numerals : Numerals Double) :
    TradingCall Double → TradingCall String
  | .newOrder request => .newOrder (orderTexts numerals request)
  | .cancelOrder request => .cancelOrder request

/-- What the exchange makes of a request for its order endpoint. -/
def readTradingCall (message : RequestMessage) : Option (TradingCall String) :=
  if message.target.toList.takeWhile (· ≠ '?') = orderPath.toList then
    match message.method with
    | "POST" => (readNewOrder (decodeForm message.body.toList)).map .newOrder
    | "DELETE" =>
      (readCancellation
        (decodeForm (message.target.toList.dropWhile (· ≠ '?')).tail)).map .cancelOrder
    | _ => none
  else none

/-- The texts of the call survive decoding, and those that are sent in the target leave it
visible. -/
def TradingCall.Plain {Double : Type} (numerals : Numerals Double) : TradingCall Double → Prop
  | .newOrder request => PlainOrder numerals request
  | .cancelOrder request =>
    PlainCancellation request ∧ Visible request.symbol ∧ ∀ id ∈ request.clientOrderId, Visible id

section Calls

variable {Double : Type} {numerals : Numerals Double} {services : Services}
  {credentials : Credentials} {limits : RateLimits}

theorem isTarget_orderPath : IsTarget orderPath := by decide

theorem orderPath_unsplit : ∀ char ∈ orderPath.toList, decide (char ≠ '?') = true :=
  List.all_eq_true.mp (by decide)

theorem isTarget_query {query : String} (visible : Visible query) :
    IsTarget (orderPath ++ "?" ++ query) := by
  refine ⟨by simp, ?_⟩
  intro char member
  simp only [String.toList_append, List.mem_append] at member
  rcases member with (path | mark) | inside
  · exact isTarget_orderPath.2 char path
  · rw [List.mem_singleton.mp mark]
    decide
  · exact visible char inside

theorem readTradingCall_post {message : RequestMessage} (method : message.method = "POST")
    (target : message.target = orderPath) :
    readTradingCall message = (readNewOrder (decodeForm message.body.toList)).map .newOrder := by
  have whole : orderPath.toList.takeWhile (· ≠ '?') = orderPath.toList :=
    List.takeWhile_eq_self_iff.mpr orderPath_unsplit
  rw [readTradingCall, target, if_pos whole, method]
  rfl

theorem readTradingCall_delete {message : RequestMessage} {query : String}
    (method : message.method = "DELETE") (target : message.target = orderPath ++ "?" ++ query) :
    readTradingCall message =
      (readCancellation (decodeForm query.toList)).map .cancelOrder := by
  have split : message.target.toList = orderPath.toList ++ '?' :: query.toList := by
    simp [target]
  have path : message.target.toList.takeWhile (· ≠ '?') = orderPath.toList := by
    rw [split, List.takeWhile_append_of_pos orderPath_unsplit,
      List.takeWhile_cons_of_neg (by simp), List.append_nil]
  have rest : (message.target.toList.dropWhile (· ≠ '?')).tail = query.toList := by
    rw [split, List.dropWhile_append_of_pos orderPath_unsplit,
      List.dropWhile_cons_of_neg (by simp), List.tail_cons]
  rw [readTradingCall, if_pos path, rest, method]
  rfl

/-- What one call needs of its request: the server reads it, and reads the call in it. -/
structure ReadAs (settings : Settings) (call : TradingCall String) (sent : HttpRequest) :
    Prop where
  target : IsTarget sent.target
  headers : sent.extraHeaders = .empty
  understood : readTradingCall (buildRequest settings sent).onWire = some call

theorem ReadAs.wellFormed {settings : Settings} {call : TradingCall String} {sent : HttpRequest}
    (readAs : ReadAs settings call sent) (host : IsFieldValue settings.host)
    (key : IsFieldValue settings.apiKey) : (buildRequest settings sent).onWire.WellFormed := by
  refine (wellFormed_buildRequest_iff host key ?_).mpr readAs.target
  rw [readAs.headers]
  nofun

theorem newOrder_readAs (settings : Settings) {request : NewOrderRequest Double}
    (plain : PlainOrder numerals request) :
    ∃ sent, (TradingCall.newOrder request).request numerals services ⟨some credentials, limits⟩ =
        .ok sent ∧ ReadAs settings (.newOrder (orderTexts numerals request)) sent := by
  have reads : OrderTexts (Call.signed .post).Reads numerals request :=
    OrderTexts.imp (fun _ plain => ⟨plain, nofun⟩) plain
  obtain ⟨sent, payload, built, found, shown⟩ := valueOf_faithful isTarget_orderPath
    ((faithful_newOrder_iff isTarget_orderPath (.signed .post) request).mpr reads)
  refine ⟨sent, built, ?_⟩
  have read := readNewOrder_of_valueOf shown
  cases built
  cases found
  exact ⟨isTarget_orderPath, rfl, (readTradingCall_post rfl rfl).trans
    (congrArg (Option.map TradingCall.newOrder) read)⟩

theorem cancelOrder_readAs (settings : Settings) {request : CancelOrderRequest}
    (plain : PlainCancellation request) (visible : CancellationTexts Visible request) :
    ∃ sent, (TradingCall.cancelOrder request).request numerals services
        ⟨some credentials, limits⟩ = .ok sent ∧ ReadAs settings (.cancelOrder request) sent := by
  let params := buildCancelParams services.layouts.filled request
  have reads : CancellationTexts (Call.signed .delete).Reads request :=
    ⟨⟨plain.1, fun _ => visible.1⟩, fun id own => ⟨plain.2 id own, fun _ => visible.2 id own⟩⟩
  have faithful : (Call.signed .delete).Faithful services credentials limits orderPath params :=
    (faithful_cancellation_iff isTarget_orderPath (.signed .delete) request).mpr reads
  have whole := ((faithful_iff_flatMap isTarget_orderPath (.signed .delete)).mp faithful).1
  have shownText := (received_eq_iff _ _).mp whole rfl
  obtain ⟨sent, payload, built, found, shown⟩ := valueOf_faithful isTarget_orderPath faithful
  obtain ⟨same, again, transmitted⟩ :=
    exists_request .delete services credentials limits orderPath params
  obtain rfl : sent = same := Except.ok.inj (built.symm.trans again)
  have carried := (carries_signed isTarget_orderPath again transmitted).whole whole
  obtain rfl := Option.some.inj (found.symm.trans carried)
  have read := readCancellation_of_valueOf shown
  refine ⟨sent, built, ?_⟩
  cases built
  obtain ⟨target, -⟩ := transmitted
  refine ⟨target ▸ isTarget_query shownText, rfl, ?_⟩
  exact (readTradingCall_delete rfl target).trans
    (congrArg (Option.map TradingCall.cancelOrder) read)

theorem call_readAs (settings : Settings) {call : TradingCall Double}
    (plain : call.Plain numerals) :
    ∃ sent, call.request numerals services ⟨some credentials, limits⟩ = .ok sent ∧
      ReadAs settings (call.texts numerals) sent := by
  cases call with
  | newOrder request => exact newOrder_readAs settings plain
  | cancelOrder request => exact cancelOrder_readAs settings plain.1 plain.2

end Calls

/-- A run of calls: their requests, each built with the clock, the libraries and the map
orders of its own moment. -/
def sessionRequests {Double : Type} (numerals : Numerals Double) (client : Client) :
    List (Services × TradingCall Double) → Except Exception (List HttpRequest)
  | [] => .ok []
  | (services, call) :: rest => do
    let sent ← call.request numerals services client
    let others ← sessionRequests numerals client rest
    pure (sent :: others)

/-- What the exchange understands of a connection. -/
def readSession (text : List Char) : Option (List (Option (TradingCall String))) :=
  (readConnection text).map fun messages => messages.map readTradingCall

/-- The exchange, reading a connection from its first byte, understands exactly the orders
and cancellations that the client was asked to send on it, in their order, with their
amounts as they were written, if host and API key are values of header fields. -/
theorem trading_session_read_back {Double : Type} (numerals : Numerals Double)
    (settings : Settings) (credentials : Credentials) (limits : RateLimits)
    (calls : List (Services × TradingCall Double)) (host : IsFieldValue settings.host)
    (key : IsFieldValue settings.apiKey) (plain : ∀ call ∈ calls, call.2.Plain numerals) :
    ∃ sent, sessionRequests numerals ⟨some credentials, limits⟩ calls = .ok sent ∧
      readSession ((sent.map fun request => (buildRequest settings request).onWire).flatMap
        RequestMessage.render) = some (calls.map fun call => some (call.2.texts numerals)) := by
  have each : ∃ sent, sessionRequests numerals ⟨some credentials, limits⟩ calls = .ok sent ∧
      (∀ request ∈ sent, (buildRequest settings request).onWire.WellFormed) ∧
      sent.map (fun request => readTradingCall (buildRequest settings request).onWire) =
        calls.map fun call => some (call.2.texts numerals) := by
    induction calls with
    | nil => exact ⟨[], rfl, nofun, rfl⟩
    | cons call rest ih =>
      obtain ⟨sent, built, readAs⟩ := call_readAs settings (plain call List.mem_cons_self)
      obtain ⟨others, further, wellFormed, understood⟩ :=
        ih fun other member => plain other (List.mem_cons_of_mem _ member)
      refine ⟨sent :: others, ?_, ?_, ?_⟩
      · rw [sessionRequests, built, further]
        rfl
      · exact List.forall_mem_cons.mpr ⟨readAs.wellFormed host key, wellFormed⟩
      · rw [List.map_cons, List.map_cons, readAs.understood, understood]
  obtain ⟨sent, built, wellFormed, understood⟩ := each
  refine ⟨sent, built, ?_⟩
  rw [readSession, (readConnection_render_iff _).mpr (List.forall_mem_map.mpr wellFormed),
    Option.map_some, List.map_map]
  exact congrArg some understood

/-- An order and, a moment later, its cancellation by the identifier of the client. -/
theorem trading_session_read_back_canceled :
    let numerals : Numerals Nat := ⟨fun _ => .error .invalidArgument, toString⟩
    let settings : Settings := { liveSettings with apiKey := "key" }
    let placed := offline ⟨.reverse, .reverse, .reverse, .reverse⟩ 1
    let canceled := offline ⟨.keep, .reverse, .keep, .reverse⟩ 2
    ∃ sent, sessionRequests numerals ⟨some ⟨some ("key", "secret")⟩, ⟨0, 0, 0⟩⟩
        [(placed, .newOrder marketOrder),
          (canceled, .cancelOrder ⟨"BTCUSDT", none, some "my-order"⟩)] = .ok sent ∧
      readSession ((sent.map fun request => (buildRequest settings request).onWire).flatMap
          RequestMessage.render) =
        some [some (.newOrder ⟨"BTCUSDT", .sell, .market, .gtc, "2", none, some "my-order", none⟩),
          some (.cancelOrder ⟨"BTCUSDT", none, some "my-order"⟩)] := by
  refine trading_session_read_back _ _ _ _ _ (by decide) (by decide) ?_
  simp only [List.forall_mem_cons]
  refine ⟨⟨by decide, ?_, by decide, nofun, nofun⟩, ⟨⟨by decide, ?_⟩, by decide, ?_⟩, nofun⟩
  all_goals
    intro id same
    cases same
    decide

end Bintrade.Rest
