import Bintrade.Rest.DataMethods

/-! Which responses with an error status a method returns as data. The status is looked at
only together with the body, and the body is then read as if the request had succeeded. -/

namespace Bintrade.Rest

open Bintrade.System Bintrade.Core Bintrade.Auth Bintrade.Models

variable {α : Type} {services : Services} {credentials : Credentials} {limits : RateLimits}
  {path : String} {params : Params} {response : HttpResponse}

/-- A call with credentials comes to its response. -/
theorem send_answered (answered : ∀ request, services.execute request = .ok response)
    (call : Call) :
    (call.send services ⟨some credentials, limits⟩ path params).1 =
      checkedBody services response := by
  have exchanged {client : Client} {request : Except Exception HttpRequest} {built : HttpRequest}
      (made : request = .ok built) :
      (exchange services client request (checkedBody services)).1 =
        checkedBody services response := by
    rw [made, exchange]
    simp only [bind, Except.bind, answered]
  cases call with
  | publicGet => exact exchanged rfl
  | asyncPublicGet => exact exchanged rfl
  | signed method => cases method <;> exact exchanged rfl

theorem checkedBody_eq_ok {body : String} (failed : 400 ≤ response.statusCode) :
    checkedBody services response = .ok body ↔
      response.body = body ∧ body.isEmpty = false ∧ ∃ json, services.parse body = .ok json ∧
        ((json.member? "code").isNone = true ∨ (json.member? "msg").isNone = true) := by
  unfold checkedBody
  simp only [if_pos failed, bind_eq_ok]
  constructor
  · rintro ⟨json, parsed, same⟩
    cases same
    exact ⟨rfl, (parseResponse_isOk failed).mp ⟨json, parsed⟩⟩
  · rintro ⟨rfl, accepted⟩
    obtain ⟨json, parsed⟩ := (parseResponse_isOk failed).mpr accepted
    exact ⟨json, parsed, rfl⟩

theorem parseResponse_success {body : String} (filled : body.isEmpty = false) :
    parseResponse services.parse 200 body = throwJson (services.parse body) := by
  unfold parseResponse
  rw [filled, if_neg (by decide)]
  cases services.parse body <;> rfl

/-- The bodies that the check of an error status lets through, and what they parse to. -/
def Unreported (services : Services) (body : String) (json : Json) : Prop :=
  body.isEmpty = false ∧ services.parse body = .ok json ∧
    ((json.member? "code").isNone = true ∨ (json.member? "msg").isNone = true)

section Fetch

variable {client : Client} {call : Call} {read : Json → Except (Fault Exception) α} {json : Json}

/-- A method reads the body of an error that it does not recognise. -/
theorem fetch_unreported (failed : 400 ≤ response.statusCode)
    (sent : (call.send services client path params).1 = checkedBody services response)
    (unreported : Unreported services response.body json) :
    (fetch services client call path params read).1 = read json := by
  obtain ⟨filled, parsed, silent⟩ := unreported
  have passed : checkedBody services response = .ok response.body :=
    (checkedBody_eq_ok failed).mpr ⟨rfl, filled, json, parsed, silent⟩
  have again : parseResponse services.parse 200 response.body = .ok json := by
    rw [parseResponse_success filled, parsed]
    rfl
  simp only [fetch, sent, passed]
  show (throws (parseResponse services.parse 200 response.body) >>= read) = read json
  rw [again]
  rfl

theorem fetch_eq_ok {value : α} (failed : 400 ≤ response.statusCode)
    (sent : (call.send services client path params).1 = checkedBody services response) :
    (fetch services client call path params read).1 = .ok value ↔
      ∃ json, Unreported services response.body json ∧ read json = .ok value := by
  constructor
  · intro returned
    have opened := returned
    simp only [fetch, sent, bind_eq_ok, throws_eq_ok, checkedBody_eq_ok failed] at opened
    obtain ⟨body, ⟨rfl, filled, json, parsed, silent⟩, -⟩ := opened
    have unreported : Unreported services response.body json := ⟨filled, parsed, silent⟩
    exact ⟨json, unreported, (fetch_unreported failed sent unreported).symm.trans returned⟩
  · rintro ⟨json, unreported, returned⟩
    exact (fetch_unreported failed sent unreported).trans returned

end Fetch

section Orders

variable {Double : Type} {numerals : Numerals Double}

/-- What a method that returns an order does with the body of an unreported error. -/
def ReadAsOrder (services : Services) (numerals : Numerals Double) (body : String)
    (result : Except Exception (Order Double)) : Prop :=
  ∀ order, result = .ok order ↔
    ∃ json, Unreported services body json ∧ parseOrder numerals json = .ok order

/-- The methods that drop the body still throw what its check does. -/
theorem dropped_eq_ok {body : Except Exception String}
    (failed : 400 ≤ response.statusCode) (answered : body = checkedBody services response) :
    ((fun _ => ()) <$> body) = .ok () ↔ ∃ json, Unreported services response.body json := by
  have passes : ((fun _ => ()) <$> body) = .ok () ↔ ∃ text, body = .ok text := by
    cases body <;> simp [Functor.map, Except.map]
  rw [passes, answered]
  simp only [checkedBody_eq_ok failed]
  constructor
  · rintro ⟨text, rfl, filled, json, parsed, silent⟩
    exact ⟨json, filled, parsed, silent⟩
  · rintro ⟨json, filled, parsed, silent⟩
    exact ⟨_, rfl, filled, json, parsed, silent⟩

/-- Placing and cancelling read the body of the response as the other methods do. -/
theorem readAsOrder_of_answered {body : Except Exception String}
    (failed : 400 ≤ response.statusCode) (answered : body = checkedBody services response) :
    ReadAsOrder services numerals response.body (body >>= readOrder services numerals) := by
  intro order
  rw [answered, bind_eq_ok]
  constructor
  · rintro ⟨text, passed, read⟩
    obtain ⟨rfl, filled, json, parsed, silent⟩ := (checkedBody_eq_ok failed).mp passed
    rw [readOrder, parseResponse_success filled, parsed] at read
    exact ⟨json, ⟨filled, parsed, silent⟩, read⟩
  · rintro ⟨json, ⟨filled, parsed, silent⟩, read⟩
    refine ⟨response.body, (checkedBody_eq_ok failed).mpr ⟨rfl, filled, json, parsed, silent⟩, ?_⟩
    rw [readOrder, parseResponse_success filled, parsed]
    exact read

end Orders

/-- The order that is read from an object without members. -/
def defaultOrder {Double : Type} (zero : Double) : Order Double where
  symbol := ""
  orderId := 0
  clientOrderId := ""
  price := zero
  origQty := zero
  executedQty := zero
  cummulativeQuoteQty := zero
  status := .new
  timeInForce := .gtc
  type := .limit
  side := .buy
  time := 0
  updateTime := 0

section Empty

variable {Double : Type} {numerals : Numerals Double} {zero : Double}

theorem parseOrder_empty (zeroText : numerals.stod "0" = .ok zero) :
    parseOrder numerals (.object []) = .ok (defaultOrder zero) := by
  have none_amount (key : String) : amount numerals (.object []) key = .ok zero := by
    simp [amount, text, stod, Json.value, Json.member?, zeroText, throwJson, throwNumeral,
      Except.mapError, bind, Except.bind]
  simp only [parseOrder, none_amount]
  rfl

end Empty

/-- A method returns a response with an error status as data exactly if the body is JSON
without `code` or without `msg` that its parser accepts. The first part is about the methods
that are instances of `fetch`; placing, testing and cancelling an order have their own. An empty
object is read as a new order, as the absence of open orders and of trades, and with undefined
behaviour as an order book or an account. -/
theorem errors_returned_as_data_iff {Double : Type} [Zero Double] [LT Double] [DecidableLT Double]
    (numerals : Numerals Double) (credentials : Credentials) (limits : RateLimits)
    (answered : ∀ request, services.execute request = .ok response)
    (failed : 400 ≤ response.statusCode) :
    (∀ (α : Type) (call : Call) (path : String) (params : Params)
        (read : Json → Except (Fault Exception) α) (value : α),
      (fetch services ⟨some credentials, limits⟩ call path params read).1 = .ok value ↔
        ∃ json, Unreported services response.body json ∧ read json = .ok value) ∧
    (∀ request,
      ReadAsOrder services numerals response.body
          (newOrder services numerals ⟨some credentials, limits⟩ request).1 ∧
        ReadAsOrder services numerals response.body
          (asyncNewOrder services numerals ⟨some credentials, limits⟩ request).1 ∧
        ((TradingClient.testNewOrder services numerals ⟨some credentials, limits⟩ request).1 =
          .ok () ↔ ∃ json, Unreported services response.body json) ∧
        ((TradingClient.asyncTestNewOrder services numerals ⟨some credentials, limits⟩
          request).1 = .ok () ↔ ∃ json, Unreported services response.body json)) ∧
    (∀ request,
      ReadAsOrder services numerals response.body
          (cancelOrder services numerals ⟨some credentials, limits⟩ request).1 ∧
        ReadAsOrder services numerals response.body
          (asyncCancelOrder services numerals ⟨some credentials, limits⟩ request).1) ∧
    ∀ zero symbol limit orderId placed canceled, numerals.stod "0" = .ok zero →
      Unreported services response.body (.object []) →
        (newOrder services numerals ⟨some credentials, limits⟩ placed).1 =
            .ok (defaultOrder zero) ∧
          (cancelOrder services numerals ⟨some credentials, limits⟩ canceled).1 =
            .ok (defaultOrder zero) ∧
          (TradingClient.queryOrder services numerals ⟨some credentials, limits⟩ symbol
            orderId).1 = .ok (defaultOrder zero) ∧
          (TradingClient.getAllOpenOrders services numerals ⟨some credentials, limits⟩).1 =
            .ok [] ∧
          (AccountClient.getAccountTrades services numerals ⟨some credentials, limits⟩ symbol
            limit).1 = .ok [] ∧
          (MarketDataClient.getOrderBook services numerals ⟨some credentials, limits⟩ symbol
            limit).1 = .error .undefined ∧
          (AccountClient.getAccountInfo services numerals ⟨some credentials, limits⟩).1 =
            .error .undefined := by
  have body (call : Call) (path : String) (params : Params) :
      (call.send services ⟨some credentials, limits⟩ path params).1 =
        checkedBody services response :=
    send_answered answered call
  have places (request : NewOrderRequest Double) : ReadAsOrder services numerals response.body
      (newOrder services numerals ⟨some credentials, limits⟩ request).1 :=
    readAsOrder_of_answered failed (body (.signed .post) _ _)
  have cancels (request : CancelOrderRequest) : ReadAsOrder services numerals response.body
      (cancelOrder services numerals ⟨some credentials, limits⟩ request).1 :=
    readAsOrder_of_answered failed (body (.signed .delete) _ _)
  refine ⟨?_, ?_, ?_, ?_⟩
  · intro α call path params read value
    exact fetch_eq_ok failed (body call path params)
  · intro request
    refine ⟨places request, ?_, ?_, ?_⟩
    · exact readAsOrder_of_answered failed (body (.signed .asyncPost) _ _)
    · exact dropped_eq_ok failed (body (.signed .post) _ _)
    · exact dropped_eq_ok failed (body (.signed .asyncPost) _ _)
  · intro request
    exact ⟨cancels request, readAsOrder_of_answered failed (body (.signed .asyncDelete) _ _)⟩
  · intro zero symbol limit orderId placed canceled zeroText unreported
    have new := parseOrder_empty zeroText
    have reads {α : Type} (call : Call) (path : String) (params : Params)
        (read : Json → Except (Fault Exception) α) :
        (fetch services ⟨some credentials, limits⟩ call path params read).1 = read (.object []) :=
      fetch_unreported failed (body call path params) unreported
    refine ⟨(places placed _).mpr ⟨_, unreported, new⟩, (cancels canceled _).mpr
      ⟨_, unreported, new⟩, ?_, reads _ _ _ _, reads _ _ _ _, reads _ _ _ _, reads _ _ _ _⟩
    refine (reads _ _ _ _).trans ?_
    rw [new]
    rfl

/-- A gateway that answers everything with the status 503 and an empty object. -/
def unavailable : Services where
  hmac _ _ := []
  layouts := ⟨.keep, .keep, .keep, .keep⟩
  clock := 0
  parse _ := .ok (.object [])
  stoi _ := .error .invalidArgument
  execute _ := .ok ⟨503, "\x7b\x7d", .empty⟩

/-- A query for an order returns one that is new, and so does placing one. -/
theorem errors_returned_as_data_iff_unavailable :
    (newOrder unavailable ⟨fun _ => .ok 0, toString⟩
        ⟨some ⟨some ("key", "secret")⟩, ⟨0, 0, 0⟩⟩
        ⟨"BTCUSDT", .buy, .market, .gtc, 1, none, none, none⟩).1 = .ok (defaultOrder 0) ∧
      (TradingClient.queryOrder unavailable ⟨fun _ => .ok 0, toString⟩
        ⟨some ⟨some ("key", "secret")⟩, ⟨0, 0, 0⟩⟩ "BTCUSDT" 7).1 = .ok (defaultOrder 0) := by
  have returned := (errors_returned_as_data_iff
    (⟨fun _ => .ok 0, toString⟩ : Numerals Nat) ⟨some ("key", "secret")⟩ ⟨0, 0, 0⟩
    (fun _ => rfl : ∀ request, unavailable.execute request = .ok ⟨503, "\x7b\x7d", .empty⟩)
    (by decide)).2.2.2 0 "BTCUSDT" 0 7 ⟨"BTCUSDT", .buy, .market, .gtc, 1, none, none, none⟩
      ⟨"BTCUSDT", some 7, none⟩ rfl ⟨by decide, rfl, .inl rfl⟩
  exact ⟨returned.1, returned.2.2.1⟩

end Bintrade.Rest
