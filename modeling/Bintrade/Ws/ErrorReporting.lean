import Bintrade.Rest.TradingClient
import Bintrade.Ws.ListenKey

/-! Which error responses a call reports. Every call that meets a status of 400 or
above relies on `parse_response` to throw. -/

namespace Bintrade.Ws

open Bintrade.System Bintrade.Core Bintrade.Rest Bintrade.Models

/-- The calls that treat a status of 400 or above as an error. -/
inductive Operation (Double : Type) where
  | serverTime
  | publicGet (path : String) (params : Params)
  | signedGet (path : String) (params : Params)
  | signedPost (path : String) (params : Params)
  | signedDelete (path : String) (params : Params)
  | asyncServerTime
  | asyncPublicGet (path : String) (params : Params)
  | asyncSignedGet (path : String) (params : Params)
  | asyncSignedPost (path : String) (params : Params)
  | asyncSignedDelete (path : String) (params : Params)
  | renewListenKey (listenKey : String)
  | deleteListenKey (listenKey : String)
  | newOrder (request : NewOrderRequest Double)
  | asyncNewOrder (request : NewOrderRequest Double)

section Reporting

variable {Double : Type} (services : Services) (numerals : Numerals Double) (client : Client)

/-- How a call ends: with an exception, or by returning. -/
def Operation.outcome : Operation Double → Except Exception Unit
  | .serverTime => (fun _ => ()) <$> (Rest.serverTime services client).1
  | .publicGet path params => (fun _ => ()) <$> (Rest.publicGet services client path params).1
  | .signedGet path params => (fun _ => ()) <$> (Rest.signedGet services client path params).1
  | .signedPost path params => (fun _ => ()) <$> (Rest.signedPost services client path params).1
  | .signedDelete path params => (fun _ => ()) <$> (Rest.signedDelete services client path params).1
  | .asyncServerTime => (fun _ => ()) <$> (Rest.asyncServerTime services client).1
  | .asyncPublicGet path params =>
    (fun _ => ()) <$> (Rest.asyncPublicGet services client path params).1
  | .asyncSignedGet path params =>
    (fun _ => ()) <$> (Rest.asyncSignedGet services client path params).1
  | .asyncSignedPost path params =>
    (fun _ => ()) <$> (Rest.asyncSignedPost services client path params).1
  | .asyncSignedDelete path params =>
    (fun _ => ()) <$> (Rest.asyncSignedDelete services client path params).1
  | .renewListenKey listenKey => Ws.renewListenKey services listenKey
  | .deleteListenKey listenKey => Ws.deleteListenKey services listenKey
  | .newOrder request => (fun _ => ()) <$> (Rest.newOrder services numerals client request).1
  | .asyncNewOrder request =>
    (fun _ => ()) <$> (Rest.asyncNewOrder services numerals client request).1

variable {services numerals client}
variable {response : HttpResponse}

theorem raisesApi_exchange {α : Type} {request : HttpRequest}
    {read : HttpResponse → Except Exception α}
    (answered : ∀ request, services.execute request = .ok response)
    (reading : RaisesApi (read response) ↔ ReportsError services.parse response.body) :
    RaisesApi (exchange services client (.ok request) read).1 ↔
      ReportsError services.parse response.body := by
  have sent : (Except.ok request >>= services.execute) = .ok response := answered request
  rw [exchange, sent]
  exact reading

theorem raisesApi_checkedBody (failed : 400 ≤ response.statusCode) :
    RaisesApi (checkedBody services response) ↔ ReportsError services.parse response.body := by
  simp [checkedBody, failed, raisesApi_parseResponse failed]

theorem raisesApi_checkStatus (failed : 400 ≤ response.statusCode) :
    RaisesApi (checkStatus services response) ↔ ReportsError services.parse response.body := by
  simp [checkStatus, failed, raisesApi_parseResponse failed]

theorem raisesApi_readServerTime (failed : 400 ≤ response.statusCode) :
    RaisesApi (readServerTime services response) ↔ ReportsError services.parse response.body := by
  simp [readServerTime, Rest.time, raisesApi_parseResponse failed]

/-- Reading an order out of a body that came back never raises an `ApiException`. -/
theorem not_raisesApi_readOrder (body : String) :
    ¬ RaisesApi (readOrder services numerals body) := by
  simp [readOrder, not_raisesApi_parseResponse, not_raisesApi_parseOrder]

/-- A listen-key request reports what its status check reports. -/
theorem raisesApi_answered {request : HttpRequest}
    (answered : ∀ request, services.execute request = .ok response)
    (failed : 400 ≤ response.statusCode) :
    RaisesApi (services.execute request >>= checkStatus services) ↔
      ReportsError services.parse response.body := by
  rw [answered]
  exact raisesApi_checkStatus failed

theorem raisesApi_readOrder_iff {body : Except Exception String} {reported : Prop}
    (posted : RaisesApi body ↔ reported) :
    RaisesApi (body >>= readOrder services numerals) ↔ reported := by
  simp [raisesApi_bind, not_raisesApi_readOrder, posted]

end Reporting

/-- A response with an error status is reported as `ApiException` by each of the
calls exactly if its body is empty or an object with a numeric or boolean `code` and
a string `msg`. -/
theorem error_status_raises_api_iff {Double : Type} (services : Services)
    (numerals : Numerals Double) (credentials : Auth.Credentials) (limits : RateLimits)
    (operation : Operation Double) (response : HttpResponse)
    (answered : ∀ request, services.execute request = .ok response)
    (failed : 400 ≤ response.statusCode) :
    RaisesApi (operation.outcome services numerals ⟨some credentials, limits⟩) ↔
      ReportsError services.parse response.body := by
  have bodies {request : HttpRequest} :
      RaisesApi (exchange services ⟨some credentials, limits⟩ (.ok request)
        (checkedBody services)).1 ↔ ReportsError services.parse response.body :=
    raisesApi_exchange answered (raisesApi_checkedBody failed)
  have times {request : HttpRequest} :
      RaisesApi (exchange services ⟨some credentials, limits⟩ (.ok request)
        (readServerTime services)).1 ↔ ReportsError services.parse response.body :=
    raisesApi_exchange answered (raisesApi_readServerTime failed)
  cases operation with
  | serverTime | asyncServerTime => exact (raisesApi_map _ _).trans times
  | publicGet path params | asyncPublicGet path params
  | signedGet path params | asyncSignedGet path params
  | signedPost path params | asyncSignedPost path params
  | signedDelete path params | asyncSignedDelete path params =>
    exact (raisesApi_map _ _).trans bodies
  | renewListenKey listenKey | deleteListenKey listenKey =>
    exact raisesApi_answered answered failed
  | newOrder request | asyncNewOrder request =>
    exact (raisesApi_map _ _).trans (raisesApi_readOrder_iff bodies)

/-- Services that answer every request alike, with a parser that knows the empty
object only. -/
def answering (response : HttpResponse) : Services where
  hmac _ _ := []
  layouts := ⟨.keep, .keep, .keep, .keep⟩
  clock := 0
  parse body := if body = "\x7b\x7d" then .ok (.object []) else .error .parseError
  stoi _ := .error .invalidArgument
  execute _ := .ok response

/-- Conversions that know the number 0 only. -/
def zeroOnly : Numerals Nat where
  stod text := if text = "0" then .ok 0 else .error .invalidArgument
  toString number := ToString.toString number

def limitOrder : NewOrderRequest Nat where
  symbol := "BTCUSDT"
  side := .buy
  type := .limit
  timeInForce := .gtc
  quantity := 1
  price := some 42000
  clientOrderId := none
  stopPrice := none

/-- Status 503 with an empty body is reported by `new_order`. -/
theorem empty_error_response_raises_api :
    RaisesApi ((Operation.newOrder limitOrder).outcome (answering ⟨503, "", .empty⟩) zeroOnly
      ⟨some ⟨none⟩, ⟨0, 0, 0⟩⟩) := by
  have reported := error_status_raises_api_iff (answering ⟨503, "", .empty⟩) zeroOnly ⟨none⟩
    ⟨0, 0, 0⟩ (.newOrder limitOrder) ⟨503, "", .empty⟩ (fun _ => rfl) (by decide)
  exact reported.mpr (.inl rfl)

/-- Status 500 with the body of an empty object: `new_order` returns a new order, all
of whose fields are defaults. -/
theorem error_status_returned_as_order :
    (Rest.newOrder (answering ⟨500, "\x7b\x7d", .empty⟩) zeroOnly ⟨some ⟨none⟩, ⟨0, 0, 0⟩⟩
      limitOrder).1 =
        .ok {
          symbol := "", orderId := 0, clientOrderId := "", price := 0, origQty := 0,
          executedQty := 0, cummulativeQuoteQty := 0, status := .new, timeInForce := .gtc,
          type := .limit, side := .buy, time := 0, updateTime := 0 } :=
  rfl

end Bintrade.Ws
