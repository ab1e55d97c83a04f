import Bintrade.Rest.ModelParse
import Bintrade.Rest.ParameterIntegrity

/-! The methods of `MarketDataClient`, `AccountClient` and `TradingClient` that return models.
Each sends one request, checks the status of its response for an error, and then reads the
body again as one of status 200. -/

namespace Bintrade.Rest

open Bintrade.System Bintrade.Core Bintrade.Auth Bintrade.Models

section Family

variable {α : Type} (services : Services) (client : Client)

/-- The protected methods of `Client`, by the request that they send. -/
def Call.send (path : String) (params : Params) : Call → Except Exception String × Client
  | .publicGet => Rest.publicGet services client path params
  | .asyncPublicGet => Rest.asyncPublicGet services client path params
  | .signed .get => signedGet services client path params
  | .signed .post => signedPost services client path params
  | .signed .delete => signedDelete services client path params
  | .signed .asyncGet => asyncSignedGet services client path params
  | .signed .asyncPost => asyncSignedPost services client path params
  | .signed .asyncDelete => asyncSignedDelete services client path params

/-- Send a request, and read the body that it returns. -/
def fetch (call : Call) (path : String) (params : Params)
    (read : Json → Except (Fault Exception) α) : Except (Fault Exception) α × Client :=
  let (body, client) := call.send services client path params
  (do
    let json ← throws (parseResponse services.parse 200 (← throws body))
    read json,
   client)

/-- The loop of the methods that return a `std::vector`. -/
def readItems (read : Json → Except (Fault Exception) α) (json : Json) :
    Except (Fault Exception) (List α) :=
  json.items.mapM read

/-- `params["symbol"] = symbol`. -/
def symbolParams (symbol : String) : Params :=
  UnorderedMap.empty.assign services.layouts.filled "symbol" symbol

/-- The parameters of a method for a symbol that has one more. -/
def symbolParamsWith (symbol key value : String) : Params :=
  (symbolParams services symbol).assign services.layouts.filled key value

/-- The parameters of a method with a limit. -/
def limitedParams (symbol : String) (limit : Int) : Params :=
  symbolParamsWith services symbol "limit" (toString limit)

/-- `params["interval"]` is set between the other two. -/
def klinesParams (symbol interval : String) (limit : Int) : Params :=
  (symbolParamsWith services symbol "interval" interval).assign services.layouts.filled "limit"
    (toString limit)

end Family

section Methods

variable {Double : Type} (services : Services) (numerals : Numerals Double) (client : Client)

namespace MarketDataClient

def getOrderBook (symbol : String) (limit : Int) :
    Except (Fault Exception) (OrderBook Double) × Client :=
  fetch services client .publicGet "/api/v3/depth" (limitedParams services symbol limit)
    (parseOrderBook numerals symbol)

def getRecentTrades (symbol : String) (limit : Int) :
    Except (Fault Exception) (List (Trade Double)) × Client :=
  fetch services client .publicGet "/api/v3/trades" (limitedParams services symbol limit)
    (readItems fun item => throws (parseTrade numerals item))

def getKlines (symbol interval : String) (limit : Int) :
    Except (Fault Exception) (List (Kline Double)) × Client :=
  fetch services client .publicGet "/api/v3/klines" (klinesParams services symbol interval limit)
    (readItems (parseKline numerals))

def getTicker24h (symbol : String) : Except (Fault Exception) (Ticker24h Double) × Client :=
  fetch services client .publicGet "/api/v3/ticker/24hr" (symbolParams services symbol)
    fun json => throws (parseTicker24h numerals json)

def getPriceTicker (symbol : String) : Except (Fault Exception) (Ticker Double) × Client :=
  fetch services client .publicGet "/api/v3/ticker/price" (symbolParams services symbol)
    fun json => throws (parseTicker numerals json)

def getAllPriceTickers : Except (Fault Exception) (List (Ticker Double)) × Client :=
  fetch services client .publicGet "/api/v3/ticker/price" .empty
    (readItems fun item => throws (parseTicker numerals item))

def asyncGetOrderBook (symbol : String) (limit : Int) :
    Except (Fault Exception) (OrderBook Double) × Client :=
  fetch services client .asyncPublicGet "/api/v3/depth" (limitedParams services symbol limit)
    (parseOrderBook numerals symbol)

def asyncGetRecentTrades (symbol : String) (limit : Int) :
    Except (Fault Exception) (List (Trade Double)) × Client :=
  fetch services client .asyncPublicGet "/api/v3/trades" (limitedParams services symbol limit)
    (readItems fun item => throws (parseTrade numerals item))

def asyncGetKlines (symbol interval : String) (limit : Int) :
    Except (Fault Exception) (List (Kline Double)) × Client :=
  fetch services client .asyncPublicGet "/api/v3/klines"
    (klinesParams services symbol interval limit)
    (readItems (parseKline numerals))

def asyncGetTicker24h (symbol : String) : Except (Fault Exception) (Ticker24h Double) × Client :=
  fetch services client .asyncPublicGet "/api/v3/ticker/24hr" (symbolParams services symbol)
    fun json => throws (parseTicker24h numerals json)

def asyncGetPriceTicker (symbol : String) : Except (Fault Exception) (Ticker Double) × Client :=
  fetch services client .asyncPublicGet "/api/v3/ticker/price" (symbolParams services symbol)
    fun json => throws (parseTicker numerals json)

def asyncGetAllPriceTickers : Except (Fault Exception) (List (Ticker Double)) × Client :=
  fetch services client .asyncPublicGet "/api/v3/ticker/price" .empty
    (readItems fun item => throws (parseTicker numerals item))

end MarketDataClient

namespace AccountClient

section

variable [Zero Double] [LT Double] [DecidableLT Double]

def getAccountInfo : Except (Fault Exception) (AccountInfo Double) × Client :=
  fetch services client (.signed .get) "/api/v3/account" .empty (parseAccountInfo numerals)

def asyncGetAccountInfo : Except (Fault Exception) (AccountInfo Double) × Client :=
  fetch services client (.signed .asyncGet) "/api/v3/account" .empty (parseAccountInfo numerals)

end

def getAccountTrades (symbol : String) (limit : Int) :
    Except (Fault Exception) (List (AccountTrade Double)) × Client :=
  fetch services client (.signed .get) "/api/v3/myTrades" (limitedParams services symbol limit)
    (readItems fun item => throws (parseAccountTrade numerals item))

def asyncGetAccountTrades (symbol : String) (limit : Int) :
    Except (Fault Exception) (List (AccountTrade Double)) × Client :=
  fetch services client (.signed .asyncGet) "/api/v3/myTrades" (limitedParams services symbol limit)
    (readItems fun item => throws (parseAccountTrade numerals item))

end AccountClient

namespace TradingClient

/-- The answer is not looked at once its status has been. -/
def testNewOrder (request : NewOrderRequest Double) : Except Exception Unit × Client :=
  let (body, client) := signedPost services client "/api/v3/order/test"
    (buildNewOrderParams numerals services.layouts.filled request)
  ((fun _ => ()) <$> body, client)

def asyncTestNewOrder (request : NewOrderRequest Double) : Except Exception Unit × Client :=
  let (body, client) := asyncSignedPost services client "/api/v3/order/test"
    (buildNewOrderParams numerals services.layouts.filled request)
  ((fun _ => ()) <$> body, client)

def queryOrder (symbol : String) (orderId : Nat) :
    Except (Fault Exception) (Order Double) × Client :=
  fetch services client (.signed .get) "/api/v3/order"
    (symbolParamsWith services symbol "orderId" (toString orderId))
    fun json => throws (parseOrder numerals json)

def queryOrderByClientId (symbol clientOrderId : String) :
    Except (Fault Exception) (Order Double) × Client :=
  fetch services client (.signed .get) "/api/v3/order"
    (symbolParamsWith services symbol "origClientOrderId" clientOrderId)
    fun json => throws (parseOrder numerals json)

def cancelAllOrders (symbol : String) : Except (Fault Exception) (List (Order Double)) × Client :=
  fetch services client (.signed .delete) "/api/v3/openOrders" (symbolParams services symbol)
    (readItems fun item => throws (parseOrder numerals item))

def getOpenOrders (symbol : String) : Except (Fault Exception) (List (Order Double)) × Client :=
  fetch services client (.signed .get) "/api/v3/openOrders" (symbolParams services symbol)
    (readItems fun item => throws (parseOrder numerals item))

def getAllOpenOrders : Except (Fault Exception) (List (Order Double)) × Client :=
  fetch services client (.signed .get) "/api/v3/openOrders" .empty
    (readItems fun item => throws (parseOrder numerals item))

def getAllOrders (symbol : String) (limit : Int) :
    Except (Fault Exception) (List (Order Double)) × Client :=
  fetch services client (.signed .get) "/api/v3/allOrders" (limitedParams services symbol limit)
    (readItems fun item => throws (parseOrder numerals item))

def asyncQueryOrder (symbol : String) (orderId : Nat) :
    Except (Fault Exception) (Order Double) × Client :=
  fetch services client (.signed .asyncGet) "/api/v3/order"
    (symbolParamsWith services symbol "orderId" (toString orderId))
    fun json => throws (parseOrder numerals json)

def asyncQueryOrderByClientId (symbol clientOrderId : String) :
    Except (Fault Exception) (Order Double) × Client :=
  fetch services client (.signed .asyncGet) "/api/v3/order"
    (symbolParamsWith services symbol "origClientOrderId" clientOrderId)
    fun json => throws (parseOrder numerals json)

def asyncCancelAllOrders (symbol : String) :
    Except (Fault Exception) (List (Order Double)) × Client :=
  fetch services client (.signed .asyncDelete) "/api/v3/openOrders" (symbolParams services symbol)
    (readItems fun item => throws (parseOrder numerals item))

def asyncGetOpenOrders (symbol : String) :
    Except (Fault Exception) (List (Order Double)) × Client :=
  fetch services client (.signed .asyncGet) "/api/v3/openOrders" (symbolParams services symbol)
    (readItems fun item => throws (parseOrder numerals item))

def asyncGetAllOpenOrders : Except (Fault Exception) (List (Order Double)) × Client :=
  fetch services client (.signed .asyncGet) "/api/v3/openOrders" .empty
    (readItems fun item => throws (parseOrder numerals item))

def asyncGetAllOrders (symbol : String) (limit : Int) :
    Except (Fault Exception) (List (Order Double)) × Client :=
  fetch services client (.signed .asyncGet) "/api/v3/allOrders"
    (limitedParams services symbol limit)
    (readItems fun item => throws (parseOrder numerals item))

end TradingClient

end Methods

end Bintrade.Rest
