import Bintrade.Models.MarketData
import Bintrade.Rest.JsonParse

/-! The parsers of `json_parse.hpp` for market data, trades and accounts. Fields of an
object are read with `value`, which is checked; rows and lists are read with
`operator[]`, which is not. -/

namespace Bintrade.Rest

open Bintrade.System Bintrade.Core Bintrade.Models

section Fields

variable {Double : Type} (numerals : Numerals Double)

def flag (json : Json) (key : String) : Except Exception Bool :=
  throwJson (json.value Json.getBoolean key false)

/-- An element of a row that is a numeral text. -/
def amountText (json : Json) : Except Exception Double := do
  stod numerals (← throwJson json.getString)

/-- An element of a row that is a time in milliseconds. -/
def elementTime (json : Json) : Except Exception Int :=
  timestamp <$> throwJson json.getInt64

/-- One access with `operator[]`, and the conversion of the element it finds. -/
def column {α : Type} (json : Json) (position : Nat) (read : Json → Except Exception α) :
    Except (Fault Exception) α := do
  let element ← (json.index position).mapError (Fault.map .json)
  throws (read element)

/-- The member that `operator[]` finds under a key. -/
def listAt (json : Json) (key : String) : Except (Fault Exception) (List Json) := do
  let found ← (json.subscript key).mapError (Fault.map .json)
  pure found.items

end Fields

section Parsers

variable {Double : Type} (numerals : Numerals Double)

def parseTicker (json : Json) : Except Exception (Ticker Double) := do
  let symbol ← text json "symbol" ""
  let price ← amount numerals json "price"
  pure { symbol, price, time := 0 }

def parseTicker24h (json : Json) : Except Exception (Ticker24h Double) := do
  let symbol ← text json "symbol" ""
  let priceChange ← amount numerals json "priceChange"
  let priceChangePercent ← amount numerals json "priceChangePercent"
  let openPrice ← amount numerals json "openPrice"
  let high ← amount numerals json "highPrice"
  let low ← amount numerals json "lowPrice"
  let close ← amount numerals json "lastPrice"
  let volume ← amount numerals json "volume"
  let quoteVolume ← amount numerals json "quoteVolume"
  let openTime ← time json "openTime"
  let closeTime ← time json "closeTime"
  let numTrades ← count json "count"
  pure {
    symbol, openPrice, high, low, close, volume, quoteVolume, openTime, closeTime, numTrades,
    priceChange, priceChangePercent }

def parseOrderBookEntry (json : Json) : Except (Fault Exception) (OrderBookEntry Double) := do
  let price ← column json 0 (amountText numerals)
  let quantity ← column json 1 (amountText numerals)
  pure { price, quantity }

def parseOrderBook (symbol : String) (json : Json) :
    Except (Fault Exception) (OrderBook Double) := do
  let lastUpdateId ← throws (count json "lastUpdateId")
  let bids ← (← listAt json "bids").mapM (parseOrderBookEntry numerals)
  let asks ← (← listAt json "asks").mapM (parseOrderBookEntry numerals)
  pure { symbol, lastUpdateId, bids, asks }

/-- Both flags are read from the same key. -/
def parseTrade (json : Json) : Except Exception (Trade Double) := do
  let id ← count json "id"
  let price ← amount numerals json "price"
  let qty ← amount numerals json "qty"
  let quoteQty ← amount numerals json "quoteQty"
  let time ← time json "time"
  let isBuyer ← flag json "isBuyerMaker"
  let isMaker ← flag json "isBuyerMaker"
  pure { id, orderId := 0, price, qty, quoteQty, time, isBuyer, isMaker }

def parseKline (json : Json) : Except (Fault Exception) (Kline Double) := do
  let openTime ← column json 0 elementTime
  let openPrice ← column json 1 (amountText numerals)
  let high ← column json 2 (amountText numerals)
  let low ← column json 3 (amountText numerals)
  let close ← column json 4 (amountText numerals)
  let volume ← column json 5 (amountText numerals)
  let closeTime ← column json 6 elementTime
  let quoteVolume ← column json 7 (amountText numerals)
  let numTrades ← column json 8 fun element => throwJson element.getUInt64
  pure { openTime, openPrice, high, low, close, volume, closeTime, quoteVolume, numTrades }

def parseBalance (json : Json) : Except Exception (Balance Double) := do
  let asset ← text json "asset" ""
  let free ← amount numerals json "free"
  let locked ← amount numerals json "locked"
  pure { asset, free, locked }

/-- Empty balances are left out. -/
def parseAccountInfo [Zero Double] [LT Double] [DecidableLT Double] (json : Json) :
    Except (Fault Exception) (AccountInfo Double) := do
  let canTrade ← throws (flag json "canTrade")
  let canWithdraw ← throws (flag json "canWithdraw")
  let canDeposit ← throws (flag json "canDeposit")
  let accountType ← throws (text json "accountType" "")
  let updateTime ← throws (time json "updateTime")
  let all ← (← listAt json "balances").mapM fun balance => throws (parseBalance numerals balance)
  let balances := all.filter fun balance => 0 < balance.free ∨ 0 < balance.locked
  pure { canTrade, canWithdraw, canDeposit, updateTime, accountType, balances }

def parseAccountTrade (json : Json) : Except Exception (AccountTrade Double) := do
  let symbol ← text json "symbol" ""
  let id ← count json "id"
  let orderId ← count json "orderId"
  let price ← amount numerals json "price"
  let qty ← amount numerals json "qty"
  let quoteQty ← amount numerals json "quoteQty"
  let commission ← amount numerals json "commission"
  let commissionAsset ← text json "commissionAsset" ""
  let time ← time json "time"
  let isBuyer ← flag json "isBuyer"
  let isMaker ← flag json "isMaker"
  pure {
    symbol, id, orderId, price, qty, quoteQty, commission, commissionAsset, time, isBuyer,
    isMaker }

end Parsers

end Bintrade.Rest
