import Bintrade.Rest.ModelParse

/-! The parsers of `ws_parse.hpp` for stream messages, and the dispatch functions that
call them and discard what they reject. -/

namespace Bintrade.Ws

open Bintrade.System Bintrade.Core Bintrade.Models Bintrade.Rest

section Parsers

variable {Double : Type} (numerals : Numerals Double)

/-- The quote quantity is computed, and the buyer is the side that is not the maker. -/
def parseTradeStream [Mul Double] (json : Json) : Except Exception (Trade Double) := do
  let id ← count json "t"
  let price ← amount numerals json "p"
  let qty ← amount numerals json "q"
  let time ← time json "T"
  let isMaker ← flag json "m"
  pure { id, orderId := 0, price, qty, quoteQty := price * qty, time, isBuyer := !isMaker, isMaker }

def parseKlineStream (json : Json) : Except Exception (Kline Double) := do
  let kline ← throwJson (json.atKey "k")
  let openTime ← time kline "t"
  let closeTime ← time kline "T"
  let openPrice ← amount numerals kline "o"
  let high ← amount numerals kline "h"
  let low ← amount numerals kline "l"
  let close ← amount numerals kline "c"
  let volume ← amount numerals kline "v"
  let quoteVolume ← amount numerals kline "q"
  let numTrades ← count kline "n"
  pure { openTime, openPrice, high, low, close, volume, closeTime, quoteVolume, numTrades }

def parseTickerStream (json : Json) : Except Exception (Ticker Double) := do
  let symbol ← text json "s" ""
  let price ← amount numerals json "c"
  let time ← time json "E"
  pure { symbol, price, time }

/-- `parse_level` reads a row as `parse_order_book_entry` does. -/
def parseLevel (level : Json) : Except (Fault Exception) (OrderBookEntry Double) :=
  parseOrderBookEntry numerals level

/-- One side of the book, if the message has it. -/
def parseLevels (json : Json) (key : String) :
    Except (Fault Exception) (List (OrderBookEntry Double)) :=
  if json.contains key then do
    (← listAt json key).mapM (parseLevel numerals)
  else pure []

def parseDepthStream (json : Json) : Except (Fault Exception) (OrderBook Double) := do
  let symbol ← throws (text json "s" "")
  let lastUpdateId ← throws (count json "u")
  let bids ← parseLevels numerals json "b"
  let asks ← parseLevels numerals json "a"
  pure { symbol, lastUpdateId, bids, asks }

def parseOrderUpdate (json : Json) : Except Exception (Order Double) := do
  let symbol ← text json "s" ""
  let orderId ← count json "i"
  let clientOrderId ← text json "c" ""
  let side ← sideFromString (← text json "S" "BUY")
  let type ← orderTypeFromString (← text json "o" "LIMIT")
  let timeInForce ← timeInForceFromString (← text json "f" "GTC")
  let origQty ← amount numerals json "q"
  let price ← amount numerals json "p"
  let executedQty ← amount numerals json "z"
  let cummulativeQuoteQty ← amount numerals json "Z"
  let status ← orderStatusFromString (← text json "X" "NEW")
  let time ← time json "O"
  let updateTime ← Rest.time json "T"
  pure {
    symbol, orderId, clientOrderId, price, origQty, executedQty, cummulativeQuoteQty,
    status, type, side, timeInForce, time, updateTime }

def parseStreamBalance (json : Json) : Except Exception (Balance Double) := do
  let asset ← text json "a" ""
  let free ← amount numerals json "f"
  let locked ← amount numerals json "l"
  pure { asset, free, locked }

def parseAccountUpdate (json : Json) : Except (Fault Exception) (AccountInfo Double) := do
  let updateTime ← throws (time json "u")
  let balances ←
    if json.contains "B" then do
      (← listAt json "B").mapM fun balance => throws (parseStreamBalance numerals balance)
    else pure []
  pure {
    canTrade := false, canWithdraw := false, canDeposit := false, updateTime, accountType := "",
    balances }

end Parsers

section Dispatch

/-- `catch (const std::exception&)` around a dispatch: the message is discarded. -/
def discardThrown {α : Type} :
    Except (Fault Exception) (Option α) → Except (Fault Exception) (Option α)
  | .error (.thrown _) => .ok none
  | outcome => outcome

/-- The dispatch function of one subscription: the value that is passed to the callback,
if the message is an event of its kind and can be read. -/
def dispatchEvent {α : Type} (parse : JsonParser) (event : String)
    (read : Json → Except (Fault Exception) α) (message : String) :
    Except (Fault Exception) (Option α) :=
  discardThrown do
    let json ← throws (throwJson (parse message))
    let kind ← throws (text json "e" "")
    if kind = event then some <$> read json else pure none

variable {Double : Type} (numerals : Numerals Double) (parse : JsonParser)

def dispatchTrades [Mul Double] (message : String) :
    Except (Fault Exception) (Option (Trade Double)) :=
  dispatchEvent parse "trade" (fun json => throws (parseTradeStream numerals json)) message

def dispatchKlines (message : String) : Except (Fault Exception) (Option (Kline Double)) :=
  dispatchEvent parse "kline" (fun json => throws (parseKlineStream numerals json)) message

def dispatchTicker (message : String) : Except (Fault Exception) (Option (Ticker Double)) :=
  dispatchEvent parse "24hrTicker" (fun json => throws (parseTickerStream numerals json)) message

def dispatchDepth (message : String) : Except (Fault Exception) (Option (OrderBook Double)) :=
  dispatchEvent parse "depthUpdate" (parseDepthStream numerals) message

/-- What a `UserStream` passes to its callbacks. -/
inductive UserEvent (Double : Type) where
  | order (order : Order Double)
  | account (account : AccountInfo Double)

/-- `UserStream::do_dispatch`: an event is parsed only if its callback is set. -/
def dispatchUser (orderCallback accountCallback : Bool) (message : String) :
    Except (Fault Exception) (Option (UserEvent Double)) :=
  discardThrown do
    let json ← throws (throwJson (parse message))
    let kind ← throws (text json "e" "")
    if kind = "executionReport" then
      if orderCallback then
        (fun order => some (.order order)) <$> throws (parseOrderUpdate numerals json)
      else pure none
    else if kind = "outboundAccountPosition" then
      if accountCallback then
        (fun account => some (.account account)) <$> parseAccountUpdate numerals json
      else pure none
    else pure none

end Dispatch

end Bintrade.Ws
