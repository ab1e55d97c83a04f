import Bintrade.Core.Types

/-! Market data, trades and accounts. The floating type of prices and quantities is a
parameter; times are nanoseconds since the epoch. -/

namespace Bintrade.Models

structure Ticker (Double : Type) where
  symbol : String
  price : Double
  time : Int

structure Ticker24h (Double : Type) where
  symbol : String
  openPrice : Double
  high : Double
  low : Double
  close : Double
  volume : Double
  quoteVolume : Double
  openTime : Int
  closeTime : Int
  numTrades : Int
  priceChange : Double
  priceChangePercent : Double

structure OrderBookEntry (Double : Type) where
  price : Double
  quantity : Double

structure OrderBook (Double : Type) where
  symbol : String
  lastUpdateId : Int
  bids : List (OrderBookEntry Double)
  asks : List (OrderBookEntry Double)

structure Kline (Double : Type) where
  openTime : Int
  openPrice : Double
  high : Double
  low : Double
  close : Double
  volume : Double
  closeTime : Int
  quoteVolume : Double
  numTrades : Int

/-- A public trade; neither decoder fills `orderId`. -/
structure Trade (Double : Type) where
  id : Int
  orderId : Int
  price : Double
  qty : Double
  quoteQty : Double
  time : Int
  isBuyer : Bool
  isMaker : Bool

structure AccountTrade (Double : Type) where
  symbol : String
  id : Int
  orderId : Int
  price : Double
  qty : Double
  quoteQty : Double
  commission : Double
  commissionAsset : String
  time : Int
  isBuyer : Bool
  isMaker : Bool

structure Balance (Double : Type) where
  asset : String
  free : Double
  locked : Double

structure AccountInfo (Double : Type) where
  canTrade : Bool
  canWithdraw : Bool
  canDeposit : Bool
  updateTime : Int
  accountType : String
  balances : List (Balance Double)

end Bintrade.Models
