import Bintrade.Core.Types

/-! Orders. The floating type of prices and quantities is a parameter. -/

namespace Bintrade.Models

open Bintrade.Core

structure NewOrderRequest (Double : Type) where
  symbol : String
  side : Side
  type : Core.OrderType
  timeInForce : TimeInForce
  quantity : Double
  price : Option Double
  clientOrderId : Option String
  stopPrice : Option Double

structure CancelOrderRequest where
  symbol : String
  orderId : Option Nat
  clientOrderId : Option String

/-- Times are nanoseconds since the epoch. -/
structure Order (Double : Type) where
  symbol : String
  orderId : Int
  clientOrderId : String
  price : Double
  origQty : Double
  executedQty : Double
  cummulativeQuoteQty : Double
  status : OrderStatus
  timeInForce : TimeInForce
  type : Core.OrderType
  side : Side
  time : Int
  updateTime : Int

end Bintrade.Models
