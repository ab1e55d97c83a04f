import Bintrade.Core.Error

/-! Timestamps, and the enumerations of the exchange with their wire names. -/

namespace Bintrade.Core

/-- `Timestamp(std::chrono::milliseconds(ms))`: the clock counts nanoseconds in 64 bits. C++
leaves an overflow of the conversion undefined; it is taken to leave what the arithmetic of
64 bits leaves, as one function for all readers. -/
def timestamp (milliseconds : Int) : Int := (milliseconds * 1000000).bmod (2 ^ 64)

/-- The milliseconds whose nanoseconds fit, some 292 years before and after the epoch. -/
theorem timestamp_exact_iff (milliseconds : Int) :
    timestamp milliseconds = milliseconds * 1000000 ↔
      -9223372036854 ≤ milliseconds ∧ milliseconds ≤ 9223372036854 := by
  unfold timestamp
  constructor
  · intro exact
    have lower := Int.le_bmod (x := milliseconds * 1000000) (m := 2 ^ 64) (by decide)
    have upper := Int.bmod_lt (x := milliseconds * 1000000) (m := 2 ^ 64) (by decide)
    rw [exact] at lower upper
    omega
  · rintro ⟨lower, upper⟩
    exact Int.bmod_eq_of_le (by omega) (by omega)

inductive Side where
  | buy
  | sell
  deriving DecidableEq

inductive OrderType where
  | limit
  | market
  | stopLoss
  | stopLossLimit
  | takeProfit
  | takeProfitLimit
  | limitMaker
  deriving DecidableEq

inductive TimeInForce where
  | gtc
  | ioc
  | fok
  deriving DecidableEq

inductive OrderStatus where
  | new
  | partiallyFilled
  | filled
  | canceled
  | pendingCancel
  | rejected
  | expired
  deriving DecidableEq

def Side.toString : Side → String
  | .buy => "BUY"
  | .sell => "SELL"

def OrderType.toString : OrderType → String
  | .limit => "LIMIT"
  | .market => "MARKET"
  | .stopLoss => "STOP_LOSS"
  | .stopLossLimit => "STOP_LOSS_LIMIT"
  | .takeProfit => "TAKE_PROFIT"
  | .takeProfitLimit => "TAKE_PROFIT_LIMIT"
  | .limitMaker => "LIMIT_MAKER"

def TimeInForce.toString : TimeInForce → String
  | .gtc => "GTC"
  | .ioc => "IOC"
  | .fok => "FOK"

def OrderStatus.toString : OrderStatus → String
  | .new => "NEW"
  | .partiallyFilled => "PARTIALLY_FILLED"
  | .filled => "FILLED"
  | .canceled => "CANCELED"
  | .pendingCancel => "PENDING_CANCEL"
  | .rejected => "REJECTED"
  | .expired => "EXPIRED"

/-- Compare a text with the names in turn. -/
def fromString {α : Type} (names : List (String × α)) (complaint text : String) :
    Except Exception α :=
  match names.find? fun name => text = name.1 with
  | some name => .ok name.2
  | none => .error (.invalidArgument (complaint ++ text))

def sideFromString : String → Except Exception Side :=
  fromString [("BUY", .buy), ("SELL", .sell)] "Unknown side: "

def orderTypeFromString : String → Except Exception OrderType :=
  fromString [("LIMIT", .limit), ("MARKET", .market), ("STOP_LOSS", .stopLoss),
    ("STOP_LOSS_LIMIT", .stopLossLimit), ("TAKE_PROFIT", .takeProfit),
    ("TAKE_PROFIT_LIMIT", .takeProfitLimit), ("LIMIT_MAKER", .limitMaker)] "Unknown order type: "

def timeInForceFromString : String → Except Exception TimeInForce :=
  fromString [("GTC", .gtc), ("IOC", .ioc), ("FOK", .fok)] "Unknown time in force: "

def orderStatusFromString : String → Except Exception OrderStatus :=
  fromString [("NEW", .new), ("PARTIALLY_FILLED", .partiallyFilled), ("FILLED", .filled),
    ("CANCELED", .canceled), ("PENDING_CANCEL", .pendingCancel), ("REJECTED", .rejected),
    ("EXPIRED", .expired)] "Unknown order status: "

/-- A text with no name is an `std::invalid_argument`, never an `ApiException`. -/
@[simp]
theorem not_raisesApi_fromString {α : Type} (names : List (String × α)) (complaint text : String) :
    ¬ RaisesApi (fromString names complaint text) := by
  unfold fromString
  split
  · exact not_raisesApi_ok _
  · simp [Exception.isApi]

end Bintrade.Core
