import Bintrade.System.Decimal
import Bintrade.Rest.TradingClient

/-! The amounts of an order on the wire. An amount is a whole number of units of
`10 ^ -8`, the finest step of the exchange; `std::to_string` writes six fractional
digits. -/

namespace Bintrade.Rest

open Bintrade.System Bintrade.Core Bintrade.Models

/-- `std::to_string` of an exact amount, next to any conversion back. -/
def exactNumerals (stod : String → Except NumeralError Nat) : Numerals Nat where
  stod := stod
  toString units := fixedText 6 (roundedQuotient units (10 ^ 2))

/-- The parameter is there and denotes the amount. -/
def Carries (params : Params) (key : String) (units : Nat) : Prop :=
  ∃ text, params.find? key = some text ∧ readDecimal text = some ((units : ℚ) / 10 ^ 8)

/-- Every amount that the request sets is the one sent. -/
def AmountsKept (request : NewOrderRequest Nat) (params : Params) : Prop :=
  Carries params "quantity" request.quantity ∧
    (∀ price ∈ request.price, Carries params "price" price) ∧
      ∀ stopPrice ∈ request.stopPrice, Carries params "stopPrice" stopPrice

section Params

variable {Double : Type} {numerals : Numerals Double} {layout : Layout String}
  {request : NewOrderRequest Double}

theorem buildNewOrderParams_quantity :
    (buildNewOrderParams numerals layout request).find? "quantity" =
      some (numerals.toString request.quantity) := by
  simp [buildNewOrderParams, ite_assign_eq_assignOptional, find?_assignOptional]

theorem buildNewOrderParams_price {price : Double} (priced : request.price = some price) :
    (buildNewOrderParams numerals layout request).find? "price" =
      some (numerals.toString price) := by
  simp [buildNewOrderParams, ite_assign_eq_assignOptional, find?_assignOptional, priced]

theorem buildNewOrderParams_stopPrice {stopPrice : Double}
    (stopped : request.stopPrice = some stopPrice) :
    (buildNewOrderParams numerals layout request).find? "stopPrice" =
      some (numerals.toString stopPrice) := by
  simp [buildNewOrderParams, ite_assign_eq_assignOptional, find?_assignOptional, stopped]

end Params

theorem carries_iff {stod : String → Except NumeralError Nat} {params : Params} {key : String}
    {units : Nat} (written : params.find? key = some ((exactNumerals stod).toString units)) :
    Carries params key units ↔ 100 ∣ units := by
  unfold Carries
  rw [written]
  constructor
  · rintro ⟨text, ⟨⟩, denotes⟩
    exact (readDecimal_rounded_iff (by decide) 2 units).mp denotes
  · intro divisible
    exact ⟨_, rfl, (readDecimal_rounded_iff (by decide) 2 units).mpr divisible⟩

/-- The amounts of an order are sent as they were requested exactly if none of them
has a seventh or eighth fractional digit. -/
theorem amounts_kept_iff (stod : String → Except NumeralError Nat) (layout : Layout String)
    (request : NewOrderRequest Nat) :
    AmountsKept request (buildNewOrderParams (exactNumerals stod) layout request) ↔
      100 ∣ request.quantity ∧ (∀ price ∈ request.price, 100 ∣ price) ∧
        ∀ stopPrice ∈ request.stopPrice, 100 ∣ stopPrice := by
  refine and_congr (carries_iff buildNewOrderParams_quantity) (and_congr ?_ ?_)
  · refine forall₂_congr fun price priced => ?_
    exact carries_iff (buildNewOrderParams_price (Option.mem_def.mp priced))
  · refine forall₂_congr fun stopPrice stopped => ?_
    exact carries_iff (buildNewOrderParams_stopPrice (Option.mem_def.mp stopped))

/-- A limit order at the price 0.00002345. -/
def preciseOrder : NewOrderRequest Nat where
  symbol := "XRPBTC"
  side := .buy
  type := .limit
  timeInForce := .gtc
  quantity := 100000000
  price := some 2345
  clientOrderId := none
  stopPrice := none

/-- Its price is sent as 0.000023. -/
theorem precise_price_rounded :
    (buildNewOrderParams (exactNumerals fun _ => .error .invalidArgument) .keep
        preciseOrder).find? "price" = some "0.000023" ∧
      ¬ AmountsKept preciseOrder (buildNewOrderParams
        (exactNumerals fun _ => .error .invalidArgument) .keep preciseOrder) := by
  have priced : preciseOrder.price = some 2345 := rfl
  constructor
  · exact (buildNewOrderParams_price priced).trans (congrArg some (by decide))
  · rintro ⟨-, prices, -⟩
    have divisible := (carries_iff (buildNewOrderParams_price priced)).mp (prices 2345 priced)
    revert divisible
    decide

end Bintrade.Rest
