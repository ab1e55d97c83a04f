import Bintrade.Rest.Client

/-! Placing and cancelling an order. -/

namespace Bintrade.Rest

open Bintrade.System Bintrade.Core Bintrade.Auth Bintrade.Models

variable {Double : Type} (services : Services) (numerals : Numerals Double)

/-- `params[key] = value` for an optional value. -/
def assignOptional (layout : Layout String) (params : Params) (key : String) :
    Option String → Params
  | some value => params.assign layout key value
  | none => params

def buildNewOrderParams (layout : Layout String) (request : NewOrderRequest Double) : Params :=
  let params : Params := UnorderedMap.empty
  let params := params.assign layout "symbol" request.symbol
  let params := params.assign layout "side" request.side.toString
  let params := params.assign layout "type" request.type.toString
  let params := params.assign layout "quantity" (numerals.toString request.quantity)
  let params :=
    if request.timeInForce ≠ .gtc ∨ request.type = .limit then
      params.assign layout "timeInForce" request.timeInForce.toString
    else params
  let params := assignOptional layout params "price" (request.price.map numerals.toString)
  let params := assignOptional layout params "newClientOrderId" request.clientOrderId
  assignOptional layout params "stopPrice" (request.stopPrice.map numerals.toString)

def buildCancelParams (layout : Layout String) (request : CancelOrderRequest) : Params :=
  let params : Params := UnorderedMap.empty
  let params := params.assign layout "symbol" request.symbol
  let params := assignOptional layout params "orderId" (request.orderId.map toString)
  assignOptional layout params "origClientOrderId" request.clientOrderId

/-- The body that a signed method returned is parsed as one of status 200. -/
def readOrder (body : String) : Except Exception (Order Double) := do
  let json ← parseResponse services.parse 200 body
  parseOrder numerals json

def newOrder (client : Client) (request : NewOrderRequest Double) :
    Except Exception (Order Double) × Client :=
  let (body, client) := signedPost services client "/api/v3/order"
    (buildNewOrderParams numerals services.layouts.filled request)
  (body >>= readOrder services numerals, client)

def asyncNewOrder (client : Client) (request : NewOrderRequest Double) :
    Except Exception (Order Double) × Client :=
  let (body, client) := asyncSignedPost services client "/api/v3/order"
    (buildNewOrderParams numerals services.layouts.filled request)
  (body >>= readOrder services numerals, client)

def cancelOrder (client : Client) (request : CancelOrderRequest) :
    Except Exception (Order Double) × Client :=
  let (body, client) := signedDelete services client "/api/v3/order"
    (buildCancelParams services.layouts.filled request)
  (body >>= readOrder services numerals, client)

def asyncCancelOrder (client : Client) (request : CancelOrderRequest) :
    Except Exception (Order Double) × Client :=
  let (body, client) := asyncSignedDelete services client "/api/v3/order"
    (buildCancelParams services.layouts.filled request)
  (body >>= readOrder services numerals, client)

section Params

variable {layout : Layout String} {params : Params} {key other : String} {value : Option String}

/-- An assignment under a condition is one of an optional value. -/
theorem ite_assign_eq_assignOptional {condition : Prop} [Decidable condition] {text : String} :
    (if condition then params.assign layout key text else params) =
      assignOptional layout params key (if condition then some text else none) := by
  split
  · rfl
  · rfl

theorem find?_assignOptional :
    (assignOptional layout params key value).find? other =
      if other = key then value.or (params.find? other) else params.find? other := by
  cases value with
  | none => simp [assignOptional]
  | some value => simp [assignOptional]

theorem mem_order_assignOptional :
    other ∈ (assignOptional layout params key value).order ↔
      other = key ∧ value.isSome ∨ other ∈ params.order := by
  cases value with
  | none => simp [assignOptional]
  | some value => simp [assignOptional]

theorem forall_entries_assignOptional {property : String × String → Prop}
    (absent : key ∉ params.order) :
    (∀ entry ∈ (assignOptional layout params key value).entries, property entry) ↔
      (∀ text ∈ value, property (key, text)) ∧ ∀ entry ∈ params.entries, property entry := by
  cases value with
  | none => simp [assignOptional]
  | some value =>
    refine (UnorderedMap.forall_entries_assign absent).trans (and_congr_left' ?_)
    simp

end Params

end Bintrade.Rest
