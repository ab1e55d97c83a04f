import Bintrade.System.Decimal
import Bintrade.System.KeyedList
import Bintrade.Rest.ParameterIntegrity

/-! What the exchange makes of an order. It reads the parameters by name, in whatever order
they come, with the names of the enumerations that the library itself uses. -/

namespace Bintrade.Rest

open Bintrade.System Bintrade.System.Http Bintrade.Core Bintrade.Auth Bintrade.Models

/-- A request whose amounts are the texts that are sent for them. -/
def orderTexts {Double : Type} (numerals : Numerals Double)
    (request : NewOrderRequest Double) : NewOrderRequest String where
  symbol := request.symbol
  side := request.side
  type := request.type
  timeInForce := request.timeInForce
  quantity := numerals.toString request.quantity
  price := request.price.map numerals.toString
  clientOrderId := request.clientOrderId
  stopPrice := request.stopPrice.map numerals.toString

/-- The order that a list of parameters denotes. An order without `timeInForce` is good till
it is canceled. -/
def readNewOrder (pairs : List (String × String)) : Option (NewOrderRequest String) := do
  let symbol ← valueOf "symbol" pairs
  let side ← valueOf "side" pairs
  let type ← valueOf "type" pairs
  let quantity ← valueOf "quantity" pairs
  pure {
    symbol := symbol
    side := ← (sideFromString side).toOption
    type := ← (orderTypeFromString type).toOption
    timeInForce := ←
      (timeInForceFromString ((valueOf "timeInForce" pairs).getD "GTC")).toOption
    quantity := quantity
    price := valueOf "price" pairs
    clientOrderId := valueOf "newClientOrderId" pairs
    stopPrice := valueOf "stopPrice" pairs }

/-- The cancellation that a list of parameters denotes. -/
def readCancellation (pairs : List (String × String)) : Option CancelOrderRequest := do
  let symbol ← valueOf "symbol" pairs
  pure {
    symbol := symbol
    orderId := ← match valueOf "orderId" pairs with
      | some text => (readNumber text).map some
      | none => some none
    clientOrderId := valueOf "origClientOrderId" pairs }

section Names

@[simp]
theorem sideFromString_toString (side : Side) : sideFromString side.toString = .ok side := by
  cases side <;> rfl

@[simp]
theorem orderTypeFromString_toString (type : Core.OrderType) :
    orderTypeFromString type.toString = .ok type := by
  cases type <;> rfl

@[simp]
theorem timeInForceFromString_toString (timeInForce : TimeInForce) :
    timeInForceFromString timeInForce.toString = .ok timeInForce := by
  cases timeInForce <;> rfl

end Names

section Entries

variable {params : Params} {key : String} {pairs added : List (String × String)}

theorem keys_entries (params : Params) : params.entries.map Prod.fst = params.order := by
  simp [UnorderedMap.entries, Function.comp_def]

@[simp]
theorem find?_empty (key : String) : (UnorderedMap.empty : Params).find? key = none := rfl

theorem valueOf_entries (params : Params) (key : String) :
    valueOf key params.entries = params.find? key := by
  apply Option.ext
  intro value
  rw [valueOf_eq_some_iff (by rw [keys_entries]; exact params.distinct)]
  unfold UnorderedMap.entries UnorderedMap.find?
  constructor
  · intro member
    obtain ⟨name, present, same⟩ := List.mem_map.mp member
    cases same
    exact if_pos present
  · intro found
    split at found
    · rename_i present
      cases found
      exact List.mem_map.mpr ⟨key, present, rfl⟩
    · cases found

/-- A parameter of the caller is read from what is sent with it. -/
theorem valueOf_decoded (decoded : pairs.Perm (params.entries ++ added))
    (addedDistinct : (added.map Prod.fst).Nodup)
    (fresh : ∀ entry ∈ added, entry.1 ∉ params.order) (other : ∀ entry ∈ added, entry.1 ≠ key) :
    valueOf key pairs = params.find? key := by
  have distinct : ((params.entries ++ added).map Prod.fst).Nodup := by
    rw [List.map_append, keys_entries]
    refine params.distinct.append addedDistinct ?_
    intro name present member
    obtain ⟨entry, own, rfl⟩ := List.mem_map.mp member
    exact fresh entry own present
  have unnamed : added.find? (fun pair => pair.1 = key) = none := by
    simpa using other
  rw [valueOf_perm distinct decoded, ← valueOf_entries]
  simp [valueOf, List.find?_append, unnamed]

end Entries

section Orders

variable {Double : Type} {numerals : Numerals Double} {services : Services}
  {credentials : Credentials} {limits : RateLimits} {path : String}

theorem added_distinct (call : Call) (params : Params) :
    ((call.added services credentials params).map Prod.fst).Nodup := by
  cases call with
  | publicGet | asyncPublicGet => exact List.nodup_nil
  | signed method =>
    simp only [Call.added, List.map_cons, List.map_nil]
    decide

theorem added_other {call : Call} {params : Params} {key : String} (unstamped : key ≠ "timestamp")
    (unsigned : key ≠ "signature") :
    ∀ entry ∈ call.added services credentials params, entry.1 ≠ key := by
  cases call with
  | publicGet | asyncPublicGet => nofun
  | signed method => simp [Call.added, unstamped.symm, unsigned.symm]

/-- A faithful request shows its parameters under their names. -/
theorem valueOf_faithful {call : Call} {params : Params} (reachable : IsTarget path)
    (faithful : call.Faithful services credentials limits path params) :
    ∃ sent payload, call.request services credentials limits path params = .ok sent ∧
      sent.payload path = some payload ∧
        ∀ key, key ≠ "timestamp" → key ≠ "signature" →
          valueOf key (decodeForm payload) = params.find? key := by
  have fresh := ((faithful_iff reachable call).mp faithful).2
  obtain ⟨sent, payload, built, found, decoded⟩ := faithful
  refine ⟨sent, payload, built, found, ?_⟩
  intro key unstamped unsigned
  exact valueOf_decoded decoded (added_distinct call params) fresh
    (added_other unstamped unsigned)

/-- The rule for `timeInForce` leaves out only what is the default. -/
theorem timeInForce_restored (request : NewOrderRequest Double) :
    timeInForceFromString ((if request.timeInForce ≠ .gtc ∨ request.type = .limit then
      some request.timeInForce.toString else none).getD "GTC") = .ok request.timeInForce := by
  split
  · exact timeInForceFromString_toString _
  · rename_i omitted
    have default : request.timeInForce = .gtc := by
      by_cases same : request.timeInForce = .gtc
      · exact same
      · exact absurd (.inl same) omitted
    rw [default]
    rfl

theorem readNewOrder_of_valueOf {layout : Layout String} {request : NewOrderRequest Double}
    {pairs : List (String × String)}
    (shown : ∀ key, key ≠ "timestamp" → key ≠ "signature" →
      valueOf key pairs = (buildNewOrderParams numerals layout request).find? key) :
    readNewOrder pairs = some (orderTexts numerals request) := by
  have restored := timeInForce_restored request
  unfold readNewOrder
  simp (disch := decide) only [shown]
  simp only [buildNewOrderParams, ite_assign_eq_assignOptional, find?_assignOptional,
    UnorderedMap.find?_assign, find?_empty, String.reduceEq, if_true, if_false,
    Option.or_none, Option.bind_eq_bind, Option.bind_some, sideFromString_toString,
    orderTypeFromString_toString, restored]
  rfl

theorem readCancellation_of_valueOf {layout : Layout String} {request : CancelOrderRequest}
    {pairs : List (String × String)}
    (shown : ∀ key, key ≠ "timestamp" → key ≠ "signature" →
      valueOf key pairs = (buildCancelParams layout request).find? key) :
    readCancellation pairs = some request := by
  obtain ⟨symbol, orderId, clientOrderId⟩ := request
  unfold readCancellation
  simp (disch := decide) only [shown]
  simp only [buildCancelParams, find?_assignOptional, UnorderedMap.find?_assign, find?_empty,
    String.reduceEq, if_true, if_false, Option.or_none, Option.bind_eq_bind, Option.bind_some]
  cases orderId with
  | none => rfl
  | some number =>
    simp only [Option.map_some, readNumber_toString, Option.bind_some]
    rfl

end Orders

/-- The exchange reads back every order whose texts the call lets it read, with its amounts as
they were written, and every such cancellation, whatever the iteration order of the parameter
maps, the clock, the credentials and the method. -/
theorem orders_read_back {Double : Type} (numerals : Numerals Double) (services : Services)
    (credentials : Credentials) (limits : RateLimits) (path : String) (reachable : IsTarget path)
    (call : Call) :
    (∀ request : NewOrderRequest Double, OrderTexts call.Reads numerals request →
      ∃ sent payload, call.request services credentials limits path
          (buildNewOrderParams numerals services.layouts.filled request) = .ok sent ∧
        sent.payload path = some payload ∧
          readNewOrder (decodeForm payload) = some (orderTexts numerals request)) ∧
    ∀ request : CancelOrderRequest, CancellationTexts call.Reads request →
      ∃ sent payload, call.request services credentials limits path
          (buildCancelParams services.layouts.filled request) = .ok sent ∧
        sent.payload path = some payload ∧
          readCancellation (decodeForm payload) = some request := by
  constructor
  · intro request reads
    obtain ⟨sent, payload, built, found, shown⟩ :=
      valueOf_faithful reachable ((faithful_newOrder_iff reachable call request).mpr reads)
    exact ⟨sent, payload, built, found, readNewOrder_of_valueOf shown⟩
  · intro request reads
    obtain ⟨sent, payload, built, found, shown⟩ :=
      valueOf_faithful reachable ((faithful_cancellation_iff reachable call request).mpr reads)
    exact ⟨sent, payload, built, found, readCancellation_of_valueOf shown⟩

/-- A market order, for which no `timeInForce` is sent. -/
def marketOrder : NewOrderRequest Nat where
  symbol := "BTCUSDT"
  side := .sell
  type := .market
  timeInForce := .gtc
  quantity := 2
  price := none
  clientOrderId := some "my-order"
  stopPrice := none

/-- Maps that turn their order round at every insertion change nothing, neither for an order
in a body nor for a cancellation in a request line. -/
theorem orders_read_back_market :
    let services := offline ⟨.reverse, .reverse, .reverse, .reverse⟩ 1
    let numerals : Numerals Nat := ⟨fun _ => .error .invalidArgument, toString⟩
    let cancellation : CancelOrderRequest := ⟨"BTCUSDT", some 7, some "my-order"⟩
    (∃ sent payload, (Call.signed .post).request services ⟨some ("key", "secret")⟩ ⟨0, 0, 0⟩
          "/api/v3/order" (buildNewOrderParams numerals .reverse marketOrder) = .ok sent ∧
        sent.payload "/api/v3/order" = some payload ∧ readNewOrder (decodeForm payload) =
          some ⟨"BTCUSDT", .sell, .market, .gtc, "2", none, some "my-order", none⟩) ∧
      ∃ sent payload, (Call.signed .delete).request services ⟨some ("key", "secret")⟩ ⟨0, 0, 0⟩
          "/api/v3/order" (buildCancelParams .reverse cancellation) = .ok sent ∧
        sent.payload "/api/v3/order" = some payload ∧
          readCancellation (decodeForm payload) = some cancellation := by
  intro services numerals cancellation
  have read (call : Call) := orders_read_back numerals services ⟨some ("key", "secret")⟩ ⟨0, 0, 0⟩
    "/api/v3/order" (by decide) call
  refine ⟨(read (.signed .post)).1 marketOrder ?_, (read (.signed .delete)).2 cancellation ?_⟩
  · refine ⟨⟨by decide, nofun⟩, ?_, ⟨by decide, nofun⟩, nofun, nofun⟩
    rintro id ⟨⟩
    exact ⟨by decide, nofun⟩
  · refine ⟨⟨by decide, fun _ => by decide⟩, ?_⟩
    rintro id ⟨⟩
    exact ⟨by decide, fun _ => by decide⟩

end Bintrade.Rest
