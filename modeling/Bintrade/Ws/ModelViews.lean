import Bintrade.Ws.Indexing
import Bintrade.Ws.TradeViews

/-! Klines, orders and books as the REST interface and as the streams render them, and the
decoders of both. Renderings are JSON values with given members, whatever else they hold. -/

namespace Bintrade.Ws

open Bintrade.System Bintrade.Core Bintrade.Models Bintrade.Rest

/-- An object with these members, among any others. -/
def HasMembers (json : Json) (members : List (String × Json)) : Prop :=
  ∀ member ∈ members, json.member? member.1 = some member.2

structure KlineFields where
  openTime : Int
  openPrice : String
  high : String
  low : String
  close : String
  volume : String
  closeTime : Int
  quoteVolume : String
  numTrades : Nat

namespace KlineFields

/-- The row of the REST interface, which may have further columns. -/
def RestRenders (kline : KlineFields) (json : Json) : Prop :=
  ∃ further, json = .array
    (.ofInt kline.openTime :: .string kline.openPrice :: .string kline.high ::
      .string kline.low :: .string kline.close :: .string kline.volume ::
      .ofInt kline.closeTime :: .string kline.quoteVolume :: .unsigned kline.numTrades :: further)

def StreamRenders (kline : KlineFields) (json : Json) : Prop :=
  ∃ inner, json.member? "k" = some inner ∧ HasMembers inner
    [("t", .ofInt kline.openTime), ("T", .ofInt kline.closeTime),
      ("o", .string kline.openPrice), ("h", .string kline.high), ("l", .string kline.low),
      ("c", .string kline.close), ("v", .string kline.volume),
      ("q", .string kline.quoteVolume), ("n", .unsigned kline.numTrades)]

end KlineFields

structure OrderFields where
  symbol : String
  orderId : Nat
  clientOrderId : String
  price : String
  origQty : String
  executedQty : String
  cummulativeQuoteQty : String
  status : String
  type : String
  side : String
  timeInForce : String
  time : Int
  updateTime : Int

namespace OrderFields

def RestRenders (order : OrderFields) (json : Json) : Prop :=
  HasMembers json
    [("symbol", .string order.symbol), ("orderId", .unsigned order.orderId),
      ("clientOrderId", .string order.clientOrderId), ("price", .string order.price),
      ("origQty", .string order.origQty), ("executedQty", .string order.executedQty),
      ("cummulativeQuoteQty", .string order.cummulativeQuoteQty),
      ("status", .string order.status), ("type", .string order.type),
      ("side", .string order.side), ("timeInForce", .string order.timeInForce),
      ("time", .ofInt order.time), ("updateTime", .ofInt order.updateTime)]

/-- The `executionReport` event. -/
def StreamRenders (order : OrderFields) (json : Json) : Prop :=
  HasMembers json
    [("s", .string order.symbol), ("i", .unsigned order.orderId),
      ("c", .string order.clientOrderId), ("p", .string order.price),
      ("q", .string order.origQty), ("z", .string order.executedQty),
      ("Z", .string order.cummulativeQuoteQty), ("X", .string order.status),
      ("o", .string order.type), ("S", .string order.side), ("f", .string order.timeInForce),
      ("O", .ofInt order.time), ("T", .ofInt order.updateTime)]

end OrderFields

structure LevelFields where
  price : String
  quantity : String

/-- A level of either interface, which may have further columns. -/
def LevelFields.Renders (level : LevelFields) (json : Json) : Prop :=
  ∃ further, json = .array (.string level.price :: .string level.quantity :: further)

structure BookFields where
  symbol : String
  lastUpdateId : Nat
  bids : List LevelFields
  asks : List LevelFields

namespace BookFields

/-- The two sides of a book under their keys, level by level. -/
def RendersSides (book : BookFields) (json : Json) (bidKey askKey : String) : Prop :=
  ∃ bids asks, List.Forall₂ LevelFields.Renders book.bids bids ∧
    List.Forall₂ LevelFields.Renders book.asks asks ∧
      HasMembers json [(bidKey, .array bids), (askKey, .array asks)]

/-- The REST interface leaves out the symbol. -/
def RestRenders (book : BookFields) (json : Json) : Prop :=
  HasMembers json [("lastUpdateId", .unsigned book.lastUpdateId)] ∧
    book.RendersSides json "bids" "asks"

def StreamRenders (book : BookFields) (json : Json) : Prop :=
  HasMembers json [("s", .string book.symbol), ("u", .unsigned book.lastUpdateId)] ∧
    book.RendersSides json "b" "a"

end BookFields

section Meaning

variable {Double : Type} (numerals : Numerals Double)

/-- The model that a kline stands for. -/
structure KlineFields.Decodes (kline : KlineFields) (model : Kline Double) : Prop where
  openTime : model.openTime = timestamp (kline.openTime.bmod (2 ^ 64))
  openPrice : numerals.stod kline.openPrice = .ok model.openPrice
  high : numerals.stod kline.high = .ok model.high
  low : numerals.stod kline.low = .ok model.low
  close : numerals.stod kline.close = .ok model.close
  volume : numerals.stod kline.volume = .ok model.volume
  closeTime : model.closeTime = timestamp (kline.closeTime.bmod (2 ^ 64))
  quoteVolume : numerals.stod kline.quoteVolume = .ok model.quoteVolume
  numTrades : model.numTrades = kline.numTrades % 2 ^ 64

structure OrderFields.Decodes (order : OrderFields) (model : Order Double) : Prop where
  symbol : model.symbol = order.symbol
  orderId : model.orderId = order.orderId % 2 ^ 64
  clientOrderId : model.clientOrderId = order.clientOrderId
  price : numerals.stod order.price = .ok model.price
  origQty : numerals.stod order.origQty = .ok model.origQty
  executedQty : numerals.stod order.executedQty = .ok model.executedQty
  cummulativeQuoteQty : numerals.stod order.cummulativeQuoteQty = .ok model.cummulativeQuoteQty
  status : orderStatusFromString order.status = .ok model.status
  type : orderTypeFromString order.type = .ok model.type
  side : sideFromString order.side = .ok model.side
  timeInForce : timeInForceFromString order.timeInForce = .ok model.timeInForce
  time : model.time = timestamp (order.time.bmod (2 ^ 64))
  updateTime : model.updateTime = timestamp (order.updateTime.bmod (2 ^ 64))

structure LevelFields.Decodes (level : LevelFields) (model : OrderBookEntry Double) : Prop where
  price : numerals.stod level.price = .ok model.price
  quantity : numerals.stod level.quantity = .ok model.quantity

/-- Both sides keep their levels, in order. -/
structure BookFields.Decodes (book : BookFields) (model : OrderBook Double) : Prop where
  symbol : model.symbol = book.symbol
  lastUpdateId : model.lastUpdateId = book.lastUpdateId % 2 ^ 64
  bids : List.Forall₂ (LevelFields.Decodes numerals) book.bids model.bids
  asks : List.Forall₂ (LevelFields.Decodes numerals) book.asks model.asks

end Meaning

/-- Both decoders return one model with this meaning, or both throw. -/
def SameModel {α : Type} (decodes : α → Prop) (first second : Except (Fault Exception) α) : Prop :=
  (∃ model, first = .ok model ∧ second = .ok model ∧ decodes model) ∨
    (∃ error, first = .error (.thrown error)) ∧ ∃ error, second = .error (.thrown error)

section Outcomes

variable {α : Type} {decodes : α → Prop} {first second : Except (Fault Exception) α}

theorem thrown_of_not_ok {outcome : Except (Fault Exception) α} (defined : Defined outcome)
    (failed : ∀ model, outcome ≠ .ok model) : ∃ error, outcome = .error (.thrown error) := by
  cases outcome with
  | ok model => exact absurd rfl (failed model)
  | error fault =>
    cases fault with
    | thrown error => exact ⟨error, rfl⟩
    | undefined => exact absurd rfl defined

/-- Two decoders with the same meaning differ in the exception at most. -/
theorem sameModel_of_iff (firstDefined : Defined first) (secondDefined : Defined second)
    (firstDecodes : ∀ model, first = .ok model ↔ decodes model)
    (secondDecodes : ∀ model, second = .ok model ↔ decodes model) :
    SameModel decodes first second := by
  by_cases meaningful : ∃ model, decodes model
  · obtain ⟨model, meant⟩ := meaningful
    exact .inl ⟨model, (firstDecodes model).mpr meant, (secondDecodes model).mpr meant, meant⟩
  · refine .inr ⟨thrown_of_not_ok firstDefined ?_, thrown_of_not_ok secondDefined ?_⟩
    · intro model returned
      exact meaningful ⟨model, (firstDecodes model).mp returned⟩
    · intro model returned
      exact meaningful ⟨model, (secondDecodes model).mp returned⟩

end Outcomes

section Members

variable {Double : Type} {numerals : Numerals Double} {json : Json} {key : String}

theorem text_of_member {value fallback : String}
    (present : json.member? key = some (.string value)) : text json key fallback = .ok value := by
  rw [text, value_of_member present]
  rfl

theorem stod_eq_ok {numeral : String} {value : Double} :
    stod numerals numeral = .ok value ↔ numerals.stod numeral = .ok value := by
  unfold stod throwNumeral
  exact mapError_eq_ok

theorem amount_of_member {numeral : String} {value : Double}
    (present : json.member? key = some (.string numeral)) :
    amount numerals json key = .ok value ↔ numerals.stod numeral = .ok value := by
  rw [amount, text_of_member present]
  exact stod_eq_ok

theorem throwJson_ok {β : Type} (value : β) : throwJson (.ok value) = .ok value := rfl

theorem column_eq_ok {β : Type} {elements : List Json} {position : Nat}
    {read : Json → Except Exception β} {value : β} :
    column (.array elements) position read = .ok value ↔
      ∃ element, elements[position]? = some element ∧ read element = .ok value := by
  by_cases within : position < elements.length
  · rw [column_array_of_lt within, List.getElem?_eq_getElem within]
    simp
  · rw [column_array_of_le (by omega), List.getElem?_eq_none (by omega)]
    simp

theorem amountText_string {numeral : String} {value : Double} :
    amountText numerals (.string numeral) = .ok value ↔ numerals.stod numeral = .ok value :=
  stod_eq_ok

theorem elementTime_ofInt {milliseconds value : Int} :
    elementTime (.ofInt milliseconds) = .ok value ↔
      value = timestamp (milliseconds.bmod (2 ^ 64)) := by
  have read : elementTime (.ofInt milliseconds) =
      .ok (timestamp (milliseconds.bmod (2 ^ 64))) := by
    rw [elementTime, getInt64_ofInt]
    rfl
  rw [read, Except.ok.injEq, eq_comm]

theorem getUInt64_eq_ok {number : Nat} {value : Int} :
    throwJson (Json.unsigned number).getUInt64 = .ok value ↔ value = number % 2 ^ 64 := by
  have read : (Json.unsigned number).getUInt64 = .ok (number % 2 ^ 64) := rfl
  rw [throwJson_eq_ok, read, Except.ok.injEq, eq_comm]

end Members

section Klines

variable {Double : Type} {numerals : Numerals Double} {kline : KlineFields} {json : Json}

theorem defined_parseKline_rendered (rendered : kline.RestRenders json) :
    Defined (parseKline numerals json) := by
  obtain ⟨further, rfl⟩ := rendered
  rw [defined_parseKline]
  simp [RowFits, klineColumns, rowFits]

/-- The conversions of both decoders, in their order. -/
theorem KlineFields.decodes_iff {model : Kline Double} :
    (∃ openPrice, numerals.stod kline.openPrice = .ok openPrice ∧
      ∃ high, numerals.stod kline.high = .ok high ∧
      ∃ low, numerals.stod kline.low = .ok low ∧
      ∃ close, numerals.stod kline.close = .ok close ∧
      ∃ volume, numerals.stod kline.volume = .ok volume ∧
      ∃ quoteVolume, numerals.stod kline.quoteVolume = .ok quoteVolume ∧
        (pure {
          openTime := timestamp (kline.openTime.bmod (2 ^ 64)), openPrice, high, low, close, volume,
          closeTime := timestamp (kline.closeTime.bmod (2 ^ 64)), quoteVolume,
          numTrades := kline.numTrades % 2 ^ 64 } : Except ε (Kline Double)) = .ok model) ↔
      kline.Decodes numerals model := by
  constructor
  · rintro ⟨openPrice, openRead, high, highRead, low, lowRead, close, closeRead, volume,
      volumeRead, quoteVolume, quoteRead, ⟨⟩⟩
    exact ⟨rfl, openRead, highRead, lowRead, closeRead, volumeRead, rfl, quoteRead, rfl⟩
  · intro decoded
    refine ⟨_, decoded.openPrice, _, decoded.high, _, decoded.low, _, decoded.close, _,
      decoded.volume, _, decoded.quoteVolume, ?_⟩
    rw [← decoded.openTime, ← decoded.closeTime, ← decoded.numTrades]
    rfl

theorem parseKline_decodes (rendered : kline.RestRenders json) (model : Kline Double) :
    parseKline numerals json = .ok model ↔ kline.Decodes numerals model := by
  obtain ⟨further, rfl⟩ := rendered
  simp only [parseKline, bind_eq_ok, column_eq_ok, List.getElem?_cons_zero,
    List.getElem?_cons_succ, Option.some.injEq, exists_eq_left', amountText_string,
    elementTime_ofInt, getUInt64_eq_ok, exists_eq_left]
  exact KlineFields.decodes_iff

theorem parseKlineStream_decodes (rendered : kline.StreamRenders json) (model : Kline Double) :
    parseKlineStream numerals json = .ok model ↔ kline.Decodes numerals model := by
  obtain ⟨inner, present, members⟩ := rendered
  simp only [HasMembers, List.forall_mem_cons] at members
  obtain ⟨openTime, closeTime, openPrice, high, low, close, volume, quoteVolume, numTrades, -⟩ :=
    members
  have found : json.atKey "k" = .ok inner := by
    cases json with
    | object members => simp only [Json.atKey, present]
    | _ => cases present
  simp only [parseKlineStream, count, bind_eq_ok, found, throwJson_ok, Except.ok.injEq,
    exists_eq_left', exists_eq_left, time_of_member openTime, time_of_member closeTime,
    value_of_member numTrades, getUInt64_eq_ok, amount_of_member openPrice,
    amount_of_member high, amount_of_member low, amount_of_member close, amount_of_member volume,
    amount_of_member quoteVolume]
  exact KlineFields.decodes_iff

end Klines

section Orders

variable {Double : Type} {numerals : Numerals Double} {order : OrderFields} {json : Json}

theorem parseOrder_decodes (rendered : order.RestRenders json) (model : Order Double) :
    parseOrder numerals json = .ok model ↔ order.Decodes numerals model := by
  simp only [OrderFields.RestRenders, HasMembers, List.forall_mem_cons] at rendered
  obtain ⟨symbol, orderId, clientOrderId, price, origQty, executedQty, cummulativeQuoteQty, status,
    type, side, timeInForce, time, updateTime, -⟩ := rendered
  simp only [parseOrder, count, bind_eq_ok, text_of_member symbol, value_of_member orderId,
    text_of_member clientOrderId, amount_of_member price, amount_of_member origQty,
    amount_of_member executedQty, amount_of_member cummulativeQuoteQty, text_of_member status,
    text_of_member type, text_of_member side, text_of_member timeInForce, time_of_member time,
    time_of_member updateTime, getUInt64_eq_ok, Except.ok.injEq, exists_eq_left', exists_eq_left]
  constructor
  · rintro ⟨price, priceRead, origQty, origRead, executedQty, executedRead, cummulative,
      cummulativeRead, status, statusRead, type, typeRead, side, sideRead, timeInForce,
      timeInForceRead, ⟨⟩⟩
    exact ⟨rfl, rfl, rfl, priceRead, origRead, executedRead, cummulativeRead, statusRead, typeRead,
      sideRead, timeInForceRead, rfl, rfl⟩
  · intro decoded
    refine ⟨_, decoded.price, _, decoded.origQty, _, decoded.executedQty, _,
      decoded.cummulativeQuoteQty, _, decoded.status, _, decoded.type, _, decoded.side, _,
      decoded.timeInForce, ?_⟩
    rw [← decoded.symbol, ← decoded.orderId, ← decoded.clientOrderId, ← decoded.time,
      ← decoded.updateTime]
    rfl

theorem parseOrderUpdate_decodes (rendered : order.StreamRenders json) (model : Order Double) :
    parseOrderUpdate numerals json = .ok model ↔ order.Decodes numerals model := by
  simp only [OrderFields.StreamRenders, HasMembers, List.forall_mem_cons] at rendered
  obtain ⟨symbol, orderId, clientOrderId, price, origQty, executedQty, cummulativeQuoteQty, status,
    type, side, timeInForce, time, updateTime, -⟩ := rendered
  simp only [parseOrderUpdate, count, bind_eq_ok, text_of_member symbol,
    value_of_member orderId, text_of_member clientOrderId, amount_of_member price,
    amount_of_member origQty, amount_of_member executedQty, amount_of_member cummulativeQuoteQty,
    text_of_member status, text_of_member type, text_of_member side, text_of_member timeInForce,
    time_of_member time, time_of_member updateTime, getUInt64_eq_ok, Except.ok.injEq,
    exists_eq_left', exists_eq_left]
  constructor
  · rintro ⟨side, sideRead, type, typeRead, timeInForce, timeInForceRead, origQty, origRead, price,
      priceRead, executedQty, executedRead, cummulative, cummulativeRead, status, statusRead, ⟨⟩⟩
    exact ⟨rfl, rfl, rfl, priceRead, origRead, executedRead, cummulativeRead, statusRead, typeRead,
      sideRead, timeInForceRead, rfl, rfl⟩
  · intro decoded
    refine ⟨_, decoded.side, _, decoded.type, _, decoded.timeInForce, _, decoded.origQty, _,
      decoded.price, _, decoded.executedQty, _, decoded.cummulativeQuoteQty, _, decoded.status, ?_⟩
    rw [← decoded.symbol, ← decoded.orderId, ← decoded.clientOrderId, ← decoded.time,
      ← decoded.updateTime]
    rfl

end Orders

section Books

variable {Double : Type} {numerals : Numerals Double} {level : LevelFields} {book : BookFields}
  {json : Json} {key : String}

theorem defined_rendered_level (rendered : level.Renders json) :
    Defined (parseOrderBookEntry numerals json) := by
  obtain ⟨further, rfl⟩ := rendered
  rw [defined_parseOrderBookEntry]
  simp [RowFits, levelColumns, rowFits]

theorem parseOrderBookEntry_decodes (rendered : level.Renders json)
    (model : OrderBookEntry Double) :
    parseOrderBookEntry numerals json = .ok model ↔ level.Decodes numerals model := by
  obtain ⟨further, rfl⟩ := rendered
  simp only [parseOrderBookEntry, bind_eq_ok, column_eq_ok, List.getElem?_cons_zero,
    List.getElem?_cons_succ, Option.some.injEq, exists_eq_left', amountText_string]
  constructor
  · rintro ⟨price, priceRead, quantity, quantityRead, ⟨⟩⟩
    exact ⟨priceRead, quantityRead⟩
  · intro decoded
    exact ⟨_, decoded.price, _, decoded.quantity, rfl⟩

theorem listAt_of_member {elements : List Json}
    (present : json.member? key = some (.array elements)) : listAt json key = .ok elements := by
  cases json with
  | object members =>
    simp only [listAt, Json.subscript, present]
    rfl
  | _ => cases present

theorem contains_of_member {found : Json} (present : json.member? key = some found) :
    json.contains key = true := by
  rw [Json.contains, present]
  rfl

theorem parseLevels_of_member {elements : List Json}
    (present : json.member? key = some (.array elements)) :
    parseLevels numerals json key = elements.mapM (parseOrderBookEntry numerals) := by
  rw [parseLevels, if_pos (contains_of_member present), listAt_of_member present]
  rfl

theorem BookFields.decodes_iff {symbol : String} {bids asks : List Json}
    (bidsRendered : List.Forall₂ LevelFields.Renders book.bids bids)
    (asksRendered : List.Forall₂ LevelFields.Renders book.asks asks)
    (same : symbol = book.symbol) {model : OrderBook Double} :
    (∃ bidLevels, bids.mapM (parseOrderBookEntry numerals) = .ok bidLevels ∧
      ∃ askLevels, asks.mapM (parseOrderBookEntry numerals) = .ok askLevels ∧
        (pure {
          symbol, lastUpdateId := book.lastUpdateId % 2 ^ 64, bids := bidLevels,
          asks := askLevels } : Except (Fault Exception) (OrderBook Double)) = .ok model) ↔
      book.Decodes numerals model := by
  simp only [mapM_eq_ok bidsRendered fun _ _ => parseOrderBookEntry_decodes,
    mapM_eq_ok asksRendered fun _ _ => parseOrderBookEntry_decodes]
  constructor
  · rintro ⟨bidLevels, bidsDecoded, askLevels, asksDecoded, ⟨⟩⟩
    exact ⟨same, rfl, bidsDecoded, asksDecoded⟩
  · intro decoded
    refine ⟨_, decoded.bids, _, decoded.asks, ?_⟩
    rw [same, ← decoded.symbol, ← decoded.lastUpdateId]
    rfl

theorem parseOrderBook_decodes (rendered : book.RestRenders json) (model : OrderBook Double) :
    parseOrderBook numerals book.symbol json = .ok model ↔ book.Decodes numerals model := by
  obtain ⟨header, bids, asks, bidsRendered, asksRendered, sides⟩ := rendered
  simp only [HasMembers, List.forall_mem_cons] at header sides
  obtain ⟨bidsPresent, asksPresent, -⟩ := sides
  simp only [parseOrderBook, count, bind_eq_ok, throws_eq_ok, value_of_member header.1,
    getUInt64_eq_ok, exists_eq_left, listAt_of_member bidsPresent, listAt_of_member asksPresent,
    Except.ok.injEq, exists_eq_left']
  exact BookFields.decodes_iff bidsRendered asksRendered rfl

theorem parseDepthStream_decodes (rendered : book.StreamRenders json) (model : OrderBook Double) :
    parseDepthStream numerals json = .ok model ↔ book.Decodes numerals model := by
  obtain ⟨header, bids, asks, bidsRendered, asksRendered, sides⟩ := rendered
  simp only [HasMembers, List.forall_mem_cons] at header sides
  obtain ⟨symbol, updateId, -⟩ := header
  obtain ⟨bidsPresent, asksPresent, -⟩ := sides
  simp only [parseDepthStream, count, bind_eq_ok, throws_eq_ok, text_of_member symbol,
    value_of_member updateId, getUInt64_eq_ok, exists_eq_left, parseLevels_of_member bidsPresent,
    parseLevels_of_member asksPresent, Except.ok.injEq, exists_eq_left']
  exact BookFields.decodes_iff bidsRendered asksRendered rfl

theorem defined_rendered_book (rendered : book.RestRenders json) (symbol : String) :
    Defined (parseOrderBook numerals symbol json) := by
  obtain ⟨-, bids, asks, bidsRendered, asksRendered, sides⟩ := rendered
  simp only [HasMembers, List.forall_mem_cons] at sides
  obtain ⟨bidsPresent, asksPresent, -⟩ := sides
  simp only [parseOrderBook, listAt_of_member bidsPresent, listAt_of_member asksPresent,
    ok_bind, defined_throws_bind]
  intro updateId _
  refine (defined_bind _ _).mpr
    ⟨defined_mapM bidsRendered fun _ _ => defined_rendered_level, ?_⟩
  intro bidLevels _
  refine (defined_bind _ _).mpr
    ⟨defined_mapM asksRendered fun _ _ => defined_rendered_level, ?_⟩
  intro askLevels _
  exact defined_pure _

theorem defined_rendered_depth (rendered : book.StreamRenders json) :
    Defined (parseDepthStream numerals json) := by
  obtain ⟨-, bids, asks, bidsRendered, asksRendered, sides⟩ := rendered
  simp only [HasMembers, List.forall_mem_cons] at sides
  obtain ⟨bidsPresent, asksPresent, -⟩ := sides
  simp only [parseDepthStream, parseLevels_of_member bidsPresent,
    parseLevels_of_member asksPresent, defined_throws_bind]
  intro symbol _ updateId _
  refine (defined_bind _ _).mpr
    ⟨defined_mapM bidsRendered fun _ _ => defined_rendered_level, ?_⟩
  intro bidLevels _
  refine (defined_bind _ _).mpr
    ⟨defined_mapM asksRendered fun _ _ => defined_rendered_level, ?_⟩
  intro askLevels _
  exact defined_pure _

end Books

/-- For any fields, the decoders of the REST interface and of the streams return the same
model of a kline, of an order and of a book, or both throw. The times of the models are the
milliseconds of the fields in nanoseconds for those that fit, within 9223372036854
milliseconds of the epoch; beyond them the conversion of both decoders overflows. -/
theorem model_views_agree {Double : Type} (numerals : Numerals Double) :
    (∀ (kline : KlineFields) (rest stream : Json),
        kline.RestRenders rest → kline.StreamRenders stream →
        SameModel (kline.Decodes numerals) (parseKline numerals rest)
          (throws (parseKlineStream numerals stream))) ∧
      (∀ (order : OrderFields) (rest stream : Json),
        order.RestRenders rest → order.StreamRenders stream →
        SameModel (order.Decodes numerals) (throws (parseOrder numerals rest))
          (throws (parseOrderUpdate numerals stream))) ∧
      (∀ (book : BookFields) (rest stream : Json),
        book.RestRenders rest → book.StreamRenders stream →
        SameModel (book.Decodes numerals) (parseOrderBook numerals book.symbol rest)
          (parseDepthStream numerals stream)) ∧
      (∀ milliseconds : Int, timestamp milliseconds = milliseconds * 1000000 ↔
        -9223372036854 ≤ milliseconds ∧ milliseconds ≤ 9223372036854) := by
  refine ⟨?_, ?_, ?_, timestamp_exact_iff⟩
  · intro kline rest stream restRendered streamRendered
    apply sameModel_of_iff (defined_parseKline_rendered restRendered) (defined_throws _)
    · exact parseKline_decodes restRendered
    · intro model
      rw [throws_eq_ok, parseKlineStream_decodes streamRendered]
  · intro order rest stream restRendered streamRendered
    apply sameModel_of_iff (defined_throws _) (defined_throws _)
    · intro model
      rw [throws_eq_ok, parseOrder_decodes restRendered]
    · intro model
      rw [throws_eq_ok, parseOrderUpdate_decodes streamRendered]
  · intro book rest stream restRendered streamRendered
    apply sameModel_of_iff (defined_rendered_book restRendered book.symbol)
      (defined_rendered_depth streamRendered)
    · exact parseOrderBook_decodes restRendered
    · exact parseDepthStream_decodes streamRendered

/-- A snapshot of a book with one level on each side. -/
def snapshot : Json :=
  .object [("lastUpdateId", .unsigned 160),
    ("bids", .array [.array [.string "4", .string "12"]]),
    ("asks", .array [.array [.string "12", .string "4"]])]

/-- The same levels as a diff, with a first update id. -/
def depthUpdate : Json :=
  .object [("e", .string "depthUpdate"), ("s", .string "BNBBTC"), ("U", .unsigned 157),
    ("u", .unsigned 160), ("b", .array [.array [.string "4", .string "12"]]),
    ("a", .array [.array [.string "12", .string "4"]])]

def klineRow : Json :=
  .array [.unsigned 5, .string "4", .string "12", .string "4", .string "4", .string "12",
    .unsigned 6, .string "4", .unsigned 7]

def klineEvent : Json :=
  .object [("e", .string "kline"), ("k", .object [("t", .unsigned 5), ("T", .unsigned 6),
    ("o", .string "4"), ("h", .string "12"), ("l", .string "4"), ("c", .string "4"),
    ("v", .string "12"), ("q", .string "4"), ("n", .unsigned 7), ("x", .boolean false)])]

def restOrder : Json :=
  .object [("symbol", .string "BNBBTC"), ("orderId", .unsigned 28), ("clientOrderId", .string "x"),
    ("price", .string "4"), ("origQty", .string "12"), ("executedQty", .string "4"),
    ("cummulativeQuoteQty", .string "4"), ("status", .string "NEW"), ("type", .string "LIMIT"),
    ("side", .string "SELL"), ("timeInForce", .string "GTC"), ("time", .unsigned 5),
    ("updateTime", .unsigned 6)]

def executionReport : Json :=
  .object [("e", .string "executionReport"), ("s", .string "BNBBTC"), ("c", .string "x"),
    ("S", .string "SELL"), ("o", .string "LIMIT"), ("f", .string "GTC"), ("q", .string "12"),
    ("p", .string "4"), ("X", .string "NEW"), ("i", .unsigned 28), ("z", .string "4"),
    ("Z", .string "4"), ("O", .unsigned 5), ("T", .unsigned 6)]

/-- A kline, an order and a book in both renderings. -/
theorem model_views_agree_rendered :
    SameModel (KlineFields.Decodes fewNumbers ⟨5, "4", "12", "4", "4", "12", 6, "4", 7⟩)
        (parseKline fewNumbers klineRow) (throws (parseKlineStream fewNumbers klineEvent)) ∧
      SameModel (OrderFields.Decodes fewNumbers
          ⟨"BNBBTC", 28, "x", "4", "12", "4", "4", "NEW", "LIMIT", "SELL", "GTC", 5, 6⟩)
        (throws (parseOrder fewNumbers restOrder))
        (throws (parseOrderUpdate fewNumbers executionReport)) ∧
      SameModel (BookFields.Decodes fewNumbers ⟨"BNBBTC", 160, [⟨"4", "12"⟩], [⟨"12", "4"⟩]⟩)
        (parseOrderBook fewNumbers "BNBBTC" snapshot)
        (parseDepthStream fewNumbers depthUpdate) := by
  obtain ⟨klines, orders, books, -⟩ := model_views_agree fewNumbers
  refine ⟨?_, ?_, ?_⟩
  · apply klines
    · exact ⟨[], rfl⟩
    · exact ⟨_, rfl, by simp [HasMembers, Json.member?, Json.ofInt]⟩
  · apply orders
    · simp [OrderFields.RestRenders, HasMembers, restOrder, Json.member?, Json.ofInt]
    · simp [OrderFields.StreamRenders, HasMembers, executionReport, Json.member?, Json.ofInt]
  · have bids : List.Forall₂ LevelFields.Renders [⟨"4", "12"⟩]
        [.array [.string "4", .string "12"]] := .cons ⟨[], rfl⟩ .nil
    have asks : List.Forall₂ LevelFields.Renders [⟨"12", "4"⟩]
        [.array [.string "12", .string "4"]] := .cons ⟨[], rfl⟩ .nil
    apply books ⟨"BNBBTC", 160, [⟨"4", "12"⟩], [⟨"12", "4"⟩]⟩
    · exact ⟨by simp [HasMembers, snapshot, Json.member?], _, _, bids, asks,
        by simp [HasMembers, snapshot, Json.member?]⟩
    · exact ⟨by simp [HasMembers, depthUpdate, Json.member?], _, _, bids, asks,
        by simp [HasMembers, depthUpdate, Json.member?]⟩

end Bintrade.Ws
