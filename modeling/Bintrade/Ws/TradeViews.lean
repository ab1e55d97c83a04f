import Bintrade.Ws.StreamParse

/-! A public trade as the REST interface and as the trade stream render it, and the two
decoders. Both renderings carry one flag, whether the buyer is the maker. -/

namespace Bintrade.Ws

open Bintrade.System Bintrade.Core Bintrade.Models Bintrade.Rest

/-- A trade with its amounts as texts. -/
structure PublicTrade where
  id : Nat
  price : String
  qty : String
  quoteQty : String
  time : Int
  buyerIsMaker : Bool

def PublicTrade.restRendering (trade : PublicTrade) : Json :=
  .object [("id", .unsigned trade.id), ("price", .string trade.price), ("qty", .string trade.qty),
    ("quoteQty", .string trade.quoteQty), ("time", .ofInt trade.time),
    ("isBuyerMaker", .boolean trade.buyerIsMaker)]

def PublicTrade.streamRendering (trade : PublicTrade) : Json :=
  .object [("t", .unsigned trade.id), ("p", .string trade.price), ("q", .string trade.qty),
    ("T", .ofInt trade.time), ("m", .boolean trade.buyerIsMaker)]

section Members

variable {json : Json} {key : String}

theorem value_of_member {β : Type} {get : Json → Except JsonError β} {fallback : β} {found : Json}
    (present : json.member? key = some found) : json.value get key fallback = get found := by
  cases json with
  | object members => simp only [Json.value, present]
  | _ => cases present

theorem getInt64_ofInt (value : Int) : (Json.ofInt value).getInt64 = .ok (value.bmod (2 ^ 64)) := by
  cases value with
  | ofNat value => rfl
  | negSucc value => rfl

theorem time_of_member {milliseconds : Int}
    (present : json.member? key = some (.ofInt milliseconds)) :
    time json key = .ok (timestamp (milliseconds.bmod (2 ^ 64))) := by
  rw [time, value_of_member present, getInt64_ofInt]
  rfl

end Members

section Views

variable {Double : Type} {numerals : Numerals Double} {trade : PublicTrade}

/-- The two decoded trades are the same for whoever uses them. -/
def Agree (first second : Trade Double) : Prop :=
  first.id = second.id ∧ first.price = second.price ∧ first.qty = second.qty ∧
    first.time = second.time ∧ first.isBuyer = second.isBuyer ∧ first.isMaker = second.isMaker

/-- Both decoders return trades that agree, or both throw. -/
def SameView (first second : Except Exception (Trade Double)) : Prop :=
  (∃ left right, first = .ok left ∧ second = .ok right ∧ Agree left right) ∨
    (∃ error, first = .error error) ∧ ∃ error, second = .error error

theorem parseTrade_restRendering :
    parseTrade numerals trade.restRendering = (do
      let price ← stod numerals trade.price
      let qty ← stod numerals trade.qty
      let quoteQty ← stod numerals trade.quoteQty
      pure {
        id := trade.id % 2 ^ 64, orderId := 0, price, qty, quoteQty,
        time := timestamp (trade.time.bmod (2 ^ 64)), isBuyer := trade.buyerIsMaker,
        isMaker := trade.buyerIsMaker }) := by
  have timeRead : time trade.restRendering "time" =
      .ok (timestamp (trade.time.bmod (2 ^ 64))) := time_of_member rfl
  unfold parseTrade
  rw [timeRead]
  rfl

theorem parseTradeStream_streamRendering [Mul Double] :
    parseTradeStream numerals trade.streamRendering = (do
      let price ← stod numerals trade.price
      let qty ← stod numerals trade.qty
      pure {
        id := trade.id % 2 ^ 64, orderId := 0, price, qty, quoteQty := price * qty,
        time := timestamp (trade.time.bmod (2 ^ 64)), isBuyer := !trade.buyerIsMaker,
        isMaker := trade.buyerIsMaker }) := by
  have timeRead : time trade.streamRendering "T" =
      .ok (timestamp (trade.time.bmod (2 ^ 64))) := time_of_member rfl
  unfold parseTradeStream
  rw [timeRead]
  rfl

theorem stod_error_iff {text : String} :
    (∃ error, stod numerals text = .error error) ↔ ∃ error, numerals.stod text = .error error := by
  unfold stod
  cases numerals.stod text with
  | ok value =>
    refine iff_of_false ?_ ?_
    · rintro ⟨error, impossible⟩
      cases impossible
    · rintro ⟨error, impossible⟩
      cases impossible
  | error error => exact iff_of_true ⟨_, rfl⟩ ⟨_, rfl⟩

end Views

/-- The two views of a trade are the same exactly if the price or the quantity is not a
numeral, where both decoders throw: for every other trade they name opposite sides as
the buyer, or only the REST decoder throws. -/
theorem trade_views_agree_iff {Double : Type} [Mul Double] (numerals : Numerals Double)
    (trade : PublicTrade) :
    SameView (parseTrade numerals trade.restRendering)
        (parseTradeStream numerals trade.streamRendering) ↔
      (∃ error, numerals.stod trade.price = .error error) ∨
        ∃ error, numerals.stod trade.qty = .error error := by
  rw [parseTrade_restRendering, parseTradeStream_streamRendering, ← stod_error_iff,
    ← stod_error_iff]
  cases stod numerals trade.price with
  | error error => exact iff_of_true (.inr ⟨⟨error, rfl⟩, ⟨error, rfl⟩⟩) (.inl ⟨error, rfl⟩)
  | ok price =>
    cases stod numerals trade.qty with
    | error error => exact iff_of_true (.inr ⟨⟨error, rfl⟩, ⟨error, rfl⟩⟩) (.inr ⟨error, rfl⟩)
    | ok qty =>
      refine iff_of_false ?_ ?_
      · rintro (⟨left, right, leftRead, rightRead, agree⟩ | ⟨-, error, impossible⟩)
        · cases rightRead
          cases quoted : stod numerals trade.quoteQty with
          | error error =>
            rw [quoted] at leftRead
            cases leftRead
          | ok quoteQty =>
            rw [quoted] at leftRead
            cases leftRead
            obtain ⟨-, -, -, -, buyers, -⟩ := agree
            cases same : trade.buyerIsMaker with
            | true => simp [same] at buyers
            | false => simp [same] at buyers
        · cases impossible
      · rintro (⟨error, impossible⟩ | ⟨error, impossible⟩)
        · cases impossible
        · cases impossible

/-- Conversions that know two numbers only. -/
def fewNumbers : Numerals Nat where
  stod text := if text = "4" then .ok 4 else if text = "12" then .ok 12 else .error .invalidArgument
  toString number := ToString.toString number

/-- A trade whose buyer is the maker: the REST decoder calls it a buy, the stream
decoder a sell. -/
theorem buyer_differs :
    ¬ SameView (parseTrade fewNumbers (PublicTrade.restRendering ⟨28457, "4", "12", "4", 5, true⟩))
      (parseTradeStream fewNumbers
        (PublicTrade.streamRendering ⟨28457, "4", "12", "4", 5, true⟩)) := by
  rintro (⟨left, right, leftRead, rightRead, agree⟩ | ⟨-, error, impossible⟩)
  · cases leftRead
    cases rightRead
    cases agree.2.2.2.2.1
  · cases impossible

end Bintrade.Ws
