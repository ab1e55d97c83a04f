import Bintrade.Ws.StreamParse

/-! Which JSON values the parsers index beyond their end. An unchecked access is
reached only if everything read before it could be converted, so the condition follows
the order in which a parser reads. -/

namespace Bintrade.Ws

open Bintrade.System Bintrade.Core Bintrade.Models Bintrade.Rest

/-- Along a row, an element that cannot be converted comes before the row ends, or the
row has all its columns. -/
def rowFits : List (Json → Bool) → List Json → Bool
  | [], _ => true
  | _ :: _, [] => false
  | accepts :: columns, element :: elements => !accepts element || rowFits columns elements

/-- A row with all its columns, each of which can be converted. -/
def rowReturns : List (Json → Bool) → List Json → Bool
  | [], _ => true
  | _ :: _, [] => false
  | accepts :: columns, element :: elements => accepts element && rowReturns columns elements

/-- A value of another kind is rejected before it is indexed. -/
def RowFits (columns : List (Json → Bool)) (json : Json) : Prop :=
  match json with
  | .array elements => rowFits columns elements = true
  | _ => True

def RowReturns (columns : List (Json → Bool)) (json : Json) : Prop :=
  match json with
  | .array elements => rowReturns columns elements = true
  | _ => False

section Columns

variable {α β : Type} {elements : List Json} {position : Nat} {read : Json → Except Exception α}
  {accepts : Json → Bool} {columns : List (Json → Bool)}
  {next : α → Except (Fault Exception) β}

theorem column_array_of_lt (within : position < elements.length) :
    column (.array elements) position read = throws (read elements[position]) := by
  simp only [column, Json.index, List.getElem?_eq_getElem within]
  rfl

theorem column_array_of_le (beyond : elements.length ≤ position) :
    column (.array elements) position read = .error .undefined := by
  simp only [column, Json.index, List.getElem?_eq_none beyond]
  rfl

/-- One column of a row: it must be there, and if it can be converted, the rest of the
row decides. -/
theorem defined_column
    (accepted : ∀ element, (∃ value, read element = .ok value) ↔ accepts element = true)
    (rest : ∀ value, Defined (next value) ↔
      rowFits columns (elements.drop (position + 1)) = true) :
    Defined (column (.array elements) position read >>= next) ↔
      rowFits (accepts :: columns) (elements.drop position) = true := by
  by_cases within : position < elements.length
  · rw [column_array_of_lt within, defined_throws_bind, List.drop_eq_getElem_cons within, rowFits]
    simp only [rest, Bool.or_eq_true, Bool.not_eq_true']
    constructor
    · intro following
      by_cases convertible : accepts elements[position] = true
      · obtain ⟨value, converted⟩ := (accepted _).mpr convertible
        exact .inr (following value converted)
      · exact .inl (Bool.eq_false_iff.mpr convertible)
    · intro fits value converted
      have convertible := (accepted _).mp ⟨value, converted⟩
      rcases fits with rejected | fits
      · rw [convertible] at rejected
        cases rejected
      · exact fits
  · rw [column_array_of_le (by omega), List.drop_eq_nil_of_le (by omega)]
    exact iff_of_false (fun defined => defined rfl) nofun

theorem returns_column
    (accepted : ∀ element, (∃ value, read element = .ok value) ↔ accepts element = true)
    (rest : ∀ value, (∃ result, next value = .ok result) ↔
      rowReturns columns (elements.drop (position + 1)) = true) :
    (∃ result, (column (.array elements) position read >>= next) = .ok result) ↔
      rowReturns (accepts :: columns) (elements.drop position) = true := by
  by_cases within : position < elements.length
  · rw [column_array_of_lt within, List.drop_eq_getElem_cons within, rowReturns]
    simp only [bind_eq_ok, throws_eq_ok, Bool.and_eq_true, ← accepted]
    constructor
    · rintro ⟨result, value, converted, finished⟩
      exact ⟨⟨value, converted⟩, (rest value).mp ⟨result, finished⟩⟩
    · rintro ⟨⟨value, converted⟩, following⟩
      obtain ⟨result, finished⟩ := (rest value).mpr following
      exact ⟨result, value, converted, finished⟩
  · rw [column_array_of_le (by omega), List.drop_eq_nil_of_le (by omega)]
    refine iff_of_false ?_ Bool.false_ne_true
    rintro ⟨result, impossible⟩
    cases impossible

end Columns

section Rows

variable {Double : Type} (numerals : Numerals Double)

/-- A text that `std::stod` converts. -/
def isAmount (json : Json) : Bool :=
  match json with
  | .string text => (numerals.stod text).isOk
  | _ => false

def levelColumns : List (Json → Bool) := [isAmount numerals, isAmount numerals]

def klineColumns : List (Json → Bool) :=
  [Json.isNumber, isAmount numerals, isAmount numerals, isAmount numerals, isAmount numerals,
    isAmount numerals, Json.isNumber, isAmount numerals, Json.isNumber]

variable {numerals}

theorem amountText_isOk (json : Json) :
    (∃ value, amountText numerals json = .ok value) ↔ isAmount numerals json = true := by
  cases json with
  | string text =>
    change (∃ value, stod numerals text = .ok value) ↔ (numerals.stod text).isOk = true
    unfold stod throwNumeral
    simp only [mapError_eq_ok]
    cases numerals.stod text <;> simp [Except.isOk, Except.toBool]
  | _ =>
    refine iff_of_false ?_ nofun
    rintro ⟨value, impossible⟩
    cases impossible

theorem number_isOk {reduce : Int → Int} (json : Json) :
    (∃ value, throwJson (json.getInteger reduce) = .ok value) ↔ json.isNumber = true := by
  simp only [throwJson_eq_ok, Json.getInteger_isOk]

theorem elementTime_isOk (json : Json) :
    (∃ value, elementTime json = .ok value) ↔ json.isNumber = true := by
  have converted : (∃ value, throwJson json.getInt64 = .ok value) ↔ json.isNumber = true :=
    number_isOk json
  rw [← converted, elementTime]
  cases throwJson json.getInt64 with
  | ok milliseconds => exact iff_of_true ⟨_, rfl⟩ ⟨_, rfl⟩
  | error error =>
    refine iff_of_false ?_ ?_
    · rintro ⟨value, impossible⟩
      cases impossible
    · rintro ⟨value, impossible⟩
      cases impossible

theorem defined_parseOrderBookEntry (json : Json) :
    Defined (parseOrderBookEntry numerals json) ↔ RowFits (levelColumns numerals) json := by
  cases json with
  | array elements =>
    apply defined_column amountText_isOk
    intro price
    apply defined_column amountText_isOk
    intro quantity
    exact iff_of_true (defined_pure _) rfl
  | _ => exact iff_of_true nofun trivial

theorem returns_parseOrderBookEntry (json : Json) :
    (∃ entry, parseOrderBookEntry numerals json = .ok entry) ↔
      RowReturns (levelColumns numerals) json := by
  cases json with
  | array elements =>
    apply returns_column amountText_isOk
    intro price
    apply returns_column amountText_isOk
    intro quantity
    exact iff_of_true ⟨_, rfl⟩ rfl
  | _ =>
    refine iff_of_false ?_ id
    rintro ⟨entry, impossible⟩
    cases impossible

theorem defined_parseKline (json : Json) :
    Defined (parseKline numerals json) ↔ RowFits (klineColumns numerals) json := by
  cases json with
  | array elements =>
    refine defined_column elementTime_isOk fun openTime => ?_
    refine defined_column amountText_isOk fun openPrice => ?_
    refine defined_column amountText_isOk fun high => ?_
    refine defined_column amountText_isOk fun low => ?_
    refine defined_column amountText_isOk fun close => ?_
    refine defined_column amountText_isOk fun volume => ?_
    refine defined_column elementTime_isOk fun closeTime => ?_
    refine defined_column amountText_isOk fun quoteVolume => ?_
    refine defined_column number_isOk fun numTrades => ?_
    exact iff_of_true (defined_pure _) rfl
  | _ => exact iff_of_true nofun trivial

end Rows

section Lists

variable {Double : Type} (numerals : Numerals Double)

/-- The levels of one side of a book, read in order. -/
def LevelsFit (later : Prop) : List Json → Prop :=
  loopFits (RowFits (levelColumns numerals)) (RowReturns (levelColumns numerals)) later

/-- The list under a key is there and fits. -/
def Present (json : Json) (key : String) (fits : List Json → Prop) : Prop :=
  ∃ found, json.member? key = some found ∧ fits found.items

/-- A side of the book that may be absent. -/
def SideFits (json : Json) (key : String) (later : Prop) : Prop :=
  match json.member? key with
  | some found => LevelsFit numerals later found.items
  | none => later

def OrderBookFits (json : Json) : Prop :=
  json.admits Json.isNumber "lastUpdateId" = true →
    Present json "bids" (LevelsFit numerals (Present json "asks" (LevelsFit numerals True)))

def AccountInfoFits (json : Json) : Prop :=
  json.admits Json.isBoolean "canTrade" = true → json.admits Json.isBoolean "canWithdraw" = true →
    json.admits Json.isBoolean "canDeposit" = true →
      json.admits Json.isString "accountType" = true →
        json.admits Json.isNumber "updateTime" = true → json.contains "balances" = true

def DepthFits (json : Json) : Prop :=
  json.admits Json.isString "s" = true → json.admits Json.isNumber "u" = true →
    SideFits numerals json "b" (SideFits numerals json "a" True)

variable {numerals}
variable {α β : Type} {json : Json} {key : String}

theorem object_of_admits {accepts : Json → Bool} (admitted : json.admits accepts key = true) :
    ∃ members, json = .object members := by
  cases json with
  | object members => exact ⟨members, rfl⟩
  | _ => cases admitted

/-- A member that is read with `value` before anything unchecked. -/
theorem defined_value_bind {get : Json → Except JsonError α} {fallback : α}
    {accepts : Json → Bool} {next : α → Except (Fault Exception) β} {later : Prop}
    (accepted : ∀ found, (∃ value, get found = .ok value) ↔ accepts found = true)
    (rest : json.admits accepts key = true → ∀ value, Defined (next value) ↔ later) :
    Defined (throws (throwJson (json.value get key fallback)) >>= next) ↔
      (json.admits accepts key = true → later) := by
  simp only [defined_throws_bind, throwJson_eq_ok]
  constructor
  · intro following admitted
    obtain ⟨value, found⟩ := (Json.value_isOk accepted).mpr admitted
    exact (rest admitted value).mp (following value found)
  · intro fits value found
    have admitted := (Json.value_isOk accepted).mp ⟨value, found⟩
    exact (rest admitted value).mpr (fits admitted)

theorem defined_time_bind {next : Int → Except (Fault Exception) β} {later : Prop}
    (rest : json.admits Json.isNumber key = true → ∀ value, Defined (next value) ↔ later) :
    Defined (throws (time json key) >>= next) ↔
      (json.admits Json.isNumber key = true → later) := by
  have converted : throws (time json key) >>= next =
      throws (throwJson (json.value Json.getInt64 key 0)) >>= fun value =>
        next (timestamp value) := by
    rw [time]
    cases throwJson (json.value Json.getInt64 key 0) <;> rfl
  rw [converted]
  exact defined_value_bind (fun _ => Json.getInteger_isOk) fun admitted value => rest admitted _

theorem defined_listAt_bind {members : List (String × Json)}
    {next : List Json → Except (Fault Exception) β} {fits : List Json → Prop}
    (rest : ∀ found : Json, Defined (next found.items) ↔ fits found.items) :
    Defined (listAt (.object members) key >>= next) ↔ Present (.object members) key fits := by
  unfold listAt Json.subscript Present
  cases Json.member? (.object members) key with
  | none =>
    refine iff_of_false (fun defined => defined rfl) ?_
    rintro ⟨found, impossible, -⟩
    cases impossible
  | some found =>
    constructor
    · intro defined
      exact ⟨found, rfl, (rest found).mp defined⟩
    · rintro ⟨same, ⟨⟩, fitted⟩
      exact (rest found).mpr fitted

/-- The levels of one side, and what is read after them. -/
theorem defined_levels_bind {later : Prop} (levels : List Json)
    {next : List (OrderBookEntry Double) → Except (Fault Exception) β}
    (rest : ∀ entries, Defined (next entries) ↔ later) :
    Defined (levels.mapM (parseOrderBookEntry numerals) >>= next) ↔
      LevelsFit numerals later levels :=
  defined_mapM_bind defined_parseOrderBookEntry returns_parseOrderBookEntry levels rest

theorem defined_parseOrderBook (symbol : String) :
    Defined (parseOrderBook numerals symbol json) ↔ OrderBookFits numerals json := by
  refine defined_value_bind (fun _ => Json.getInteger_isOk) ?_
  intro admitted lastUpdateId
  obtain ⟨members, rfl⟩ := object_of_admits admitted
  apply defined_listAt_bind
  intro bids
  apply defined_levels_bind
  intro bidEntries
  apply defined_listAt_bind
  intro asks
  apply defined_levels_bind
  intro askEntries
  exact iff_of_true (defined_pure _) trivial

/-- A list whose every element is read with checked access. -/
theorem defined_checked_bind {read : Json → Except Exception α} (items : List Json)
    {next : List α → Except (Fault Exception) β} (rest : ∀ values, Defined (next values)) :
    Defined (items.mapM (fun item => throws (read item)) >>= next) := by
  induction items generalizing next with
  | nil => exact rest []
  | cons item items ih =>
    rw [List.mapM_cons, bind_assoc, defined_throws_bind]
    intro value _
    rw [bind_assoc]
    exact ih fun values => rest (value :: values)

/-- Where every list will do, the key must only be there. -/
theorem defined_listAt_iff_contains {members : List (String × Json)}
    {next : List Json → Except (Fault Exception) β} (rest : ∀ items, Defined (next items)) :
    Defined (listAt (.object members) key >>= next) ↔
      Json.contains (.object members) key = true := by
  have presence : Defined (listAt (.object members) key >>= next) ↔
      Present (.object members) key fun _ => True :=
    defined_listAt_bind fun found => iff_of_true (rest _) trivial
  rw [presence]
  unfold Present Json.contains
  cases Json.member? (.object members) key with
  | none => simp
  | some found => simp

theorem defined_parseAccountInfo [Zero Double] [LT Double] [DecidableLT Double] :
    Defined (parseAccountInfo numerals json) ↔ AccountInfoFits json := by
  refine defined_value_bind (fun _ => Json.getBoolean_isOk) fun admitted canTrade => ?_
  refine defined_value_bind (fun _ => Json.getBoolean_isOk) fun _ canWithdraw => ?_
  refine defined_value_bind (fun _ => Json.getBoolean_isOk) fun _ canDeposit => ?_
  refine defined_value_bind (fun _ => Json.getString_isOk) fun _ accountType => ?_
  refine defined_time_bind fun _ updateTime => ?_
  obtain ⟨members, rfl⟩ := object_of_admits admitted
  apply defined_listAt_iff_contains
  intro balances
  apply defined_checked_bind
  intro all
  exact defined_pure _

theorem defined_parseLevels_bind {members : List (String × Json)} {later : Prop}
    {next : List (OrderBookEntry Double) → Except (Fault Exception) β}
    (rest : ∀ entries, Defined (next entries) ↔ later) :
    Defined (parseLevels numerals (.object members) key >>= next) ↔
      SideFits numerals (.object members) key later := by
  unfold parseLevels SideFits Json.contains
  cases side : Json.member? (.object members) key with
  | none => exact rest []
  | some found =>
    simp only [Option.isSome_some, if_true]
    rw [bind_assoc, defined_listAt_bind fun levels => defined_levels_bind _ rest]
    constructor
    · rintro ⟨same, present, fits⟩
      rw [side] at present
      cases present
      exact fits
    · intro fits
      exact ⟨found, side, fits⟩

theorem defined_parseDepthStream :
    Defined (parseDepthStream numerals json) ↔ DepthFits numerals json := by
  refine defined_value_bind (fun _ => Json.getString_isOk) fun admitted symbol => ?_
  refine defined_value_bind (fun _ => Json.getInteger_isOk) fun _ lastUpdateId => ?_
  obtain ⟨members, rfl⟩ := object_of_admits admitted
  apply defined_parseLevels_bind
  intro bids
  apply defined_parseLevels_bind
  intro asks
  exact iff_of_true (defined_pure _) trivial

/-- The balances are read with `operator[]` only where `contains` found them. -/
theorem defined_parseAccountUpdate : Defined (parseAccountUpdate numerals json) := by
  refine (defined_throws_bind _ _).mpr fun updateTime _ => ?_
  split
  · rename_i contained
    cases json with
    | object members =>
      refine (defined_listAt_iff_contains fun balances => ?_).mpr contained
      apply defined_checked_bind
      intro all
      exact defined_pure _
    | _ => cases contained
  · exact nofun

end Lists

/-- The parsers of both headers. -/
inductive Parser where
  | ticker
  | ticker24h
  | orderBookEntry
  | orderBook (symbol : String)
  | trade
  | kline
  | order
  | balance
  | accountInfo
  | accountTrade
  | tradeStream
  | klineStream
  | tickerStream
  | depthStream
  | orderUpdate
  | accountUpdate

/-- The dispatch functions; that of a `UserStream` with the callbacks that are set. -/
inductive Dispatcher where
  | trades
  | klines
  | ticker
  | depth
  | user (orderCallback accountCallback : Bool)

section Outcomes

variable {Double : Type} [Mul Double] [Zero Double] [LT Double] [DecidableLT Double]
  (numerals : Numerals Double) (parse : JsonParser)

/-- How a parser ends on a value. -/
def Parser.outcome (parser : Parser) (json : Json) : Except (Fault Exception) Unit :=
  match parser with
  | .ticker => (fun _ => ()) <$> throws (parseTicker numerals json)
  | .ticker24h => (fun _ => ()) <$> throws (parseTicker24h numerals json)
  | .orderBookEntry => (fun _ => ()) <$> parseOrderBookEntry numerals json
  | .orderBook symbol => (fun _ => ()) <$> parseOrderBook numerals symbol json
  | .trade => (fun _ => ()) <$> throws (parseTrade numerals json)
  | .kline => (fun _ => ()) <$> parseKline numerals json
  | .order => (fun _ => ()) <$> throws (parseOrder numerals json)
  | .balance => (fun _ => ()) <$> throws (parseBalance numerals json)
  | .accountInfo => (fun _ => ()) <$> parseAccountInfo numerals json
  | .accountTrade => (fun _ => ()) <$> throws (parseAccountTrade numerals json)
  | .tradeStream => (fun _ => ()) <$> throws (parseTradeStream numerals json)
  | .klineStream => (fun _ => ()) <$> throws (parseKlineStream numerals json)
  | .tickerStream => (fun _ => ()) <$> throws (parseTickerStream numerals json)
  | .depthStream => (fun _ => ()) <$> parseDepthStream numerals json
  | .orderUpdate => (fun _ => ()) <$> throws (parseOrderUpdate numerals json)
  | .accountUpdate => (fun _ => ()) <$> parseAccountUpdate numerals json

/-- The values on which a parser accesses nothing that is not there. -/
def Parser.Fits (parser : Parser) (json : Json) : Prop :=
  match parser with
  | .orderBookEntry => RowFits (levelColumns numerals) json
  | .orderBook _ => OrderBookFits numerals json
  | .kline => RowFits (klineColumns numerals) json
  | .accountInfo => AccountInfoFits json
  | .depthStream => DepthFits numerals json
  | _ => True

def Dispatcher.outcome (dispatcher : Dispatcher) (message : String) :
    Except (Fault Exception) Unit :=
  match dispatcher with
  | .trades => (fun _ => ()) <$> dispatchTrades numerals parse message
  | .klines => (fun _ => ()) <$> dispatchKlines numerals parse message
  | .ticker => (fun _ => ()) <$> dispatchTicker numerals parse message
  | .depth => (fun _ => ()) <$> dispatchDepth numerals parse message
  | .user orderCallback accountCallback =>
    (fun _ => ()) <$> dispatchUser numerals parse orderCallback accountCallback message

/-- The messages that a dispatch function passes on or discards. -/
def Dispatcher.Fits (dispatcher : Dispatcher) (message : String) : Prop :=
  match dispatcher with
  | .depth => ∀ json, parse message = .ok json → text json "e" "" = .ok "depthUpdate" →
      DepthFits numerals json
  | _ => True

end Outcomes

section Dispatching

variable {Double : Type} {numerals : Numerals Double} {parse : JsonParser}

/-- A dispatch function lets no exception through: it returns unless what it runs is
undefined. -/
theorem returns_discardThrown {α : Type} (outcome : Except (Fault Exception) (Option α)) :
    (∃ passed, (fun _ => ()) <$> discardThrown outcome = .ok passed) ↔ Defined outcome := by
  cases outcome with
  | ok value => exact iff_of_true ⟨(), rfl⟩ nofun
  | error fault =>
    cases fault with
    | thrown error => exact iff_of_true ⟨(), rfl⟩ nofun
    | undefined =>
      refine iff_of_false ?_ fun defined => defined rfl
      rintro ⟨passed, impossible⟩
      cases impossible

theorem returns_dispatchEvent {α : Type} {event message : String}
    {read : Json → Except (Fault Exception) α} :
    (∃ passed, (fun _ => ()) <$> dispatchEvent parse event read message = .ok passed) ↔
      ∀ json, parse message = .ok json → text json "e" "" = .ok event → Defined (read json) := by
  unfold dispatchEvent
  rw [returns_discardThrown]
  simp only [defined_throws_bind, throwJson_eq_ok]
  constructor
  · intro following json parsed kind
    have reading := following json parsed event kind
    rw [if_pos rfl, defined_map] at reading
    exact reading
  · intro reading json parsed kind named
    split
    · rename_i same
      rw [defined_map]
      exact reading json parsed (same ▸ named)
    · exact defined_pure _

theorem returns_dispatchUser (orderCallback accountCallback : Bool) (message : String) :
    ∃ passed, (fun _ => ()) <$> dispatchUser numerals parse orderCallback accountCallback message =
      .ok passed := by
  unfold dispatchUser
  rw [returns_discardThrown]
  simp only [defined_throws_bind]
  intro json _ kind _
  split
  · split
    · simp
    · exact defined_pure _
  · split
    · split
      · simp [defined_parseAccountUpdate]
      · exact defined_pure _
    · exact defined_pure _

end Dispatching

/-- Each parser returns or throws exactly on the values whose rows are long enough and
whose lists are there, as far as it reads them; and each dispatch function, which
discards what its parser rejects, returns exactly on the messages whose event its
parser reads without leaving them. -/
theorem parsers_defined_iff {Double : Type} [Mul Double] [Zero Double] [LT Double]
    [DecidableLT Double] (numerals : Numerals Double) (parse : JsonParser) :
    (∀ (parser : Parser) (json : Json),
      Defined (parser.outcome numerals json) ↔ parser.Fits numerals json) ∧
    ∀ (dispatcher : Dispatcher) (message : String),
      (∃ passed, dispatcher.outcome numerals parse message = .ok passed) ↔
        dispatcher.Fits numerals parse message := by
  constructor
  · intro parser json
    cases parser with
    | orderBookEntry => exact (defined_map _ _).trans (defined_parseOrderBookEntry json)
    | orderBook symbol => exact (defined_map _ _).trans (defined_parseOrderBook symbol)
    | kline => exact (defined_map _ _).trans (defined_parseKline json)
    | accountInfo => exact (defined_map _ _).trans defined_parseAccountInfo
    | depthStream => exact (defined_map _ _).trans defined_parseDepthStream
    | accountUpdate =>
      exact iff_of_true ((defined_map _ _).mpr defined_parseAccountUpdate) trivial
    | _ => exact iff_of_true ((defined_map _ _).mpr (defined_throws _)) trivial
  · intro dispatcher message
    cases dispatcher with
    | depth =>
      refine returns_dispatchEvent.trans ?_
      simp only [defined_parseDepthStream, Dispatcher.Fits]
    | user orderCallback accountCallback =>
      exact iff_of_true (returns_dispatchUser orderCallback accountCallback message) trivial
    | _ =>
      refine iff_of_true (returns_dispatchEvent.mpr ?_) trivial
      intro json _ _
      exact defined_throws _

/-- Conversions that accept every text. -/
def anyNumeral : Numerals Nat where
  stod _ := .ok 0
  toString number := ToString.toString number

/-- An order book without its bids, and a depth update with a level that has a price
only. -/
theorem missing_bids_undefined :
    ¬ Defined ((Parser.orderBook "BTCUSDT").outcome anyNumeral (.object [])) ∧
      ¬ Defined (Parser.depthStream.outcome anyNumeral
        (.object [("e", .string "depthUpdate"), ("b", .array [.array [.string "0.0024"]])])) :=
  ⟨fun defined => defined rfl, fun defined => defined rfl⟩

end Bintrade.Ws
