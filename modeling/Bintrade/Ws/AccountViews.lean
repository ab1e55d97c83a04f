import Bintrade.System.KeyedList
import Bintrade.Ws.ModelViews
import Bintrade.Ws.TypedDispatch

/-! The balances of an account, read once over the REST interface and then kept up to date
from the `outboundAccountPosition` events of the user stream. The REST parser leaves out
empty balances and the parser of the stream keeps them. -/

namespace Bintrade.Ws

open Bintrade.System Bintrade.Core Bintrade.Models Bintrade.Rest

structure BalanceFields where
  asset : String
  free : String
  locked : String

namespace BalanceFields

def RestRenders (balance : BalanceFields) (json : Json) : Prop :=
  HasMembers json
    [("asset", .string balance.asset), ("free", .string balance.free),
      ("locked", .string balance.locked)]

def StreamRenders (balance : BalanceFields) (json : Json) : Prop :=
  HasMembers json
    [("a", .string balance.asset), ("f", .string balance.free), ("l", .string balance.locked)]

structure Decodes {Double : Type} (numerals : Numerals Double) (balance : BalanceFields)
    (model : Balance Double) : Prop where
  asset : model.asset = balance.asset
  free : numerals.stod balance.free = .ok model.free
  locked : numerals.stod balance.locked = .ok model.locked

end BalanceFields

structure AccountFields where
  canTrade : Bool
  canWithdraw : Bool
  canDeposit : Bool
  accountType : String
  updateTime : Int
  balances : List BalanceFields

/-- A response of `/api/v3/account`. -/
def AccountFields.Renders (account : AccountFields) (json : Json) : Prop :=
  ∃ items, List.Forall₂ BalanceFields.RestRenders account.balances items ∧
    HasMembers json
      [("canTrade", .boolean account.canTrade), ("canWithdraw", .boolean account.canWithdraw),
        ("canDeposit", .boolean account.canDeposit), ("accountType", .string account.accountType),
        ("updateTime", .ofInt account.updateTime), ("balances", .array items)]

structure PositionFields where
  updateTime : Int
  balances : List BalanceFields

/-- An `outboundAccountPosition` event, which lists the balances that may have changed. -/
def PositionFields.Renders (position : PositionFields) (json : Json) : Prop :=
  ∃ items, List.Forall₂ BalanceFields.StreamRenders position.balances items ∧
    HasMembers json
      [("e", .string "outboundAccountPosition"), ("u", .ofInt position.updateTime),
        ("B", .array items)]

/-- The free and the locked amount of every asset. -/
abbrev Holdings (Double : Type) := String → Double × Double

section Holdings

variable {Double : Type}

def holding (balance : Balance Double) : String × Double × Double :=
  (balance.asset, balance.free, balance.locked)

/-- The holdings that a caller has after it took over the balances of an account. -/
def takeOver (balances : List (Balance Double)) (held : Holdings Double) : Holdings Double :=
  overlay (balances.map holding) held

def noHoldings [Zero Double] : Holdings Double := fun _ => (0, 0)

/-- The listed balances are those after a change, and nothing else has changed. -/
structure Lists (balances : List (Balance Double)) (before after : Holdings Double) : Prop where
  listed : ∀ balance ∈ balances, after balance.asset = (balance.free, balance.locked)
  others : ∀ asset ∉ balances.map Balance.asset, after asset = before asset

/-- Amounts that are not both zero have a positive one among them. -/
def Unindebted [Zero Double] [LT Double] (amounts : Double × Double) : Prop :=
  ¬ (0 < amounts.1 ∨ 0 < amounts.2) → amounts = (0, 0)

variable (numerals : Numerals Double) (parse : JsonParser)

/-- A response that lists every balance that is not zero, among any others. -/
def ShowsAccount [Zero Double] (json : Json) (held : Holdings Double) : Prop :=
  ∃ (account : AccountFields) (balances : List (Balance Double)), account.Renders json ∧
    List.Forall₂ (BalanceFields.Decodes numerals) account.balances balances ∧
      Lists balances noHoldings held

/-- The messages of the user stream while the holdings change on the exchange. -/
inductive Changes : Holdings Double → List String → Holdings Double → Prop where
  | done {held : Holdings Double} : Changes held [] held
  | position {before between after : Holdings Double} {message : String} {rest : List String}
      {json : Json} {position : PositionFields} {balances : List (Balance Double)}
      (parsed : parse message = .ok json) (rendered : position.Renders json)
      (decoded : List.Forall₂ (BalanceFields.Decodes numerals) position.balances balances)
      (lists : Lists balances before between) (later : Changes between rest after) :
      Changes before (message :: rest) after
  | other {before after : Holdings Double} {message : String} {rest : List String}
      (unrelated : ∀ json, parse message = .ok json →
        text json "e" "" ≠ .ok "outboundAccountPosition")
      (later : Changes before rest after) : Changes before (message :: rest) after

/-- Callbacks that take over the balances of account updates, and nothing else. Both may
throw. -/
structure Follows (handler : FunctionalUserHandler (Holdings Double) Double) : Prop where
  account : ∃ callback, handler.onAccountUpdateFn = some callback ∧
    ∀ held info, (callback held info).1 = takeOver info.balances held
  order : ∀ callback, handler.onOrderUpdateFn = some callback →
    ∀ held order, (callback held order).1 = held

end Holdings

section Overlay

variable {Double : Type} {balances : List (Balance Double)} {before after : Holdings Double}

theorem map_fst_holding (balances : List (Balance Double)) :
    (balances.map holding).map Prod.fst = balances.map Balance.asset := by
  rw [List.map_map]
  rfl

theorem takeOver_eq_iff {held : Holdings Double}
    (listed : ∀ balance ∈ balances, after balance.asset = (balance.free, balance.locked)) :
    takeOver balances held = after ↔
      ∀ asset ∉ balances.map Balance.asset, held asset = after asset := by
  rw [takeOver, overlay_eq_iff, map_fst_holding]
  intro pair member
  obtain ⟨balance, inside, rfl⟩ := List.mem_map.mp member
  exact listed balance inside

theorem Lists.takeOver (lists : Lists balances before after) :
    Ws.takeOver balances before = after := by
  rw [takeOver_eq_iff lists.listed]
  intro asset absent
  exact (lists.others asset absent).symm

theorem lists_takeOver (distinct : (balances.map Balance.asset).Nodup)
    (before : Holdings Double) : Lists balances before (takeOver balances before) where
  listed := by
    intro balance member
    have found : valueOf balance.asset (balances.map holding) =
        some (balance.free, balance.locked) := by
      rw [valueOf_eq_some_iff (by rwa [map_fst_holding])]
      exact List.mem_map.mpr ⟨balance, member, rfl⟩
    rw [takeOver, overlay, found, Option.getD_some]
  others := by
    intro asset absent
    rw [← map_fst_holding] at absent
    rw [takeOver, overlay, valueOf_eq_none_iff.mpr absent, Option.getD_none]

/-- Leaving out the balances without a positive amount loses debts, and nothing else. -/
theorem Lists.takeOver_filter_iff [Zero Double] [LT Double] [DecidableLT Double]
    (lists : Lists balances noHoldings after) :
    Ws.takeOver (balances.filter fun balance => 0 < balance.free ∨ 0 < balance.locked)
        noHoldings = after ↔ ∀ asset, Unindebted (after asset) := by
  rw [takeOver_eq_iff fun balance kept => lists.listed balance (List.mem_of_mem_filter kept)]
  constructor
  · intro elsewhere asset nonpositive
    refine (elsewhere asset ?_).symm
    intro kept
    obtain ⟨balance, member, rfl⟩ := List.mem_map.mp kept
    obtain ⟨inside, positive⟩ := List.mem_filter.mp member
    rw [lists.listed balance inside] at nonpositive
    exact nonpositive (of_decide_eq_true positive)
  · intro unindebted asset absent
    by_cases listed : asset ∈ balances.map Balance.asset
    · obtain ⟨balance, inside, rfl⟩ := List.mem_map.mp listed
      refine (unindebted balance.asset ?_).symm
      rw [lists.listed balance inside]
      intro positive
      exact absent (List.mem_map.mpr
        ⟨balance, List.mem_filter.mpr ⟨inside, decide_eq_true positive⟩, rfl⟩)
    · exact (lists.others asset listed).symm

end Overlay

section Parsers

variable {Double : Type} {numerals : Numerals Double} {balance : BalanceFields} {json : Json}

/-- The conversions of both decoders. -/
theorem BalanceFields.decodes_iff {model : Balance Double} :
    (∃ free, numerals.stod balance.free = .ok free ∧
      ∃ locked, numerals.stod balance.locked = .ok locked ∧
        (pure { asset := balance.asset, free, locked } : Except ε (Balance Double)) = .ok model) ↔
      balance.Decodes numerals model := by
  constructor
  · rintro ⟨free, freeRead, locked, lockedRead, ⟨⟩⟩
    exact ⟨rfl, freeRead, lockedRead⟩
  · intro decoded
    refine ⟨_, decoded.free, _, decoded.locked, ?_⟩
    rw [← decoded.asset]
    rfl

theorem parseBalance_decodes (rendered : balance.RestRenders json) (model : Balance Double) :
    throws (parseBalance numerals json) = .ok model ↔ balance.Decodes numerals model := by
  simp only [BalanceFields.RestRenders, HasMembers, List.forall_mem_cons] at rendered
  obtain ⟨asset, free, locked, -⟩ := rendered
  simp only [parseBalance, throws_eq_ok, bind_eq_ok, text_of_member asset, amount_of_member free,
    amount_of_member locked, Except.ok.injEq, exists_eq_left']
  exact BalanceFields.decodes_iff

theorem parseStreamBalance_decodes (rendered : balance.StreamRenders json)
    (model : Balance Double) :
    throws (parseStreamBalance numerals json) = .ok model ↔ balance.Decodes numerals model := by
  simp only [BalanceFields.StreamRenders, HasMembers, List.forall_mem_cons] at rendered
  obtain ⟨asset, free, locked, -⟩ := rendered
  simp only [parseStreamBalance, throws_eq_ok, bind_eq_ok, text_of_member asset,
    amount_of_member free, amount_of_member locked, Except.ok.injEq, exists_eq_left']
  exact BalanceFields.decodes_iff

theorem parseAccountInfo_rendered [Zero Double] [LT Double] [DecidableLT Double]
    {account : AccountFields} {balances : List (Balance Double)} (rendered : account.Renders json)
    (decoded : List.Forall₂ (BalanceFields.Decodes numerals) account.balances balances) :
    ∃ info, parseAccountInfo numerals json = .ok info ∧
      info.balances =
        balances.filter fun balance => 0 < balance.free ∨ 0 < balance.locked := by
  obtain ⟨items, itemsRendered, members⟩ := rendered
  simp only [HasMembers, List.forall_mem_cons] at members
  obtain ⟨canTrade, canWithdraw, canDeposit, accountType, updateTime, present, -⟩ := members
  have read := (mapM_eq_ok itemsRendered (fun _ _ => parseBalance_decodes) balances).mpr decoded
  let info : AccountInfo Double := {
    canTrade := account.canTrade, canWithdraw := account.canWithdraw,
    canDeposit := account.canDeposit, updateTime := timestamp (account.updateTime.bmod (2 ^ 64)),
    accountType := account.accountType,
    balances := balances.filter fun balance => 0 < balance.free ∨ 0 < balance.locked }
  refine ⟨info, ?_, rfl⟩
  rw [parseAccountInfo, flag, value_of_member canTrade, flag, value_of_member canWithdraw, flag,
    value_of_member canDeposit, text_of_member accountType, time_of_member updateTime,
    listAt_of_member present]
  simp only [Json.getBoolean, throwJson_ok, throws_ok, ok_bind, read]
  rfl

theorem parseAccountUpdate_rendered {position : PositionFields} {balances : List (Balance Double)}
    (rendered : position.Renders json)
    (decoded : List.Forall₂ (BalanceFields.Decodes numerals) position.balances balances) :
    ∃ info, parseAccountUpdate numerals json = .ok info ∧ info.balances = balances := by
  obtain ⟨items, itemsRendered, members⟩ := rendered
  simp only [HasMembers, List.forall_mem_cons] at members
  obtain ⟨-, updateTime, present, -⟩ := members
  have read :=
    (mapM_eq_ok itemsRendered (fun _ _ => parseStreamBalance_decodes) balances).mpr decoded
  let info : AccountInfo Double := {
    canTrade := false, canWithdraw := false, canDeposit := false,
    updateTime := timestamp (position.updateTime.bmod (2 ^ 64)), accountType := "", balances }
  refine ⟨info, ?_, rfl⟩
  rw [parseAccountUpdate, time_of_member updateTime, contains_of_member present,
    listAt_of_member present]
  simp only [throws_ok, ok_bind, if_pos, read]
  rfl

end Parsers

section Dispatching

variable {Double : Type} {numerals : Numerals Double} {parse : JsonParser} {message : String}
  {handler : FunctionalUserHandler (Holdings Double) Double}
  {run : Run (Holdings Double) (UserEvent Double)}

theorem dispatchUser_position {json : Json} {position : PositionFields}
    {balances : List (Balance Double)} (orders : Bool) (parsed : parse message = .ok json)
    (rendered : position.Renders json)
    (decoded : List.Forall₂ (BalanceFields.Decodes numerals) position.balances balances) :
    ∃ info, dispatchUser numerals parse orders true message = .ok (some (.account info)) ∧
      info.balances = balances := by
  obtain ⟨info, read, same⟩ := parseAccountUpdate_rendered rendered decoded
  obtain ⟨items, -, members⟩ := rendered
  have kind : text json "e" "" = .ok "outboundAccountPosition" :=
    text_of_member (members _ List.mem_cons_self)
  refine ⟨info, ?_, same⟩
  simp only [dispatchUser, parsed, throwJson_ok, throws_ok, kind, ok_bind, if_pos, read]
  rw [if_neg (by decide)]
  rfl

theorem dispatchUser_unrelated {orders accounts : Bool}
    (unrelated : ∀ json, parse message = .ok json →
      text json "e" "" ≠ .ok "outboundAccountPosition") (info : AccountInfo Double) :
    dispatchUser numerals parse orders accounts message ≠ .ok (some (.account info)) := by
  intro dispatched
  unfold dispatchUser at dispatched
  cases parsed : parse message with
  | error error =>
    rw [parsed] at dispatched
    cases dispatched
  | ok json =>
    cases kind : text json "e" "" with
    | error error =>
      simp only [parsed, throwJson_ok, throws_ok, ok_bind, kind] at dispatched
      cases dispatched
    | ok found =>
      have different : found ≠ "outboundAccountPosition" := by
        intro same
        exact unrelated json parsed (same ▸ kind)
      simp only [parsed, throwJson_ok, throws_ok, ok_bind, kind, if_neg different] at dispatched
      split at dispatched
      · split at dispatched
        · cases read : parseOrderUpdate numerals json with
          | ok order =>
            rw [read] at dispatched
            cases dispatched
          | error error =>
            rw [read] at dispatched
            cases dispatched
        · cases dispatched
      · cases dispatched

/-- What both kinds of user stream do with a message. -/
def userDispatch (numerals : Numerals Double) (parse : JsonParser)
    (handler : FunctionalUserHandler (Holdings Double) Double) (message : String) :
    Dispatch (Holdings Double) (UserEvent Double) Unit :=
  passed (userEffect handler) (dispatchUser numerals parse handler.onOrderUpdateFn.isSome
    handler.onAccountUpdateFn.isSome message)

theorem userDispatch_position (follows : Follows handler) {json : Json}
    {position : PositionFields} {balances : List (Balance Double)}
    (parsed : parse message = .ok json) (rendered : position.Renders json)
    (decoded : List.Forall₂ (BalanceFields.Decodes numerals) position.balances balances) :
    ∃ after, userDispatch numerals parse handler message run = (.ok (), after) ∧
      after.world = takeOver balances run.world := by
  obtain ⟨callback, present, taken⟩ := follows.account
  obtain ⟨info, dispatched, rfl⟩ :=
    dispatchUser_position handler.onOrderUpdateFn.isSome parsed rendered decoded
  refine ⟨userEffect handler (.account info) run, ?_, ?_⟩
  · rw [userDispatch, present, Option.isSome_some, dispatched]
    rfl
  · simp only [userEffect, effect, present]
    exact taken run.world info

theorem userDispatch_unrelated (follows : Follows handler)
    (unrelated : ∀ json, parse message = .ok json →
      text json "e" "" ≠ .ok "outboundAccountPosition") :
    ∃ after, userDispatch numerals parse handler message run = (.ok (), after) ∧
      after.world = run.world := by
  have returns : ∃ passed, (fun _ => ()) <$> dispatchUser numerals parse
      handler.onOrderUpdateFn.isSome handler.onAccountUpdateFn.isSome message = .ok passed :=
    returns_dispatchUser _ _ _
  unfold userDispatch
  cases outcome : dispatchUser numerals parse handler.onOrderUpdateFn.isSome
    handler.onAccountUpdateFn.isSome message with
  | error fault =>
    rw [outcome] at returns
    obtain ⟨_, returned⟩ := returns
    cases returned
  | ok event =>
    cases event with
    | none => exact ⟨run, rfl, rfl⟩
    | some event =>
      cases event with
      | account info => exact absurd outcome (dispatchUser_unrelated unrelated info)
      | order order =>
        refine ⟨userEffect handler (.order order) run, rfl, ?_⟩
        cases present : handler.onOrderUpdateFn with
        | none => simp only [userEffect, effect, present]
        | some callback =>
          simp only [userEffect, effect, present]
          exact follows.order callback present run.world order

/-- No exception leaves, and the callbacks end with these holdings. -/
def Keeps (dispatch : String → Dispatch (Holdings Double) (UserEvent Double) Unit)
    (messages : List String) (run : Run (Holdings Double) (UserEvent Double))
    (after : Holdings Double) : Prop :=
  ∃ last, deliver dispatch messages run = (.ok (), last) ∧ last.world = after

/-- A caller whose holdings are those of the exchange keeps them so. -/
theorem keeps_of_changes (follows : Follows handler) {before after : Holdings Double}
    {messages : List String} (changes : Changes numerals parse before messages after)
    (held : run.world = before) :
    Keeps (userDispatch numerals parse handler) messages run after := by
  induction changes generalizing run with
  | done => exact ⟨run, rfl, held⟩
  | position parsed rendered decoded lists _ ih =>
    obtain ⟨next, dispatched, taken⟩ := userDispatch_position follows parsed rendered decoded
    rw [Keeps, deliver_cons dispatched]
    apply ih
    rw [taken, held, lists.takeOver]
  | other unrelated _ ih =>
    obtain ⟨next, dispatched, unchanged⟩ := userDispatch_unrelated follows unrelated
    rw [Keeps, deliver_cons dispatched]
    apply ih
    rw [unchanged, held]

end Dispatching

/-- Holdings that are read once over the REST interface and then taken over from the account
updates of a user stream, of either kind, are those of the exchange after any messages,
exactly if there was no debt at the start: the balances that the REST parser leaves out do
no harm, since the parser of the stream keeps them. -/
theorem account_followed_iff {Double : Type} [Zero Double] [LT Double] [DecidableLT Double]
    (numerals : Numerals Double) (parse : JsonParser)
    (handler : FunctionalUserHandler (Holdings Double) Double) (follows : Follows handler)
    (json : Json) (held : Holdings Double) (shown : ShowsAccount numerals json held) :
    (∀ messages after, Changes numerals parse held messages after →
      ∃ info, parseAccountInfo numerals json = .ok info ∧
        ∀ dispatch ∈ [UserStream.doDispatch numerals parse handler.onOrderUpdateFn
            handler.onAccountUpdateFn, TypedUserStream.doDispatch numerals parse handler],
          Keeps dispatch messages ⟨takeOver info.balances noHoldings, []⟩ after) ↔
      ∀ asset, Unindebted (held asset) := by
  obtain ⟨account, balances, rendered, decoded, lists⟩ := shown
  obtain ⟨info, read, kept⟩ := parseAccountInfo_rendered rendered decoded
  rw [← lists.takeOver_filter_iff, ← kept]
  constructor
  · intro followed
    obtain ⟨other, readAgain, keeps⟩ := followed [] held .done
    obtain rfl : info = other := Except.ok.inj (read.symm.trans readAgain)
    obtain ⟨last, delivered, same⟩ := keeps _ List.mem_cons_self
    rw [← same, ← (Prod.mk.inj delivered).2]
  · intro same messages after changes
    refine ⟨info, read, ?_⟩
    have functional : UserStream.doDispatch numerals parse handler.onOrderUpdateFn
        handler.onAccountUpdateFn = userDispatch numerals parse handler :=
      funext (doDispatch_eq_passed handler)
    have typed : TypedUserStream.doDispatch numerals parse handler =
        userDispatch numerals parse handler := funext (typed_doDispatch_eq_passed handler)
    have keeps : Keeps (userDispatch numerals parse handler) messages
        ⟨takeOver info.balances noHoldings, []⟩ after := keeps_of_changes follows changes same
    rw [functional, typed, List.forall_mem_cons, List.forall_mem_singleton]
    exact ⟨keeps, keeps⟩

/-- Conversions over the integers, for three numerals. -/
def smallAmounts : Numerals Int where
  stod text :=
    if text = "0" then .ok 0 else if text = "4" then .ok 4
    else if text = "12" then .ok 12 else .error .invalidArgument
  toString number := ToString.toString number

def listedItems : List Json :=
  [.object [("asset", .string "BTC"), ("free", .string "4"), ("locked", .string "0")],
    .object [("asset", .string "ETH"), ("free", .string "0"), ("locked", .string "0")]]

def accountResponse : Json :=
  .object [("canTrade", .boolean true), ("canWithdraw", .boolean true),
    ("canDeposit", .boolean true), ("updateTime", .unsigned 5), ("accountType", .string "SPOT"),
    ("balances", .array listedItems)]

def soldItems : List Json :=
  [.object [("a", .string "BTC"), ("f", .string "0"), ("l", .string "0")],
    .object [("a", .string "ETH"), ("f", .string "12"), ("l", .string "0")]]

/-- All bitcoins are sold. -/
def soldOut : Json :=
  .object [("e", .string "outboundAccountPosition"), ("E", .unsigned 7), ("u", .unsigned 6),
    ("B", .array soldItems)]

def soldParser : JsonParser := fun message =>
  if message = "sold" then .ok soldOut else .error .parseError

/-- Takes over the balances, and throws each time. -/
def tracking : FunctionalUserHandler (Holdings Int) Int where
  onOrderUpdateFn := none
  onAccountUpdateFn := some fun held info => (takeOver info.balances held, .error "refused")

def firstBalances : List (Balance Int) := [⟨"BTC", 4, 0⟩, ⟨"ETH", 0, 0⟩]

def soldBalances : List (Balance Int) := [⟨"BTC", 0, 0⟩, ⟨"ETH", 12, 0⟩]

/-- A sale empties a balance, among messages that are not JSON. -/
theorem account_followed_iff_sold :
    ∃ info, parseAccountInfo smallAmounts accountResponse = .ok info ∧
      ∀ dispatch ∈ [UserStream.doDispatch smallAmounts soldParser tracking.onOrderUpdateFn
          tracking.onAccountUpdateFn, TypedUserStream.doDispatch smallAmounts soldParser tracking],
        Keeps dispatch ["noise", "sold", "noise"] ⟨takeOver info.balances noHoldings, []⟩
          (takeOver soldBalances (takeOver firstBalances noHoldings)) := by
  have follows : Follows tracking := by
    refine ⟨⟨_, rfl, fun _ _ => rfl⟩, ?_⟩
    intro callback present
    cases present
  have shown : ShowsAccount smallAmounts accountResponse (takeOver firstBalances noHoldings) := by
    refine ⟨⟨true, true, true, "SPOT", 5, [⟨"BTC", "4", "0"⟩, ⟨"ETH", "0", "0"⟩]⟩, firstBalances,
      ⟨listedItems, ?_, ?_⟩, ?_, lists_takeOver (by decide) _⟩
    · exact .cons (by simp [BalanceFields.RestRenders, HasMembers, Json.member?])
        (.cons (by simp [BalanceFields.RestRenders, HasMembers, Json.member?]) .nil)
    · simp [accountResponse, HasMembers, Json.member?, Json.ofInt]
    · exact .cons ⟨rfl, rfl, rfl⟩ (.cons ⟨rfl, rfl, rfl⟩ .nil)
  have noise : ∀ json, soldParser "noise" = .ok json →
      text json "e" "" ≠ .ok "outboundAccountPosition" := by
    intro json parsed
    cases parsed
  have rendered : PositionFields.Renders ⟨6, [⟨"BTC", "0", "0"⟩, ⟨"ETH", "12", "0"⟩]⟩ soldOut := by
    refine ⟨soldItems, ?_, ?_⟩
    · exact .cons (by simp [BalanceFields.StreamRenders, HasMembers, Json.member?])
        (.cons (by simp [BalanceFields.StreamRenders, HasMembers, Json.member?]) .nil)
    · simp [soldOut, HasMembers, Json.member?, Json.ofInt]
  refine (account_followed_iff smallAmounts soldParser tracking follows accountResponse _
    shown).mpr ?_ _ _ ?_
  · intro asset
    by_cases bitcoin : asset = "BTC"
    · subst bitcoin
      intro nonpositive
      exact absurd (by decide) nonpositive
    · intro _
      by_cases ether : asset = "ETH"
      · subst ether
        rfl
      · exact (lists_takeOver (by decide) noHoldings).others asset
          (by simp [firstBalances, bitcoin, ether])
  · refine .other noise (.position rfl rendered ?_ (lists_takeOver (by decide) _)
      (.other noise .done))
    exact .cons ⟨rfl, rfl, rfl⟩ (.cons ⟨rfl, rfl, rfl⟩ .nil)

end Bintrade.Ws
