import Mathlib.Data.Option.Basic
import Bintrade.Rest.Payload
import Bintrade.Rest.TradingClient

/-! What the exchange reads from a request. The client writes keys and values as they are,
and the exchange decodes what it receives of them. -/

namespace Bintrade.Rest

open Bintrade.System Bintrade.System.Http Bintrade.Core Bintrade.Auth Bintrade.Models

section Added

/-- A text without the characters that decoding treats apart. -/
theorem plainText_of_forall {text : String}
    (ordinary : ∀ character ∈ text.toList, character ≠ '&' ∧ character ≠ '+' ∧ character ≠ '%') :
    PlainText text := by
  refine ⟨fun member => (ordinary _ member).1 rfl, fun member => (ordinary _ member).2.1 rfl, ?_⟩
  exact escapeFree_of_not_mem fun member => (ordinary _ member).2.2 rfl

theorem ordinary_of_isDigit {character : Char} (digit : character.isDigit = true) :
    character ≠ '&' ∧ character ≠ '+' ∧ character ≠ '%' := by
  refine ⟨?_, ?_, ?_⟩ <;> rintro rfl <;> cases digit

theorem plainText_toString_nat (number : Nat) : PlainText (toString number) := by
  apply plainText_of_forall
  intro character member
  rw [show toString number = number.repr from rfl, Nat.toList_repr] at member
  exact ordinary_of_isDigit (Nat.isDigit_of_mem_toDigits (by decide) (by decide) member)

theorem plainText_toString_int (number : Int) : PlainText (toString number) := by
  cases number with
  | ofNat number => exact plainText_toString_nat number
  | negSucc number =>
    apply plainText_of_forall
    intro character member
    rw [show toString (Int.negSucc number) = "-" ++ (number + 1).repr from rfl,
      String.toList_append, Nat.toList_repr] at member
    rcases List.mem_append.mp member with sign | digit
    · rw [List.mem_singleton.mp sign]
      decide
    · exact ordinary_of_isDigit (Nat.isDigit_of_mem_toDigits (by decide) (by decide) digit)

theorem ordinary_digitChar :
    ∀ digit : Fin 16, (Nat.digitChar digit ≠ '&' ∧ Nat.digitChar digit ≠ '+' ∧
      Nat.digitChar digit ≠ '%') ∧ isTargetChar (Nat.digitChar digit) = true := by
  decide

theorem ordinary_of_mem_sign {hmac : Hmac} {credentials : Credentials} {query : String}
    {char : Char} (member : char ∈ (sign hmac credentials query).toList) :
    (char ≠ '&' ∧ char ≠ '+' ∧ char ≠ '%') ∧ isTargetChar char = true := by
  rw [sign, String.toList_join] at member
  obtain ⟨digits, written, digit⟩ := List.mem_flatMap.mp member
  obtain ⟨byte, -, rfl⟩ := List.mem_map.mp written
  have small : byte.toNat < 256 := byte.toNat_lt
  rw [hexByte, String.toList_ofList] at digit
  rcases List.mem_cons.mp digit with rfl | digit
  · exact ordinary_digitChar ⟨byte.toNat / 16, by omega⟩
  · rw [List.mem_singleton.mp digit]
    exact ordinary_digitChar ⟨byte.toNat % 16, by omega⟩

theorem plainText_sign (hmac : Hmac) (credentials : Credentials) (query : String) :
    PlainText (sign hmac credentials query) :=
  plainText_of_forall fun _ member => (ordinary_of_mem_sign member).1

theorem visible_sign (hmac : Hmac) (credentials : Credentials) (query : String) :
    Visible (sign hmac credentials query) :=
  fun _ member => (ordinary_of_mem_sign member).2

theorem visible_toString_int (number : Int) : Visible (toString number) := by
  cases number with
  | ofNat number => exact visible_toString number
  | negSucc number =>
    intro char member
    rw [show toString (Int.negSucc number) = "-" ++ (number + 1).repr from rfl,
      String.toList_append] at member
    rcases List.mem_append.mp member with sign | digit
    · rw [List.mem_singleton.mp sign]
      decide
    · exact visible_toString (number + 1) char digit

/-- Under a plain and visible key, the value decides. -/
theorem legible_iff_of_key {call : Call} {key value : String}
    (named : '=' ∉ key.toList ∧ PlainText key ∧ Visible key) :
    call.Legible (key, value) ↔ call.Reads value :=
  ⟨fun legible => legible.2.2, fun reads => ⟨named.1, ⟨named.2.1, fun _ => named.2.2⟩, reads⟩⟩

theorem legible_added (services : Services) (credentials : Credentials) (params : Params)
    (call : Call) : ∀ entry ∈ call.added services credentials params, call.Legible entry := by
  cases call with
  | publicGet => nofun
  | asyncPublicGet => nofun
  | signed method =>
    intro entry member
    rcases List.mem_cons.mp member with rfl | member
    · exact (legible_iff_of_key (by decide)).mpr
        ⟨plainText_toString_int _, fun _ => visible_toString_int _⟩
    · rw [List.mem_singleton.mp member]
      exact (legible_iff_of_key (by decide)).mpr ⟨plainText_sign _ _ _, fun _ => visible_sign _ _ _⟩

end Added

section Sizes

variable (map : Params) (layout : Layout String) {key : String} (value : String)

/-- An assignment to a present key loses the value that it replaces. -/
theorem formSize_assign_of_mem (present : key ∈ map.order) :
    formSize (map.assign layout key value).entries ≤ formSize map.entries + value.length := by
  obtain ⟨before, after, old, new⟩ := UnorderedMap.entries_assign_of_mem layout value present
  rw [old, new]
  simp only [formSize_append, formSize_cons, entrySize]
  omega

theorem formSize_assign_le (key : String) :
    formSize (map.assign layout key value).entries ≤
      formSize map.entries + (key.length + value.length) := by
  by_cases present : key ∈ map.order
  · have smaller := formSize_assign_of_mem map layout value present
    omega
  · rw [formSize_perm (UnorderedMap.entries_assign_perm present), formSize_cons]
    simp only [entrySize]
    omega

end Sizes

section Sent

variable {services : Services} {credentials : Credentials} {params : Params}

theorem entries_sent_perm_signed (method : SignedMethod) (layouts : Layouts) (signed : Params) :
    (method.sent layouts signed).entries.Perm signed.entries := by
  cases method with
  | post | asyncPost => exact .refl _
  | get | delete | asyncGet | asyncDelete => exact signed.entries_copy_perm _

/-- A call writes no more than it should, and less if it replaces an entry of the
caller. -/
theorem formSize_sent (services : Services) (credentials : Credentials) (params : Params)
    (call : Call) :
    formSize (call.sent services credentials params).entries ≤
        formSize (params.entries ++ call.added services credentials params) ∧
      (formSize (params.entries ++ call.added services credentials params) ≤
          formSize (call.sent services credentials params).entries →
        ∀ entry ∈ call.added services credentials params, entry.1 ∉ params.order) := by
  cases call with
  | publicGet =>
    rw [Call.sent, formSize_perm (params.entries_copy_perm _)]
    simp [Call.added]
  | asyncPublicGet =>
    rw [Call.sent, formSize_perm (params.entries_copy_perm _)]
    simp [Call.added]
  | signed method =>
    have stamped := formSize_assign_le params services.layouts.stamped (toString services.clock)
      "timestamp"
    have signed := formSize_assign_le (stampedParameters services.layouts services.clock params)
      services.layouts.signed
      (sign services.hmac credentials (signedQuery services.layouts services.clock params))
      "signature"
    rw [Call.sent, formSize_perm (entries_sent_perm_signed method _ _), signParameters,
      formSize_append]
    rw [← stampedParameters] at stamped
    simp only [Call.added, formSize_cons, formSize_nil, entrySize]
    refine ⟨by omega, ?_⟩
    intro full entry member present
    rcases List.mem_cons.mp member with rfl | member
    · have lost := formSize_assign_of_mem params services.layouts.stamped
        (toString services.clock) present
      rw [← stampedParameters] at lost
      have length : "timestamp".length = 9 := rfl
      omega
    · have carried : "signature" ∈ params.order := by
        rw [List.mem_singleton.mp member] at present
        exact present
      have lost := formSize_assign_of_mem (stampedParameters services.layouts services.clock params)
        services.layouts.signed
        (sign services.hmac credentials (signedQuery services.layouts services.clock params))
        (UnorderedMap.mem_order_assign.mpr (.inr carried))
      have length : "signature".length = 9 := rfl
      omega

theorem entries_sent_perm {call : Call}
    (fresh : ∀ entry ∈ call.added services credentials params, entry.1 ∉ params.order) :
    (call.sent services credentials params).entries.Perm
      (params.entries ++ call.added services credentials params) := by
  cases call with
  | publicGet => simpa [Call.sent, Call.added] using params.entries_copy_perm _
  | asyncPublicGet => simpa [Call.sent, Call.added] using params.entries_copy_perm _
  | signed method =>
    have unstamped : "timestamp" ∉ params.order := fresh _ List.mem_cons_self
    have unsigned :
        "signature" ∉ (stampedParameters services.layouts services.clock params).order := by
      rw [stampedParameters, UnorderedMap.mem_order_assign]
      rintro (impossible | present)
      · revert impossible
        decide
      · exact fresh _ (List.mem_cons_of_mem _ List.mem_cons_self) present
    refine (entries_sent_perm_signed method _ _).trans ?_
    refine (UnorderedMap.entries_assign_perm unsigned).trans ?_
    refine ((UnorderedMap.entries_assign_perm unstamped).cons _).trans ?_
    refine (List.Perm.swap _ _ _).trans ?_
    change (Call.added services credentials params (.signed method) ++ params.entries).Perm _
    exact List.perm_append_comm

/-- A call is faithful exactly if its text is received whole and its entries are read one by
one as they are. -/
theorem faithful_iff_flatMap {limits : RateLimits} {path : String} (reachable : IsTarget path)
    (call : Call) :
    call.Faithful services credentials limits path params ↔
      call.received (call.text services credentials params).toList =
          (call.text services credentials params).toList ∧
        ((call.sent services credentials params).entries.flatMap
          fun entry => decodeForm (formPair entry)).Perm
            (params.entries ++ call.added services credentials params) := by
  obtain ⟨request, built, carries⟩ :=
    exists_request_carries reachable services credentials limits params call
  obtain ⟨bounded, -⟩ := formSize_sent services credentials params call
  obtain ⟨-, full⟩ := formSize_received call (call.sent services credentials params).entries
  unfold Call.Faithful
  rw [built, ← decodeForm_joinPairs]
  constructor
  · rintro ⟨same, payload, ⟨⟩, found, decoded⟩
    obtain rfl := carries.only payload found
    have sizes := formSize_perm decoded
    have whole := full (by rw [Call.text] at sizes; omega)
    refine ⟨whole, ?_⟩
    rw [← whole]
    exact decoded
  · rintro ⟨whole, decoded⟩
    exact ⟨request, _, rfl, carries.whole whole, decoded⟩

theorem faithful_iff {limits : RateLimits} {path : String} (reachable : IsTarget path)
    (call : Call) :
    call.Faithful services credentials limits path params ↔
      (∀ entry ∈ params.entries, call.Legible entry) ∧
        ∀ entry ∈ call.added services credentials params, entry.1 ∉ params.order := by
  obtain ⟨bounded, unused⟩ := formSize_sent services credentials params call
  rw [faithful_iff_flatMap reachable, received_eq_iff, Call.text, visible_joinPairs_iff]
  constructor
  · rintro ⟨visible, decoded⟩
    have sizes := formSize_perm decoded
    have lost := formSize_flatMap_le (call.sent services credentials params).entries
    have fresh := unused (by omega)
    refine ⟨fun entry member => Call.legible_iff.mpr ⟨?_, fun inTarget => ?_⟩, fresh⟩
    · exact transparent_of_flatMap_full (by omega)
        (decoded.mem_iff.mpr (List.mem_append_left _ member))
    · exact visible inTarget entry
        ((entries_sent_perm fresh).mem_iff.mpr (List.mem_append_left _ member))
  · rintro ⟨legible, fresh⟩
    have same := entries_sent_perm fresh
    have each : ∀ entry ∈ (call.sent services credentials params).entries, call.Legible entry := by
      intro entry member
      rcases List.mem_append.mp (same.mem_iff.mp member) with own | added
      · exact legible entry own
      · exact legible_added services credentials params call entry added
    refine ⟨fun inTarget entry member => (Call.legible_iff.mp (each entry member)).2 inTarget, ?_⟩
    rw [flatMap_decodeForm_eq fun entry member => (Call.legible_iff.mp (each entry member)).1]
    exact same

end Sent

section Orders

variable {Double : Type} {numerals : Numerals Double} {call : Call}

/-- All texts of an order have a property. -/
def OrderTexts (holds : String → Prop) (numerals : Numerals Double)
    (request : NewOrderRequest Double) : Prop :=
  holds request.symbol ∧ (∀ id ∈ request.clientOrderId, holds id) ∧
    holds (numerals.toString request.quantity) ∧
      (∀ price ∈ request.price, holds (numerals.toString price)) ∧
        ∀ stopPrice ∈ request.stopPrice, holds (numerals.toString stopPrice)

def CancellationTexts (holds : String → Prop) (request : CancelOrderRequest) : Prop :=
  holds request.symbol ∧ ∀ id ∈ request.clientOrderId, holds id

theorem OrderTexts.imp {holds other : String → Prop} {request : NewOrderRequest Double}
    (implied : ∀ text, holds text → other text) (texts : OrderTexts holds numerals request) :
    OrderTexts other numerals request := by
  obtain ⟨symbol, id, quantity, price, stopPrice⟩ := texts
  exact ⟨implied _ symbol, fun text own => implied _ (id text own), implied _ quantity,
    fun value own => implied _ (price value own),
    fun value own => implied _ (stopPrice value own)⟩

/-- The texts of an order are read as they are written. -/
def PlainOrder (numerals : Numerals Double) (request : NewOrderRequest Double) : Prop :=
  OrderTexts PlainText numerals request

def PlainCancellation (request : CancelOrderRequest) : Prop :=
  CancellationTexts PlainText request

theorem reads_side (side : Side) : call.Reads side.toString := by
  cases side <;> exact ⟨by decide, fun _ => by decide⟩

theorem reads_type (type : Core.OrderType) : call.Reads type.toString := by
  cases type <;> exact ⟨by decide, fun _ => by decide⟩

theorem reads_timeInForce (timeInForce : TimeInForce) : call.Reads timeInForce.toString := by
  cases timeInForce <;> exact ⟨by decide, fun _ => by decide⟩

theorem legible_newOrder_iff (call : Call) (layout : Layout String)
    (request : NewOrderRequest Double) :
    (∀ entry ∈ (buildNewOrderParams numerals layout request).entries, call.Legible entry) ↔
      OrderTexts call.Reads numerals request := by
  simp only [buildNewOrderParams, ite_assign_eq_assignOptional]
  rw [forall_entries_assignOptional, forall_entries_assignOptional, forall_entries_assignOptional,
    forall_entries_assignOptional, UnorderedMap.forall_entries_assign,
    UnorderedMap.forall_entries_assign, UnorderedMap.forall_entries_assign,
    UnorderedMap.forall_entries_assign]
  · simp (disch := decide) only [legible_iff_of_key, Option.forall_mem_map]
    constructor
    · rintro ⟨stopPrice, id, price, -, quantity, -, -, symbol, -⟩
      exact ⟨symbol, id, quantity, price, stopPrice⟩
    · rintro ⟨symbol, id, quantity, price, stopPrice⟩
      refine ⟨stopPrice, id, price, ?_, quantity, reads_type _, reads_side _, symbol, nofun⟩
      split
      · rintro text ⟨⟩
        exact reads_timeInForce _
      · nofun
  all_goals simp [mem_order_assignOptional, UnorderedMap.empty]

theorem legible_cancellation_iff (call : Call) (layout : Layout String)
    (request : CancelOrderRequest) :
    (∀ entry ∈ (buildCancelParams layout request).entries, call.Legible entry) ↔
      CancellationTexts call.Reads request := by
  simp only [buildCancelParams]
  rw [forall_entries_assignOptional, forall_entries_assignOptional,
    UnorderedMap.forall_entries_assign]
  · simp (disch := decide) only [legible_iff_of_key, Option.forall_mem_map]
    constructor
    · rintro ⟨id, -, symbol, -⟩
      exact ⟨symbol, id⟩
    · rintro ⟨symbol, id⟩
      exact ⟨id, fun _ _ => ⟨plainText_toString_nat _, fun _ => visible_toString _⟩, symbol, nofun⟩
  all_goals simp [mem_order_assignOptional, UnorderedMap.empty]

/-- Neither kind of request has a parameter that signing adds. -/
theorem fresh_newOrder (services : Services) (credentials : Credentials) (call : Call)
    (layout : Layout String) (request : NewOrderRequest Double) :
    ∀ entry ∈ call.added services credentials (buildNewOrderParams numerals layout request),
      entry.1 ∉ (buildNewOrderParams numerals layout request).order := by
  cases call with
  | publicGet => nofun
  | asyncPublicGet => nofun
  | signed method =>
    simp [Call.added, buildNewOrderParams, ite_assign_eq_assignOptional, mem_order_assignOptional,
      UnorderedMap.empty]

theorem fresh_cancellation (services : Services) (credentials : Credentials) (call : Call)
    (layout : Layout String) (request : CancelOrderRequest) :
    ∀ entry ∈ call.added services credentials (buildCancelParams layout request),
      entry.1 ∉ (buildCancelParams layout request).order := by
  cases call with
  | publicGet => nofun
  | asyncPublicGet => nofun
  | signed method =>
    simp [Call.added, buildCancelParams, mem_order_assignOptional, UnorderedMap.empty]

theorem faithful_newOrder_iff {services : Services} {credentials : Credentials}
    {limits : RateLimits} {path : String} (reachable : IsTarget path) (call : Call)
    (request : NewOrderRequest Double) :
    call.Faithful services credentials limits path
      (buildNewOrderParams numerals services.layouts.filled request) ↔
        OrderTexts call.Reads numerals request := by
  rw [faithful_iff reachable, legible_newOrder_iff]
  exact and_iff_left (fresh_newOrder services credentials call _ request)

theorem faithful_cancellation_iff {services : Services} {credentials : Credentials}
    {limits : RateLimits} {path : String} (reachable : IsTarget path) (call : Call)
    (request : CancelOrderRequest) :
    call.Faithful services credentials limits path
      (buildCancelParams services.layouts.filled request) ↔
        CancellationTexts call.Reads request := by
  rw [faithful_iff reachable, legible_cancellation_iff]
  exact and_iff_left (fresh_cancellation services credentials call _ request)

end Orders

/-- The exchange reads from a request exactly the entries of the caller, each once, and
what signing adds, if and only if every entry is read as it is written and no key of the
caller is one that signing adds. A text is read as it is written if it has no `&`, no `+` and
no escape, a key moreover no `=`, and where the parameters are sent in the request line, no
blank and no control character. For an order this is a question of its symbol, its identifier
and the texts of its amounts; for a cancellation, of symbol and identifier. -/
theorem parameters_faithful_iff (services : Services) (credentials : Credentials)
    (limits : RateLimits) (path : String) (reachable : IsTarget path) (call : Call) :
    (∀ params : Params, call.Faithful services credentials limits path params ↔
      (∀ entry ∈ params.entries, call.Legible entry) ∧
        ∀ entry ∈ call.added services credentials params, entry.1 ∉ params.order) ∧
    (∀ (Double : Type) (numerals : Numerals Double) (request : NewOrderRequest Double),
      call.Faithful services credentials limits path
        (buildNewOrderParams numerals services.layouts.filled request) ↔
          OrderTexts call.Reads numerals request) ∧
    ∀ request : CancelOrderRequest,
      call.Faithful services credentials limits path
        (buildCancelParams services.layouts.filled request) ↔
          CancellationTexts call.Reads request :=
  ⟨fun _ => faithful_iff reachable call, fun _ _ => faithful_newOrder_iff reachable call,
    faithful_cancellation_iff reachable call⟩

/-- A cancellation by an identifier that is visible reaches the exchange; one that ends the
request line does not, although no character of it is one that decoding treats apart. -/
theorem parameters_faithful_canceled :
    let services := offline ⟨.keep, .keep, .keep, .keep⟩ 1
    let params (id : String) := buildCancelParams .keep ⟨"BTCUSDT", none, some id⟩
    (Call.signed .delete).Faithful services ⟨none⟩ ⟨0, 0, 0⟩ "/api/v3/order" (params "my-order") ∧
      PlainText "x HTTP/1.1\r\nHost: h\r\n\r\n" ∧
      ¬ (Call.signed .delete).Faithful services ⟨none⟩ ⟨0, 0, 0⟩ "/api/v3/order"
        (params "x HTTP/1.1\r\nHost: h\r\n\r\n") := by
  intro services params
  have read (id : String) := (parameters_faithful_iff services ⟨none⟩ ⟨0, 0, 0⟩ "/api/v3/order"
    (by decide) (.signed .delete)).2.2 ⟨"BTCUSDT", none, some id⟩
  refine ⟨(read "my-order").mpr ⟨⟨by decide, fun _ => by decide⟩, ?_⟩, by decide, ?_⟩
  · rintro id ⟨⟩
    exact ⟨by decide, fun _ => by decide⟩
  · intro faithful
    have visible := (((read _).mp faithful).2 _ rfl).2 rfl
    revert visible
    decide

/-- An order whose identifier carries a second quantity. -/
def injectedOrder : NewOrderRequest Nat where
  symbol := "BTCUSDT"
  side := .buy
  type := .market
  timeInForce := .gtc
  quantity := 1
  price := none
  clientOrderId := some "x&quantity=9"
  stopPrice := none

/-- The exchange reads both quantities. -/
theorem injected_quantity_read :
    let services := offline ⟨.keep, .keep, .keep, .keep⟩ 1
    let numerals : Numerals Nat := ⟨fun _ => .error .invalidArgument, toString⟩
    let params := buildNewOrderParams numerals .keep injectedOrder
    (signedPostRequest services ⟨some ⟨none⟩, ⟨0, 0, 0⟩⟩ "/api/v3/order" params).map
        (fun request => (request.payload "/api/v3/order").map decodeForm) =
      .ok (some [("signature", ""), ("timestamp", "1"), ("newClientOrderId", "x"),
        ("quantity", "9"), ("quantity", "1"), ("type", "MARKET"), ("side", "BUY"),
        ("symbol", "BTCUSDT")]) ∧
      ¬ (Call.signed .post).Faithful services ⟨none⟩ ⟨0, 0, 0⟩ "/api/v3/order" params := by
  refine ⟨by decide +kernel, ?_⟩
  intro faithful
  have reads := (faithful_newOrder_iff (by decide) _ _).mp faithful
  have unsplit := (reads.2.1 _ rfl).1.1
  revert unsplit
  decide

end Bintrade.Rest
