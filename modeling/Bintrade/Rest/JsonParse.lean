import Bintrade.Models.Order

/-! Reading response bodies. The JSON parser and the numeral conversions of the
standard library are parameters. -/

namespace Bintrade.Rest

open Bintrade.System Bintrade.Core Bintrade.Models

abbrev JsonParser := String → Except JsonError Json

/-- The conversions between texts and floating values. -/
structure Numerals (Double : Type) where
  stod : String → Except NumeralError Double
  toString : Double → String

def checkApiError (statusCode : Int) (json : Json) : Except Exception Unit :=
  if 400 ≤ statusCode then
    match json.member? "code", json.member? "msg" with
    | some code, some message => do
      let code ← throwJson code.getInt
      let message ← throwJson message.getString
      throw (.api code message)
    | _, _ => pure ()
  else pure ()

def parseResponse (parse : JsonParser) (statusCode : Int) (body : String) :
    Except Exception Json :=
  if body.isEmpty then
    if 400 ≤ statusCode then throw (.api statusCode "Empty error response") else pure .null
  else do
    let json ← throwJson (parse body)
    checkApiError statusCode json
    pure json

section ParseOrder

variable {Double : Type} (numerals : Numerals Double)

def stod (text : String) : Except Exception Double :=
  throwNumeral "stod" (numerals.stod text)

def text (json : Json) (key fallback : String) : Except Exception String :=
  throwJson (json.value Json.getString key fallback)

def amount (json : Json) (key : String) : Except Exception Double := do
  stod numerals (← text json key "0")

/-- A member that is a time in milliseconds. -/
def time (json : Json) (key : String) : Except Exception Int :=
  timestamp <$> throwJson (json.value Json.getInt64 key 0)

/-- A member that is an identifier or a count. -/
def count (json : Json) (key : String) : Except Exception Int :=
  throwJson (json.value Json.getUInt64 key 0)

def parseOrder (json : Json) : Except Exception (Order Double) := do
  let symbol ← text json "symbol" ""
  let orderId ← count json "orderId"
  let clientOrderId ← text json "clientOrderId" ""
  let price ← amount numerals json "price"
  let origQty ← amount numerals json "origQty"
  let executedQty ← amount numerals json "executedQty"
  let cummulativeQuoteQty ← amount numerals json "cummulativeQuoteQty"
  let status ← orderStatusFromString (← text json "status" "NEW")
  let type ← orderTypeFromString (← text json "type" "LIMIT")
  let side ← sideFromString (← text json "side" "BUY")
  let timeInForce ← timeInForceFromString (← text json "timeInForce" "GTC")
  let time ← time json "time"
  let updateTime ← Rest.time json "updateTime"
  pure {
    symbol, orderId, clientOrderId, price, origQty, executedQty, cummulativeQuoteQty,
    status, type, side, timeInForce, time, updateTime }

end ParseOrder

/-- The bodies that `parse_response` recognises as an error: an empty one, and an
object whose `code` is a number or a boolean and whose `msg` is a string. -/
def ReportsError (parse : JsonParser) (body : String) : Prop :=
  body = "" ∨ ∃ json code message, parse body = .ok json ∧ json.member? "code" = some code ∧
    json.member? "msg" = some message ∧ (code.isNumber = true ∨ code.isBoolean = true) ∧
      message.isString = true

theorem raisesApi_checkApiError {statusCode : Int} {json : Json} (failed : 400 ≤ statusCode) :
    RaisesApi (checkApiError statusCode json) ↔
      ∃ code message, json.member? "code" = some code ∧ json.member? "msg" = some message ∧
        (code.isNumber = true ∨ code.isBoolean = true) ∧ message.isString = true := by
  unfold checkApiError
  rw [if_pos failed]
  split
  · rename_i code message hasCode hasMessage
    simp only [raisesApi_bind, not_raisesApi_throwJson, false_or, throwJson_eq_ok]
    constructor
    · rintro ⟨codeValue, codeRead, messageValue, messageRead, -⟩
      exact ⟨code, message, hasCode, hasMessage, Json.getInt_isOk.mp ⟨codeValue, codeRead⟩,
        Json.getString_isOk.mp ⟨messageValue, messageRead⟩⟩
    · rintro ⟨sameCode, sameMessage, foundCode, foundMessage, numeric, textual⟩
      rw [hasCode] at foundCode
      rw [hasMessage] at foundMessage
      cases foundCode
      cases foundMessage
      obtain ⟨codeValue, codeRead⟩ := Json.getInt_isOk.mpr numeric
      obtain ⟨messageValue, messageRead⟩ := Json.getString_isOk.mpr textual
      exact ⟨codeValue, codeRead, messageValue, messageRead, _, rfl, rfl⟩
  · rename_i incomplete
    constructor
    · intro raised
      exact absurd raised (not_raisesApi_pure _)
    · rintro ⟨code, message, hasCode, hasMessage, -⟩
      exact absurd hasMessage (incomplete code message hasCode)

/-- For an error status, `parse_response` raises `ApiException` on exactly the bodies
it recognises. -/
theorem raisesApi_parseResponse {parse : JsonParser} {statusCode : Int} {body : String}
    (failed : 400 ≤ statusCode) :
    RaisesApi (parseResponse parse statusCode body) ↔ ReportsError parse body := by
  unfold parseResponse ReportsError
  rw [if_pos failed]
  split
  · rename_i empty
    constructor
    · intro _
      exact .inl (String.isEmpty_iff.mp empty)
    · intro _
      exact ⟨_, rfl, rfl⟩
  · rename_i nonempty
    have filled : body ≠ "" := fun empty => nonempty (String.isEmpty_iff.mpr empty)
    simp only [raisesApi_bind, not_raisesApi_throwJson, not_raisesApi_pure, false_or,
      throwJson_eq_ok, raisesApi_checkApiError failed, and_false, exists_false, or_false, filled]
    constructor
    · rintro ⟨json, parsed, code, message, rest⟩
      exact ⟨json, code, message, parsed, rest⟩
    · rintro ⟨json, code, message, parsed, rest⟩
      exact ⟨json, parsed, code, message, rest⟩

theorem not_raisesApi_checkApiError {statusCode : Int} {json : Json} (fine : statusCode < 400) :
    ¬ RaisesApi (checkApiError statusCode json) := by
  unfold checkApiError
  rw [if_neg (by omega)]
  exact not_raisesApi_pure _

/-- Below 400 nothing is reported, whatever the body says. -/
theorem not_raisesApi_parseResponse {parse : JsonParser} {statusCode : Int} {body : String}
    (fine : statusCode < 400) : ¬ RaisesApi (parseResponse parse statusCode body) := by
  unfold parseResponse
  split
  · rw [if_neg (by omega)]
    exact not_raisesApi_pure _
  · simp [not_raisesApi_checkApiError fine]

theorem checkApiError_isOk {statusCode : Int} {json : Json} (failed : 400 ≤ statusCode) :
    checkApiError statusCode json = .ok () ↔
      (json.member? "code").isNone = true ∨ (json.member? "msg").isNone = true := by
  unfold checkApiError
  rw [if_pos failed]
  cases json.member? "code" with
  | none => simp [pure, Except.pure]
  | some code =>
    cases json.member? "msg" with
    | none => simp [pure, Except.pure]
    | some message =>
      refine iff_of_false ?_ (by simp)
      intro returned
      simp only [bind_eq_ok] at returned
      obtain ⟨_, _, _, _, impossible⟩ := returned
      cases impossible

/-- An error status is passed over exactly if the body says nothing of an error. -/
theorem parseResponse_isOk {parse : JsonParser} {statusCode : Int} {body : String}
    (failed : 400 ≤ statusCode) :
    (∃ json, parseResponse parse statusCode body = .ok json) ↔
      body.isEmpty = false ∧ ∃ json, parse body = .ok json ∧
        ((json.member? "code").isNone = true ∨ (json.member? "msg").isNone = true) := by
  unfold parseResponse
  cases body.isEmpty with
  | true => simp [failed]
  | false =>
    simp only [Bool.false_eq_true, if_false, bind_eq_ok, throwJson_eq_ok,
      checkApiError_isOk failed, true_and]
    constructor
    · rintro ⟨result, json, parsed, ⟨⟩, accepted, -⟩
      exact ⟨json, parsed, accepted⟩
    · rintro ⟨json, parsed, accepted⟩
      exact ⟨json, json, parsed, (), accepted, rfl⟩

theorem not_raisesApi_parseOrder {Double : Type} (numerals : Numerals Double) (json : Json) :
    ¬ RaisesApi (parseOrder numerals json) := by
  simp [parseOrder, text, amount, stod, count, time, orderStatusFromString, orderTypeFromString,
    sideFromString, timeInForceFromString]

end Bintrade.Rest
