import Bintrade.Core.Stoi
import Bintrade.Rest.HttpClient
import Bintrade.Rest.SignatureCoverage

/-! The rate-limit counters of a client over a session of calls. Whatever the calls are and
however they end, each counter shows the last field of its name that any response had. -/

namespace Bintrade.Rest

open Bintrade.System Bintrade.Core HttpClient

/-- The methods of the client that send a request. -/
inductive Method where
  | ping
  | serverTime
  | publicGet (path : String) (params : Params)
  | signedGet (path : String) (params : Params)
  | signedPost (path : String) (params : Params)
  | signedDelete (path : String) (params : Params)
  | asyncPing
  | asyncServerTime
  | asyncPublicGet (path : String) (params : Params)
  | asyncSignedGet (path : String) (params : Params)
  | asyncSignedPost (path : String) (params : Params)
  | asyncSignedDelete (path : String) (params : Params)

section Methods

variable (services : Services) (client : Client)

/-- The client after a call, whether it returned or threw. -/
def Method.after : Method → Client
  | .ping => (Rest.ping services client).2
  | .serverTime => (Rest.serverTime services client).2
  | .publicGet path params => (Rest.publicGet services client path params).2
  | .signedGet path params => (Rest.signedGet services client path params).2
  | .signedPost path params => (Rest.signedPost services client path params).2
  | .signedDelete path params => (Rest.signedDelete services client path params).2
  | .asyncPing => (Rest.asyncPing services client).2
  | .asyncServerTime => (Rest.asyncServerTime services client).2
  | .asyncPublicGet path params => (Rest.asyncPublicGet services client path params).2
  | .asyncSignedGet path params => (Rest.asyncSignedGet services client path params).2
  | .asyncSignedPost path params => (Rest.asyncSignedPost services client path params).2
  | .asyncSignedDelete path params => (Rest.asyncSignedDelete services client path params).2

/-- What a call sends, if it comes to that. -/
def Method.request : Method → Except Exception HttpRequest
  | .ping => pure (get services.layouts.copied "/api/v3/ping" .empty)
  | .serverTime => pure (get services.layouts.copied "/api/v3/time" .empty)
  | .publicGet path params => pure (get services.layouts.copied path params)
  | .signedGet path params => signedGetRequest services client path params
  | .signedPost path params => signedPostRequest services client path params
  | .signedDelete path params => signedDeleteRequest services client path params
  | .asyncPing => pure (asyncGet services.layouts.copied "/api/v3/ping" .empty)
  | .asyncServerTime => pure (asyncGet services.layouts.copied "/api/v3/time" .empty)
  | .asyncPublicGet path params => pure (asyncGet services.layouts.copied path params)
  | .asyncSignedGet path params => asyncSignedGetRequest services client path params
  | .asyncSignedPost path params => asyncSignedPostRequest services client path params
  | .asyncSignedDelete path params => asyncSignedDeleteRequest services client path params

end Methods

/-- A call, with the network that answers it. -/
structure Invocation where
  services : Services
  network : HttpRequest → Except Exception RawResponse
  method : Method

/-- The libraries of a call: `std::stoi`, and a transport that converts the responses of the
network. -/
def Invocation.online (invocation : Invocation) : Services :=
  { invocation.services with
    stoi := stoi
    execute := fun request => (invocation.network request).map toResponse }

def Invocation.after (invocation : Invocation) (client : Client) : Client :=
  invocation.method.after invocation.online client

/-- The response that a call receives, if it receives one. -/
def Invocation.received (invocation : Invocation) (client : Client) : Option RawResponse :=
  (invocation.method.request invocation.online client >>= invocation.network).toOption

/-- The client after a session. -/
def session (client : Client) : List Invocation → Client
  | [] => client
  | invocation :: rest => session (invocation.after client) rest

/-- The responses of a session. -/
def responses (client : Client) : List Invocation → List RawResponse
  | [] => []
  | invocation :: rest =>
    (invocation.received client).toList ++ responses (invocation.after client) rest

/-- The counters. -/
inductive Limit where
  | usedWeight1m
  | orderCount10s
  | orderCount1d

def Limit.header : Limit → String
  | .usedWeight1m => "x-mbx-used-weight-1m"
  | .orderCount10s => "x-mbx-order-count-10s"
  | .orderCount1d => "x-mbx-order-count-1d"

def Limit.value : Limit → RateLimits → Int
  | .usedWeight1m, limits => limits.usedWeight1m
  | .orderCount10s, limits => limits.orderCount10s
  | .orderCount1d, limits => limits.orderCount1d

/-- What a counter shows of a text. -/
def countOf (text : String) : Int :=
  match stoi text with
  | .ok count => count
  | .error _ => -1

section Tracking

/-- Every method records the limits of the response that it receives. -/
theorem Method.after_eq (services : Services) (client : Client) (method : Method) :
    method.after services client =
      match method.request services client >>= services.execute with
      | .ok response =>
        { client with limits := updateRateLimits services response client.limits }
      | .error _ => client := by
  have exchanged {α : Type} (request : Except Exception HttpRequest)
      (read : HttpResponse → Except Exception α) :
      (exchange services client request read).2 =
        match request >>= services.execute with
        | .ok response =>
          { client with limits := updateRateLimits services response client.limits }
        | .error _ => client := by
    unfold exchange
    cases request >>= services.execute <;> rfl
  cases method <;> exact exchanged _ _

theorem Invocation.after_eq (invocation : Invocation) (client : Client) :
    invocation.after client =
      match invocation.received client with
      | some raw =>
        { client with
          limits := updateRateLimits invocation.online (toResponse raw) client.limits }
      | none => client := by
  rw [Invocation.after, Method.after_eq, Invocation.received]
  cases invocation.method.request invocation.online client with
  | error error => rfl
  | ok request =>
    simp only [bind, Except.bind, Invocation.online]
    cases invocation.network request <;> rfl

theorem Limit.value_updateRateLimits (limit : Limit) (services : Services)
    (response : HttpResponse) (limits : RateLimits) :
    limit.value (updateRateLimits services response limits) =
      counter services response limit.header (limit.value limits) := by
  cases limit <;> rfl

/-- A counter follows the last field of its name, and stays as it is without one. -/
theorem Limit.value_after (limit : Limit) (invocation : Invocation) (client : Client) :
    limit.value (invocation.after client).limits =
      ((lastValue limit.header ((invocation.received client).toList.flatMap
        RawResponse.fields)).map countOf).getD (limit.value client.limits) := by
  rw [Invocation.after_eq]
  cases invocation.received client with
  | none => rfl
  | some raw =>
    have fields : (some raw).toList.flatMap RawResponse.fields = raw.fields := by simp
    rw [fields, ← find?_toResponse]
    simp only [Limit.value_updateRateLimits, counter]
    cases (toResponse raw).headers.find? limit.header <;> rfl

theorem Limit.value_session (limit : Limit) (client : Client) (calls : List Invocation) :
    limit.value (session client calls).limits =
      ((lastValue limit.header ((responses client calls).flatMap RawResponse.fields)).map
        countOf).getD (limit.value client.limits) := by
  induction calls generalizing client with
  | nil => rfl
  | cons invocation rest ih =>
    rw [session, ih, responses, List.flatMap_append, lastValue_append, limit.value_after]
    cases lastValue limit.header ((responses (invocation.after client) rest).flatMap
      RawResponse.fields) <;> rfl

theorem lastValue_eq_some {name : String} {earlier later : List (String × String)}
    {field : String × String} (named : toLower field.1 = name)
    (last : ∀ other ∈ later, toLower other.1 ≠ name) :
    lastValue name (earlier ++ field :: later) = some field.2 := by
  have none_later : later.filter (fun other => toLower other.1 = name) = [] := by
    simpa using last
  simp [lastValue, named, none_later]

theorem lastValue_eq_none {name : String} {fields : List (String × String)}
    (absent : ∀ field ∈ fields, toLower field.1 ≠ name) : lastValue name fields = none := by
  simpa [lastValue] using absent

theorem countOf_toString {count : Int} (fits : FitsInt count) :
    countOf (toString count) = count := by
  rw [countOf, stoi_toString fits]

end Tracking

/-- After any calls, whether they returned or threw, a counter shows the last field of its
name among all the fields of all the responses, in whatever case it was written: its number,
if it is a decimal numeral in the range of `int`, and -1 if `std::stoi` fails. Without such a
field it is as it was. -/
theorem rate_limits_follow_responses (client : Client) (calls : List Invocation) (limit : Limit) :
    (∀ earlier field later,
        (responses client calls).flatMap RawResponse.fields = earlier ++ field :: later →
          toLower field.1 = limit.header → (∀ other ∈ later, toLower other.1 ≠ limit.header) →
            limit.value (session client calls).limits = countOf field.2 ∧
              ∀ count : Int, FitsInt count → field.2 = toString count →
                limit.value (session client calls).limits = count) ∧
      ((∀ field ∈ (responses client calls).flatMap RawResponse.fields,
          toLower field.1 ≠ limit.header) →
        limit.value (session client calls).limits = limit.value client.limits) := by
  rw [limit.value_session]
  constructor
  · intro earlier field later split named last
    rw [split, lastValue_eq_some named last]
    refine ⟨rfl, ?_⟩
    intro count fits written
    rw [written]
    exact countOf_toString fits
  · intro absent
    rw [lastValue_eq_none absent]
    rfl

/-- A public request that is answered with one field. -/
def answered (statusCode : Int) (name value : String) : Invocation where
  services := offline ⟨.keep, .keep, .keep, .keep⟩ 0
  network _ := .ok ⟨11, statusCode, [(name, value)], ""⟩
  method := .publicGet "/api/v3/depth" .empty

/-- The second call throws, and its counter is recorded. -/
theorem rate_limits_follow_responses_banned :
    Limit.usedWeight1m.value (session ⟨none, ⟨0, 0, 0⟩⟩
      [answered 200 "X-MBX-USED-WEIGHT-1M" "1199",
        answered 418 "x-mbx-used-weight-1m" "1200"]).limits = 1200 :=
  ((rate_limits_follow_responses _ _ _).1 [("X-MBX-USED-WEIGHT-1M", "1199")]
    ("x-mbx-used-weight-1m", "1200") [] rfl (by decide) nofun).2 1200 (by decide) rfl

end Bintrade.Rest
