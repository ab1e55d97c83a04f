import Bintrade.Auth.Signer
import Bintrade.Rest.HttpTransport
import Bintrade.Rest.JsonParse

/-! The REST client. Every method builds a request, hands it to the transport,
records the rate limits of the response and reads its body. An asynchronous method
differs from its synchronous one only in how it waits. -/

namespace Bintrade.Rest

open Bintrade.System Bintrade.Core Bintrade.Auth

/-- What one call takes from outside: the clock, the libraries and the network. -/
structure Services where
  hmac : Hmac
  layouts : Layouts
  clock : Int
  parse : JsonParser
  stoi : String → Except NumeralError Int
  execute : HttpRequest → Except Exception HttpResponse

structure RateLimits where
  usedWeight1m : Int
  orderCount10s : Int
  orderCount1d : Int
  deriving DecidableEq

/-- `Client::Impl`. There is a signer whenever there are credentials. -/
structure Client where
  credentials : Option Credentials
  limits : RateLimits

section Methods

variable (services : Services)

/-- A counter that does not parse is recorded as -1. -/
def tryParse (value : String) : Int :=
  match services.stoi value with
  | .ok count => count
  | .error _ => -1

/-- The counter of a response header, or the old value if the header is absent. -/
def counter (response : HttpResponse) (name : String) (previous : Int) : Int :=
  match response.headers.find? name with
  | some value => tryParse services value
  | none => previous

def updateRateLimits (response : HttpResponse) (limits : RateLimits) : RateLimits where
  usedWeight1m := counter services response "x-mbx-used-weight-1m" limits.usedWeight1m
  orderCount10s := counter services response "x-mbx-order-count-10s" limits.orderCount10s
  orderCount1d := counter services response "x-mbx-order-count-1d" limits.orderCount1d

/-- Send a request and read the response. The rate limits are recorded before the
body is read, so an error status changes them too. -/
def exchange {α : Type} (client : Client) (request : Except Exception HttpRequest)
    (read : HttpResponse → Except Exception α) : Except Exception α × Client :=
  match request >>= services.execute with
  | .error error => (.error error, client)
  | .ok response =>
    (read response, { client with limits := updateRateLimits services response client.limits })

def signParams (client : Client) (params : Params) : Except Exception Params :=
  match client.credentials with
  | none => throw (.authentication "No credentials provided for signed request")
  | some credentials =>
    pure (signParameters services.hmac credentials services.layouts services.clock params)

/-- The body of a response whose error status, if it has one, was parsed without an
exception. -/
def checkedBody (response : HttpResponse) : Except Exception String := do
  if 400 ≤ response.statusCode then
    let _ ← parseResponse services.parse response.statusCode response.body
  pure response.body

def readServerTime (response : HttpResponse) : Except Exception Int := do
  let json ← parseResponse services.parse response.statusCode response.body
  time json "serverTime"

def ping (client : Client) : Except Exception Bool × Client :=
  exchange services client (pure (get services.layouts.copied "/api/v3/ping" .empty))
    fun response => pure (response.statusCode = 200)

def serverTime (client : Client) : Except Exception Int × Client :=
  exchange services client (pure (get services.layouts.copied "/api/v3/time" .empty))
    (readServerTime services)

def publicGet (client : Client) (path : String) (params : Params) :
    Except Exception String × Client :=
  exchange services client (pure (get services.layouts.copied path params)) (checkedBody services)

/-- The request of `signed_get`. -/
def signedGetRequest (client : Client) (path : String) (params : Params) :
    Except Exception HttpRequest := do
  let signed ← signParams services client params
  pure (get services.layouts.copied path signed)

def signedGet (client : Client) (path : String) (params : Params) :
    Except Exception String × Client :=
  exchange services client (signedGetRequest services client path params) (checkedBody services)

/-- The request of `signed_post`: the signed parameters are written as a form body. -/
def signedPostRequest (client : Client) (path : String) (params : Params) :
    Except Exception HttpRequest := do
  let signed ← signParams services client params
  pure (post path (joinPairs signed.entries) .empty)

def signedPost (client : Client) (path : String) (params : Params) :
    Except Exception String × Client :=
  exchange services client (signedPostRequest services client path params) (checkedBody services)

/-- The request of `signed_delete`. -/
def signedDeleteRequest (client : Client) (path : String) (params : Params) :
    Except Exception HttpRequest := do
  let signed ← signParams services client params
  pure (del services.layouts.copied path signed)

def signedDelete (client : Client) (path : String) (params : Params) :
    Except Exception String × Client :=
  exchange services client (signedDeleteRequest services client path params)
    (checkedBody services)

def asyncPing (client : Client) : Except Exception Bool × Client :=
  exchange services client (pure (asyncGet services.layouts.copied "/api/v3/ping" .empty))
    fun response => pure (response.statusCode = 200)

def asyncServerTime (client : Client) : Except Exception Int × Client :=
  exchange services client (pure (asyncGet services.layouts.copied "/api/v3/time" .empty))
    (readServerTime services)

def asyncPublicGet (client : Client) (path : String) (params : Params) :
    Except Exception String × Client :=
  exchange services client (pure (asyncGet services.layouts.copied path params))
    (checkedBody services)

/-- The request of `async_signed_get`. -/
def asyncSignedGetRequest (client : Client) (path : String) (params : Params) :
    Except Exception HttpRequest := do
  let signed ← signParams services client params
  pure (asyncGet services.layouts.copied path signed)

def asyncSignedGet (client : Client) (path : String) (params : Params) :
    Except Exception String × Client :=
  exchange services client (asyncSignedGetRequest services client path params)
    (checkedBody services)

/-- The request of `async_signed_post`. -/
def asyncSignedPostRequest (client : Client) (path : String) (params : Params) :
    Except Exception HttpRequest := do
  let signed ← signParams services client params
  pure (asyncPost path (joinPairs signed.entries) .empty)

def asyncSignedPost (client : Client) (path : String) (params : Params) :
    Except Exception String × Client :=
  exchange services client (asyncSignedPostRequest services client path params)
    (checkedBody services)

/-- The request of `async_signed_delete`. -/
def asyncSignedDeleteRequest (client : Client) (path : String) (params : Params) :
    Except Exception HttpRequest := do
  let signed ← signParams services client params
  pure (asyncDel services.layouts.copied path signed)

def asyncSignedDelete (client : Client) (path : String) (params : Params) :
    Except Exception String × Client :=
  exchange services client (asyncSignedDeleteRequest services client path params)
    (checkedBody services)

end Methods

end Bintrade.Rest
