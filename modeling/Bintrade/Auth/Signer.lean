import Bintrade.Core.FormEncoding

/-! Credentials and the request signer. HMAC-SHA256 is a parameter. -/

namespace Bintrade.Auth

open Bintrade.System Bintrade.Core

/-- A default constructed or moved-from object has no implementation. -/
structure Credentials where
  impl : Option (String × String)

namespace Credentials

def hasCredentials (credentials : Credentials) : Bool := credentials.impl.isSome

def apiKey (credentials : Credentials) : String :=
  (credentials.impl.map Prod.fst).getD ""

def apiSecret (credentials : Credentials) : String :=
  (credentials.impl.map Prod.snd).getD ""

end Credentials

/-- The digest of a message under a secret. -/
abbrev Hmac := String → String → List UInt8

/-- Two lower-case hexadecimal digits. -/
def hexByte (byte : UInt8) : String :=
  String.ofList [Nat.digitChar (byte.toNat / 16), Nat.digitChar (byte.toNat % 16)]

/-- The iteration orders the library chooses in one request: while the parameters
are filled in, after `timestamp` is inserted, after `signature` is inserted, and for
the copy that a `GET` or `DELETE` passes to its coroutine. -/
structure Layouts where
  filled : Layout String
  stamped : Layout String
  signed : Layout String
  copied : Layout String

section Signer

variable (hmac : Hmac) (credentials : Credentials) (layouts : Layouts) (clock : Int)

def sign (query : String) : String :=
  String.join ((hmac credentials.apiSecret query).map hexByte)

def stampedParameters (params : Params) : Params :=
  params.assign layouts.stamped "timestamp" (toString clock)

/-- The text that is passed to HMAC. -/
def signedQuery (params : Params) : String :=
  joinPairs (stampedParameters layouts clock params).entries

def signParameters (params : Params) : Params :=
  (stampedParameters layouts clock params).assign layouts.signed "signature"
    (sign hmac credentials (signedQuery layouts clock params))

end Signer

end Bintrade.Auth
