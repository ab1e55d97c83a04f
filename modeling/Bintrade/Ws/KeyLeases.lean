import Bintrade.Ws.ThreadHandles

/-! What becomes of the listen keys that `start()` has received. A key is abandoned where
`start()` stores another one over it, and where `stop()` fails to delete it and clears it. Keys
that the exchange opens without `start()` receiving them are not looked at: in a response that
is lost, or in the answer to a renewal. -/

namespace Bintrade.Ws.UserStream

open Bintrade.System Bintrade.Core Bintrade.Auth Bintrade.Rest

/-- The key that the stream can still renew and delete. -/
def held (stream : UserStream) : List String :=
  if stream.listenKey.isEmpty then [] else [stream.listenKey]

section Calls

variable {stream after : UserStream} {keys : List String}

end Calls

end Bintrade.Ws.UserStream
