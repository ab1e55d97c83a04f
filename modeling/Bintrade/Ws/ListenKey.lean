import Bintrade.Rest.Client

/-! The listen-key requests of a `UserStream`. -/

namespace Bintrade.Ws

open Bintrade.System Bintrade.Core Bintrade.Rest

variable (services : Services)

/-- An error status is parsed for its exception; every other response is a success. -/
def checkStatus (response : HttpResponse) : Except Exception Unit := do
  if 400 ≤ response.statusCode then
    let _ ← parseResponse services.parse response.statusCode response.body

def createListenKey : Except Exception String := do
  let response ← services.execute (post "/api/v3/userDataStream" "" .empty)
  let json ← parseResponse services.parse response.statusCode response.body
  throwJson (json.value Json.getString "listenKey" "")

def renewListenKey (listenKey : String) : Except Exception Unit := do
  let response ← services.execute
    (post ("/api/v3/userDataStream?listenKey=" ++ listenKey) "" .empty)
  checkStatus services response

def deleteListenKey (listenKey : String) : Except Exception Unit := do
  let params : Params := UnorderedMap.empty.assign services.layouts.filled "listenKey" listenKey
  let response ← services.execute (del services.layouts.copied "/api/v3/userDataStream" params)
  checkStatus services response

end Bintrade.Ws
