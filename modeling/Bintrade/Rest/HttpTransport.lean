import Bintrade.Core.FormEncoding

/-! Requests and responses of the HTTP transport, and how `HttpClient` builds a
request. Its synchronous methods run the asynchronous ones and wait. -/

namespace Bintrade.Rest

open Bintrade.System Bintrade.Core

inductive Verb where
  | get
  | post
  | delete
  deriving DecidableEq

/-- `http::to_string` of the verb. -/
def verbString : Verb → String
  | .get => "GET"
  | .post => "POST"
  | .delete => "DELETE"

/-- The arguments of `execute`. -/
structure HttpRequest where
  verb : Verb
  target : String
  body : String
  extraHeaders : Params

structure HttpResponse where
  statusCode : Int
  body : String
  headers : Params

def buildQueryString (params : Params) : String :=
  if params.order.isEmpty then "" else joinPairs params.entries

/-- A path with its query, if there is one. -/
def targetWith (path query : String) : String :=
  if query.isEmpty then path else path ++ "?" ++ query

/-- The parameters are passed by value: the coroutine holds a copy. -/
def asyncGet (copied : Layout String) (path : String) (params : Params) : HttpRequest where
  verb := .get
  target := targetWith path (buildQueryString (params.copy copied))
  body := ""
  extraHeaders := .empty

def asyncPost (path body : String) (headers : Params) : HttpRequest where
  verb := .post
  target := path
  body := body
  extraHeaders := headers

def asyncDel (copied : Layout String) (path : String) (params : Params) : HttpRequest where
  verb := .delete
  target := targetWith path (buildQueryString (params.copy copied))
  body := ""
  extraHeaders := .empty

def get (copied : Layout String) (path : String) (params : Params) : HttpRequest :=
  asyncGet copied path params

def post (path body : String) (headers : Params) : HttpRequest := asyncPost path body headers

def del (copied : Layout String) (path : String) (params : Params) : HttpRequest :=
  asyncDel copied path params

end Bintrade.Rest
