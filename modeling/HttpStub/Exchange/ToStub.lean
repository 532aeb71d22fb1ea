import HttpStub.Exchange.Basic
import HttpStub.Http.Request
import HttpStub.Json.Decode
import HttpStub.Json.Normalize
import HttpStub.Stub.Basic

/-!
# The stub of an exchange

## Main definitions

* `HttpStub.SnapshotOptions` — how exchanges are turned into stubs.
* `HttpStub.Exchange.toStub` — the stub that repeats an exchange.

## Design

A request with a query is matched by its path and by the values of each parameter, one without a
query by its whole target. A JSON body of the request becomes a condition on the body.
-/

namespace HttpStub

/-- How exchanges are turned into stubs. -/
structure SnapshotOptions where
  repeatsAsScenarios : Bool
  jsonContentTypes : List String
  preserveKeyOrder : Bool
  sortArrayMembers : Bool
  deriving DecidableEq, Repr

namespace SnapshotOptions

/-- A JSON value in the order that the options ask for. -/
def normalize (o : SnapshotOptions) (v : Json.Value) : Json.Value :=
  v.normalize o.sortArrayMembers o.preserveKeyOrder

end SnapshotOptions

/-- The conditions on the parameters of a query: each has exactly its recorded values. -/
def queryMatchers (query : String) : Dict QueryMatcher :=
  .ofList ((groupBy (· == ·) (queryPairs query)).map fun (name, values) =>
    (name, QueryMatcher.exactly values))

/-- The condition on the body, if the recorded one is JSON. -/
def bodyPattern? (o : SnapshotOptions) (body : Bytes) : Option BodyPattern :=
  if body.isEmpty then none
  else (Json.parse? body).map fun v => .ofJsonText (o.normalize v).compact

namespace Exchange

/-- The pattern for the request of the exchange. -/
def requestPattern (e : Exchange) (o : SnapshotOptions) : RequestPattern :=
  let body := (bodyPattern? o e.requestBody).toList
  let (path, query) := splitTarget e.target
  match nonEmpty? query with
  | some q =>
    { RequestPattern.blank with
      method := e.method, urlPath := some path, queryParameters := queryMatchers q,
      bodyPatterns := body }
  | none =>
    { RequestPattern.blank with method := e.method, url := some path, bodyPatterns := body }

/-- The headers of the response that go into a stub. -/
def replyHeaders (e : Exchange) : Dict HeaderValues :=
  .ofList ((e.groupedHeaders.filter fun g => !isSnapshotExcluded g.1).map fun (name, values) =>
    (titleCase name, HeaderValues.ofList values))

/-- The value of the response's body, if it is announced as JSON and is JSON. -/
def jsonBody? (e : Exchange) (o : SnapshotOptions) : Option Json.Value :=
  if isJsonMediaType e.responseHeaders o.jsonContentTypes then Json.parse? e.responseBody else none

/-- The response of the stub. -/
def reply (e : Exchange) (o : SnapshotOptions) : Reply :=
  match e.jsonBody? o with
  | some v =>
    { Reply.blank with
      status := e.status, headers := e.replyHeaders, jsonBody := some (o.normalize v) }
  | none =>
    { Reply.blank with
      status := e.status, headers := e.replyHeaders,
      body := some (Utf8.decodeLossy e.responseBody) }

/-- The stub that repeats the exchange. -/
def toStub (e : Exchange) (o : SnapshotOptions) : Stub :=
  { Stub.blank with
    name := some (targetName e.target), request := e.requestPattern o, response := e.reply o }

end Exchange

end HttpStub
