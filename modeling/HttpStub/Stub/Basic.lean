import HttpStub.Dict
import HttpStub.Http.Response
import HttpStub.Json.Value
import HttpStub.Log

/-!
# Stubs

A stub pairs a pattern for requests with the response that is served for them.

## Main definitions

* `HttpStub.QueryMatcher`, `HttpStub.HeaderMatcher`, `HttpStub.BodyPattern` — conditions on a
  parameter, a header and the body.
* `HttpStub.RequestPattern` — all conditions on a request.
* `HttpStub.RequestPattern.urlMatch` — the one condition on the target that counts.
* `HttpStub.Reply` — what a stub says about its response.
* `HttpStub.Reply.serve` — the response of a stub.
* `HttpStub.Reply.notices` — the events for the log about headers that are left out.
* `HttpStub.Stub` — a pattern with its response.
-/

namespace HttpStub

/-! ## Conditions -/

/-- A condition on the values of a query parameter: one value, or a list of them. -/
structure QueryMatcher where
  equalTo : Option String
  hasExactly : List String
  deriving DecidableEq, Repr

namespace QueryMatcher

/-- The parameter has exactly one value, the given one. -/
def single (value : String) : QueryMatcher :=
  ⟨some value, []⟩

/-- The parameter has exactly the given values. -/
def exactly (values : List String) : QueryMatcher :=
  ⟨none, values⟩

/-- The values that the parameter must have. -/
def expected (m : QueryMatcher) : List String :=
  match m.equalTo with
  | some v => [v]
  | none => m.hasExactly

end QueryMatcher

/-- A condition on the first value of a header. -/
structure HeaderMatcher where
  equalTo : Option String
  contains : Option String
  deriving DecidableEq, Repr

namespace HeaderMatcher

/-- The value is the given text. -/
def exactly (value : String) : HeaderMatcher :=
  ⟨some value, none⟩

/-- The value contains the given text. -/
def containing (part : String) : HeaderMatcher :=
  ⟨none, some part⟩

/-- Any value will do. -/
def any : HeaderMatcher :=
  ⟨none, none⟩

/-- The condition in words, for reports. -/
def describe (m : HeaderMatcher) : String :=
  match m.equalTo, m.contains with
  | some v, _ => "equalTo " ++ v
  | none, some v => "contains " ++ v
  | none, none => "any"

end HeaderMatcher

/-- A condition on the body: it is JSON equal to a value, which may be given as its text. The two
flags are kept but do not change the comparison. -/
structure BodyPattern where
  equalToJson : Option Json.Value
  ignoreArrayOrder : Option Bool
  ignoreExtraElements : Option Bool

/-- The body equals the value of a JSON text, member by member. -/
def BodyPattern.ofJsonText (text : String) : BodyPattern :=
  ⟨some (.string text), some false, some false⟩

/-! ## Patterns -/

/-- The method that stands for all methods. -/
def anyMethod : String := "ANY"

/-- All conditions on a request. -/
structure RequestPattern where
  url : Option String
  urlPath : Option String
  urlPattern : Option String
  method : String
  queryParameters : Dict QueryMatcher
  bodyPatterns : List BodyPattern
  headers : Dict HeaderMatcher

/-- The condition on the target of a request. -/
inductive UrlMatch where
  /-- The whole target, as it is spelled. -/
  | exact (target : String)
  /-- The path alone, as it is spelled. -/
  | path (path : String)
  /-- A regular expression that is found somewhere in the target. -/
  | pattern (regex : String)
  /-- No condition, which no request satisfies. -/
  | unspecified
  deriving DecidableEq, Repr

/-- A text that is given and not empty. -/
def nonEmpty? : Option String → Option String
  | some s => if s.isEmpty then none else some s
  | none => none

namespace RequestPattern

/-- The pattern without any condition but the method. -/
def blank : RequestPattern :=
  ⟨none, none, none, anyMethod, .empty, [], .empty⟩

instance : Inhabited RequestPattern := ⟨blank⟩

/-- The condition on the target that counts: `url` before `urlPath` before `urlPattern`, where an
empty text counts as absent. -/
def urlMatch (p : RequestPattern) : UrlMatch :=
  match nonEmpty? p.url, nonEmpty? p.urlPath, nonEmpty? p.urlPattern with
  | some u, _, _ => .exact u
  | none, some u, _ => .path u
  | none, none, some u => .pattern u
  | none, none, none => .unspecified

end RequestPattern

/-- The text of the condition. -/
def UrlMatch.text : UrlMatch → String
  | .exact u => u
  | .path u => u
  | .pattern u => u
  | .unspecified => ""

/-- The kind of the condition, named like the member of a stub that states it. -/
def UrlMatch.kind : UrlMatch → String
  | .exact _ => "url"
  | .path _ => "urlPath"
  | .pattern _ => "urlPattern"
  | .unspecified => "none"

/-! ## Responses -/

/-- The values of a header of a response: a single one, or a list. -/
inductive HeaderValues where
  | one (value : String)
  | many (values : List String)
  deriving DecidableEq, Repr

namespace HeaderValues

/-- A single value stands alone, others form a list. -/
def ofList : List String → HeaderValues
  | [v] => .one v
  | vs => .many vs

/-- The values in their order. -/
def toList : HeaderValues → List String
  | .one v => [v]
  | .many vs => vs

/-- The values of a header are read back in their order, also when one stands alone. -/
@[simp] theorem toList_ofList (vs : List String) : (ofList vs).toList = vs := by
  match vs with
  | [] => rfl
  | [_] => rfl
  | _ :: _ :: _ => rfl

end HeaderValues

/-- What a stub says about its response. -/
structure Reply where
  status : UInt16
  body : Option String
  jsonBody : Option Json.Value
  headers : Dict HeaderValues
  proxyBaseUrl : Option String

namespace Reply

/-- An empty response of status 200. -/
def blank : Reply :=
  ⟨200, none, none, .empty, none⟩

instance : Inhabited Reply := ⟨blank⟩

/-- The octets of the body. A JSON body counts before a text. -/
def bodyBytes (r : Reply) : Bytes :=
  match r.jsonBody, r.body with
  | some v, _ => Utf8.encodeChars v.chars
  | none, some t => Utf8.encode t
  | none, none => []

/-- The headers that a stub asks for, one value each. Internal ones are not served. -/
def fields (r : Reply) : List (String × String) :=
  (r.headers.entries.filter fun e => !isInternal e.1).flatMap fun (name, vs) =>
    vs.toList.map fun v => (name, v)

/-- The response of a stub: headers that are not legal are left out, a status that HTTP cannot carry
becomes 200. -/
def serve (r : Reply) : Response where
  status := statusOr 200 r.status
  headers := r.fields.foldl (fun h f => (h.append? f.1 (Utf8.encode f.2)).getD h) .empty
  body := r.bodyBytes

/-- The events for the log about headers that are left out. -/
def notices (r : Reply) : List Event :=
  (r.fields.filter fun f => !(isFieldName f.1 && isFieldValue (Utf8.encode f.2))).map fun (n, v) =>
    ⟨.debug, "Skipping invalid stub header " ++ n ++ ": " ++ v⟩

end Reply

/-! ## Stubs -/

/-- A pattern for requests with the response for them, under names. -/
structure Stub where
  id : Option String
  uuid : Option String
  name : Option String
  scenarioName : Option String
  requiredScenarioState : Option String
  newScenarioState : Option String
  request : RequestPattern
  response : Reply

namespace Stub

/-- The stub in which nothing is given. -/
def blank : Stub :=
  ⟨none, none, none, none, none, none, .blank, .blank⟩

instance : Inhabited Stub := ⟨blank⟩

/-- The name for logs and reports. -/
def displayName (s : Stub) : String :=
  s.name.getD ""

end Stub

end HttpStub
