import HttpStub.Http.Request
import HttpStub.Json.Canonical
import HttpStub.Json.Decode
import HttpStub.Regex.Match
import HttpStub.Stub.Basic

/-!
# The verdict on a stub

A request is held against every condition of a stub. No condition stops the others, so the verdict
also tells how close a stub is that does not fit.

## Main definitions

* `HttpStub.jsonEqual` — the comparison of a body with an expected JSON value.
* `HttpStub.Difference` — a condition on a parameter or a header that does not hold.
* `HttpStub.Verdict` — which conditions hold.
* `HttpStub.Stub.verdict` — the verdict on a stub for a request.
* `HttpStub.Verdict.matched`, `HttpStub.Verdict.closeness` — what follows from it.
-/

namespace HttpStub

/-! ## Single conditions -/

/-- The method of a pattern admits the method of a request. -/
def methodMatches (expected actual : String) : Bool :=
  Ascii.sameText expected actual || Ascii.sameText expected anyMethod

/-- The condition on the target holds for a request. A pattern that is no regular expression holds
for none. -/
def UrlMatch.admits (u : UrlMatch) (r : Request) : Bool :=
  match u with
  | .exact target => target == r.target
  | .path p => p == r.path
  | .pattern p =>
    match Regex.compile? p with
    | some e => e.isFoundIn r.target
    | none => false
  | .unspecified => false

/-- The value that a body is compared with: the value of the text if a text is given. -/
def expectedJson? : Json.Value → Option Json.Value
  | .string text => Json.parseString? text
  | v => some v

/-- A body is JSON equal to the expected value; a text on either side that is no JSON is equal to
nothing. -/
def jsonEqual (expected : Json.Value) (body : Bytes) : Bool :=
  match expectedJson? expected, Json.parse? body with
  | some v, some w => v.same w
  | _, _ => false

/-- The condition holds for a body. -/
def BodyPattern.admits (p : BodyPattern) (body : Bytes) : Bool :=
  match p.equalToJson with
  | some v => jsonEqual v body
  | none => true

/-- The parameter has the expected values, in any order. -/
def QueryMatcher.admits (m : QueryMatcher) (actual : List String) : Bool :=
  m.expected.isPerm actual

/-- The first value of a header satisfies the condition. Only a text that is not empty is a
condition. -/
def HeaderMatcher.admits (m : HeaderMatcher) (actual : String) : Bool :=
  match nonEmpty? m.equalTo, nonEmpty? m.contains with
  | some v, _ => v == actual
  | none, some part => Text.occursIn part actual
  | none, none => true

/-! ## Differences -/

/-- What a difference is about. -/
inductive Criterion where
  | query
  | header
  deriving DecidableEq, Repr

/-- How a request differs from a condition. -/
inductive DifferenceKind where
  /-- The request has nothing of this name. -/
  | absent
  /-- The request has something else. -/
  | mismatch
  deriving DecidableEq, Repr

/-- A condition on a parameter or a header that does not hold. -/
structure Difference where
  criterion : Criterion
  kind : DifferenceKind
  name : String
  expected : List String
  actual : List String
  deriving DecidableEq, Repr

/-- The difference of a request from a condition on a parameter. -/
def QueryMatcher.difference? (r : Request) (name : String) (m : QueryMatcher) :
    Option Difference :=
  let actual := r.queryValues name
  if m.admits actual then none
  else some ⟨.query, if actual.isEmpty then .absent else .mismatch, name, m.expected, actual⟩

/-- The difference of a request from a condition on a header. An empty value counts as absent. -/
def HeaderMatcher.difference? (r : Request) (name : String) (m : HeaderMatcher) :
    Option Difference :=
  let actual := r.headers.text name
  if m.admits actual then none
  else if actual.isEmpty then some ⟨.header, .absent, name, [m.describe], []⟩
  else some ⟨.header, .mismatch, name, [m.describe], [actual]⟩

namespace RequestPattern

/-- The differences in the parameters, in the order of their names. -/
def queryDifferences (p : RequestPattern) (r : Request) : List Difference :=
  p.queryParameters.entries.filterMap fun (name, m) => m.difference? r name

/-- The differences in the headers, in the order of their names. -/
def headerDifferences (p : RequestPattern) (r : Request) : List Difference :=
  p.headers.entries.filterMap fun (name, m) => m.difference? r name

end RequestPattern

/-! ## Verdicts -/

/-- Which conditions of a stub hold, and the differences from those that do not. -/
structure Verdict where
  method : Bool
  url : Bool
  query : Bool
  body : Bool
  headers : Bool
  differences : List Difference
  deriving DecidableEq, Repr

namespace Verdict

/-- The verdict where there is no stub. -/
def nothing : Verdict :=
  ⟨false, false, false, false, false, []⟩

/-- All conditions hold. -/
def matched (v : Verdict) : Bool :=
  v.method && v.url && v.query && v.body && v.headers

/-- How close a stub is: the conditions that hold, with the greater weight on the later ones. -/
def closeness (v : Verdict) : Nat :=
  v.method.toNat + 2 * v.url.toNat + 4 * v.query.toNat + 8 * v.body.toNat + 16 * v.headers.toNat

/-- The differences in the parameters. -/
def queryDifferences (v : Verdict) : List Difference :=
  v.differences.filter (·.criterion == .query)

/-- The differences in the headers. -/
def headerDifferences (v : Verdict) : List Difference :=
  v.differences.filter (·.criterion == .header)

end Verdict

/-- The verdict on a pattern for a request. -/
def RequestPattern.verdict (p : RequestPattern) (r : Request) : Verdict :=
  let query := p.queryDifferences r
  let headers := p.headerDifferences r
  { method := methodMatches p.method r.method
    url := p.urlMatch.admits r
    query := query.isEmpty
    body := p.bodyPatterns.all (·.admits r.body)
    headers := headers.isEmpty
    differences := query ++ headers }

/-- The verdict on a stub for a request. -/
def Stub.verdict (s : Stub) (r : Request) : Verdict :=
  s.request.verdict r

end HttpStub
