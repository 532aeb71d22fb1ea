import HttpStub.Http.Header
import HttpStub.Text.LowerCase
import HttpStub.Text.Percent

/-!
# Requests

## Main definitions

* `HttpStub.splitTarget` — path and query of a request target.
* `HttpStub.queryPairs` — the decoded parameters of a query.
* `HttpStub.Request` — a request as it was received.
* `HttpStub.Request.queryValues` — the values of a parameter.
* `HttpStub.targetName` — the name of a stub for a request target.

## Design

The first `?` ends the path. Every segment of a query between two `&` is a parameter, an empty one
too, so that a recorded query is matched down to its separators.
-/

namespace HttpStub

/-! ## Targets -/

/-- The path of a target and its query, if it has one. -/
def splitTarget (target : String) : String × Option String :=
  match Text.cut? '?' target.toList with
  | some (path, query) => (String.ofList path, some (String.ofList query))
  | none => (target, none)

/-- The name and the value of a segment of a query. Without `=` the value is empty. -/
def queryPair (segment : List Char) : String × String :=
  let (name, value) := (Text.cut? '=' segment).getD (segment, [])
  (Percent.decodeComponent (String.ofList name), Percent.decodeComponent (String.ofList value))

/-- The parameters of a query in their order. -/
def queryPairs (query : String) : List (String × String) :=
  (Text.pieces (· == '&') query.toList).map queryPair

/-- The values of a parameter in their order. -/
def valuesOf (name : String) (pairs : List (String × String)) : List String :=
  (pairs.filter (·.1 == name)).map Prod.snd

/-! ## Names -/

/-- Without the escapes of a colon that are spelled with this last digit. -/
def dropColons (digit : Char) : List Char → List Char
  | [] => []
  | [a] => [a]
  | [a, b] => [a, b]
  | a :: b :: c :: cs =>
    if a = '%' ∧ b = '3' ∧ c = digit then dropColons digit cs
    else a :: dropColons digit (b :: c :: cs)

/-- Without one slash at the front. -/
def dropSlash : List Char → List Char
  | '/' :: cs => cs
  | cs => cs

/-- The name of a stub for a target: its path in lower case, with `_` for each inner slash and
without escaped colons. -/
def targetName (target : String) : String :=
  let path := dropSlash (splitTarget target).1.toList
  let flat := path.map fun c => if c = '/' then '_' else c
  Text.toLower (String.ofList (dropColons 'a' (dropColons 'A' flat)))

/-! ## Requests -/

/-- A request as it was received. -/
structure Request where
  method : String
  target : String
  headers : Headers
  body : Bytes
  deriving DecidableEq, Repr

namespace Request

/-- A request without headers and body. -/
def ofTarget (method target : String) : Request :=
  ⟨method, target, .empty, []⟩

/-- The path, without the query. -/
def path (r : Request) : String :=
  (splitTarget r.target).1

/-- The parameters of the query in their order. -/
def query (r : Request) : List (String × String) :=
  match (splitTarget r.target).2 with
  | some q => queryPairs q
  | none => []

/-- The values of a parameter in their order. -/
def queryValues (r : Request) (name : String) : List String :=
  valuesOf name r.query

end Request

end HttpStub
