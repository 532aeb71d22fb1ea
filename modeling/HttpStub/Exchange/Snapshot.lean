import HttpStub.Exchange.ToStub
import HttpStub.Stub.Format

/-!
# Snapshots

A snapshot turns a list of exchanges into stubs that repeat them.

## Main definitions

* `HttpStub.RequestPattern.key` — the text that tells generated patterns apart.
* `HttpStub.deduplicated` — one stub for each pattern, of the latest exchange.
* `HttpStub.scenarios` — a stub for each exchange, repeated requests chained by states.
* `HttpStub.snapshot` — either of them, in an order that does not depend on the recording.
* `HttpStub.SnapshotRequest` — what a client asks for when it takes a snapshot.
-/

namespace HttpStub

open Json (Value Decoder DecodeError Field Schema)

/-! ## Keys -/

/-- The JSON of the conditions on parameters. -/
def RequestPattern.queryJson (p : RequestPattern) : Value :=
  .object (p.queryParameters.entries.map fun (k, m) => (k, QueryMatcher.schema.encode m))

/-- The JSON of the conditions on the body. -/
def RequestPattern.bodyJson (p : RequestPattern) : Value :=
  .array (p.bodyPatterns.map BodyPattern.schema.encode)

/-- The text that tells generated patterns apart: method, URL, and the conditions on parameters and
body if there are any. -/
def RequestPattern.key (p : RequestPattern) : String :=
  let url := ((nonEmpty? p.url).orElse fun _ => p.urlPath).getD ""
  p.method ++ " " ++ url
    ++ (if p.queryParameters.isEmpty then "" else " " ++ p.queryJson.compact)
    ++ (if p.bodyPatterns.isEmpty then "" else " " ++ p.bodyJson.compact)

/-- The text that tells generated stubs apart. -/
def Stub.key (s : Stub) : String :=
  s.request.key

/-- The order of stubs in a snapshot: by name, then by key. -/
def Stub.before (a b : Stub) : Bool :=
  decide (a.displayName < b.displayName)
    || (a.displayName == b.displayName && decide (a.key ≤ b.key))

/-! ## Conversions -/

/-- One stub for each key; the latest exchange counts. -/
def deduplicated (o : SnapshotOptions) (es : List Exchange) : List Stub :=
  (es.foldl (fun acc e => putEntry (e.toStub o).key (e.toStub o) acc) []).map Prod.snd

/-- The name of the state before the repetition of this number. -/
def stateName (i : Nat) : String :=
  if i = 0 then "Started" else "state_" ++ toString i

/-- The stubs of a request that was repeated, from a repetition on. Each one waits for its own state
and, but for the last, moves on to the next one. -/
def chain (o : SnapshotOptions) (scenario : String) : Nat → List Exchange → List Stub
  | _, [] => []
  | i, e :: es =>
    { e.toStub o with
      scenarioName := some scenario
      requiredScenarioState := some (stateName i)
      newScenarioState := if es.isEmpty then none else some (stateName (i + 1)) }
    :: chain o scenario (i + 1) es

/-- The stubs of the exchanges of one request: a plain stub, or a chain. -/
def groupStubs (o : SnapshotOptions) : List Exchange → List Stub
  | [] => []
  | [e] => [e.toStub o]
  | e :: es => chain o (targetName e.target) 0 (e :: es)

/-- The text by which repetitions of a request are recognised. -/
def Exchange.requestKey (e : Exchange) : String :=
  e.method ++ " " ++ e.target

/-- A stub for each exchange, repetitions of a request chained by states. -/
def scenarios (o : SnapshotOptions) (es : List Exchange) : List Stub :=
  (groupBy (· == ·) (es.map fun e => (e.requestKey, e))).flatMap fun g => groupStubs o g.2

/-- The stubs of a list of exchanges, sorted by name and key. -/
def snapshot (o : SnapshotOptions) (es : List Exchange) : List Stub :=
  let stubs := if o.repeatsAsScenarios then scenarios o es else deduplicated o es
  stubs.mergeSort Stub.before

/-! ## Requests for a snapshot -/

/-- What a client asks for when it takes a snapshot: a pattern for targets, and two switches. -/
structure SnapshotRequest where
  urlPattern : Option String
  persist : Bool
  repeatsAsScenarios : Bool
  deriving DecidableEq, Repr

/-- The snapshot of everything. -/
def SnapshotRequest.blank : SnapshotRequest :=
  ⟨none, false, false⟩

/-- The members of the filters of a snapshot. -/
def snapshotFiltersSchema : Schema (Option String) where
  expected := "struct SnapshotFilters"
  positional := true
  default := none
  fields := [.optional "urlPattern" id (fun v _ => v) .string .string]

/-- The members of a request for a snapshot. -/
def SnapshotRequest.schema : Schema SnapshotRequest where
  expected := "struct SnapshotRequest"
  positional := true
  default := .blank
  fields :=
    [.always "filters" (·.urlPattern) (fun v r => { r with urlPattern := v })
        snapshotFiltersSchema.encode snapshotFiltersSchema.decode,
      .always "persist" (·.persist) (fun v r => { r with persist := v }) .bool .bool,
      .always "repeatsAsScenarios" (·.repeatsAsScenarios)
        (fun v r => { r with repeatsAsScenarios := v }) .bool .bool]

/-- The request for a snapshot of a body. -/
def SnapshotRequest.read (bs : Bytes) : Except DecodeError SnapshotRequest :=
  SnapshotRequest.schema.decode.run bs

end HttpStub
