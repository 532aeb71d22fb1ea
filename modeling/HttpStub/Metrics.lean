import HttpStub.Mode

/-!
# Metrics

Counts of what a server has done, and the text by which they are collected.

## Main definitions

* `HttpStub.Tally` — counts by key.
* `HttpStub.Metrics` — all counts of a server.
* `HttpStub.Metrics.text` — the text of all counts.

## Design

The text has a section for each family of counts, sections sorted by the name of the family and
lines by their labels. A family with labels has a section once it has a line.

Counts are natural numbers. A program that counts in 64 bits, or in floating point, shows the same
numbers up to 2^53.
-/

namespace HttpStub

/-! ## Tallies -/

/-- Counts by key, in the order in which the keys first occur. -/
structure Tally (κ : Type) where
  counts : List (κ × Nat)
  deriving DecidableEq, Repr

namespace Tally

variable {κ : Type} [DecidableEq κ]

/-- No key has occurred. -/
def empty : Tally κ := ⟨[]⟩

instance : Inhabited (Tally κ) := ⟨empty⟩

/-- A key counted some more times. -/
def addTo (k : κ) (n : Nat) : List (κ × Nat) → List (κ × Nat)
  | [] => [(k, n)]
  | (j, m) :: cs => if j = k then (j, m + n) :: cs else (j, m) :: addTo k n cs

/-- A key counted some more times; it is listed even if that is not once. -/
def add (t : Tally κ) (k : κ) (n : Nat) : Tally κ :=
  ⟨addTo k n t.counts⟩

/-- How often a key has occurred. -/
def count (t : Tally κ) (k : κ) : Nat :=
  (t.counts.filter (·.1 == k)).foldr (fun c n => c.2 + n) 0

/-- How often all keys have occurred. -/
def total (t : Tally κ) : Nat :=
  t.counts.foldr (fun c n => c.2 + n) 0

end Tally

/-! ## The counts of a server -/

/-- What became of a request. -/
inductive Outcome where
  | matched
  | unmatched
  | forwarded
  | failed
  deriving DecidableEq, Repr

/-- The label of an outcome. -/
def Outcome.label : Outcome → String
  | .matched => "matched"
  | .unmatched => "unmatched"
  | .forwarded => "forwarded"
  | .failed => "upstream_error"

/-- The two kinds of stubs in a snapshot: those of repeated requests belong to a scenario. -/
inductive StubKind where
  | plain
  | scenario
  deriving DecidableEq, Repr

/-- The label of a kind. -/
def StubKind.label : StubKind → String
  | .plain => "plain"
  | .scenario => "scenario"

/-- All counts of a server: requests by mode and outcome, recorded exchanges, stubs in snapshots,
and answers of the backend by method and status. -/
structure Metrics where
  requests : Tally (Mode × Outcome)
  recorded : Nat
  snapshotStubs : Tally StubKind
  answers : Tally (String × UInt16)
  deriving DecidableEq, Repr

namespace Metrics

/-- Nothing has been counted. -/
def zero : Metrics :=
  ⟨.empty, 0, .empty, .empty⟩

instance : Inhabited Metrics := ⟨zero⟩

/-- A request has been served. -/
def countRequest (m : Metrics) (mode : Mode) (o : Outcome) : Metrics :=
  { m with requests := m.requests.add (mode, o) 1 }

/-- An exchange has been recorded. -/
def countExchange (m : Metrics) : Metrics :=
  { m with recorded := m.recorded + 1 }

/-- A snapshot has been taken. -/
def countSnapshot (m : Metrics) (plain scenario : Nat) : Metrics :=
  { m with snapshotStubs := (m.snapshotStubs.add .plain plain).add .scenario scenario }

/-- The backend has answered. -/
def countAnswer (m : Metrics) (method : String) (status : UInt16) : Metrics :=
  { m with answers := m.answers.add (method, status) 1 }

/-! ## The text -/

/-- A family of counts: its name and purpose, its kind, and the names of its labels. -/
structure Family where
  name : String
  help : String
  kind : String
  labels : List String

/-- A count with the values of its labels. -/
abbrev Sample := List String × Nat

/-- The characters of a label's value, those with a meaning of their own escaped. -/
def escapeLabel (s : String) : String :=
  String.ofList (s.toList.flatMap fun c =>
    if c = '\\' then ['\\', '\\'] else if c = '\n' then ['\\', 'n'] else if c = '"' then ['\\', '"']
    else [c])

/-- The order of lines: by the first label in which they differ. -/
def labelsBefore : List String → List String → Bool
  | [], _ => true
  | _ :: _, [] => false
  | a :: as, b :: bs => decide (a < b) || (a == b && labelsBefore as bs)

/-- The labels of a line with their values. -/
def labelText (names values : List String) : String :=
  if names.isEmpty then ""
  else
    "\x7b" ++ String.intercalate ","
      ((names.zip values).map fun (n, v) => n ++ "=\"" ++ escapeLabel v ++ "\"") ++ "\x7d"

/-- The ending of a line's name: distributions show how many values they have. -/
def Family.ending (f : Family) : String :=
  if f.kind = "histogram" then "_count" else ""

/-- The section of a family; nothing if it has no line. -/
def Family.block (f : Family) (samples : List Sample) : String :=
  if samples.isEmpty then ""
  else
    "# HELP " ++ f.name ++ " " ++ f.help ++ "\n"
      ++ "# TYPE " ++ f.name ++ " " ++ f.kind ++ "\n"
      ++ String.join ((samples.mergeSort fun a b => labelsBefore a.1 b.1).map fun (values, n) =>
        f.name ++ f.ending ++ labelText f.labels values ++ " " ++ toString n ++ "\n")

/-- The number of recorded exchanges. -/
def exchangesFamily : Family where
  name := "mockwire_exchanges_recorded_total"
  help := "Total number of request/response exchanges recorded"
  kind := "counter"
  labels := []

/-- The number of requests by mode and outcome. -/
def requestsFamily : Family where
  name := "mockwire_requests_total"
  help := "Total number of requests served"
  kind := "counter"
  labels := ["mode", "outcome"]

/-- The number of stubs in snapshots by kind. -/
def snapshotFamily : Family where
  name := "mockwire_snapshot_mappings_total"
  help := "Total number of stub mappings exported by snapshots"
  kind := "counter"
  labels := ["kind"]

/-- The time that the backend took, by method and status. -/
def durationFamily : Family where
  name := "mockwire_upstream_request_duration_ms"
  help := "Duration of upstream requests in milliseconds"
  kind := "histogram"
  labels := ["method", "status"]

/-- The text of all counts. -/
def text (m : Metrics) : String :=
  exchangesFamily.block [([], m.recorded)]
    ++ requestsFamily.block
      (m.requests.counts.map fun ((mode, o), n) => ([mode.name, o.label], n))
    ++ snapshotFamily.block (m.snapshotStubs.counts.map fun (k, n) => ([k.label], n))
    ++ durationFamily.block
      (m.answers.counts.map fun ((method, status), n) => ([method, toString status.toNat], n))

end Metrics

end HttpStub
