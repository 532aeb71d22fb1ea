import HttpStub.Stub.Verdict

/-!
# The best stub for a request

## Main definitions

* `HttpStub.Stub.specificity` — how much a stub asks for.
* `HttpStub.Selection` — the outcome of holding a request against all stubs.
* `HttpStub.select` — the most specific stub that fits, or else the closest one.

## Design

Both choices are the first maximum of a score over the stubs. A stub that fits is chosen by its
specificity; if none fits, the closest one is named for the report, unless nothing about it holds.
-/

namespace HttpStub

/-- What a condition on the whole target is worth, more than any number of others in practice. -/
def exactUrlWeight : Nat := 100

/-- How much a stub asks for: one point for each condition on parameters, body and headers. -/
def Stub.specificity (s : Stub) : Nat :=
  let p := s.request
  let conditions := p.queryParameters.size + p.bodyPatterns.length + p.headers.size
  match p.urlMatch with
  | .exact _ => conditions + exactUrlWeight
  | _ => conditions

/-- The outcome of holding a request against all stubs: the stub, its place, and the verdict on it.
Without any stub to name, the verdict is empty. -/
structure Selection where
  matched : Bool
  index : Option Nat
  stub : Option Stub
  verdict : Verdict

namespace Selection

/-- No stub can be named. -/
def nothing : Selection :=
  ⟨false, none, none, .nothing⟩

/-- The conditions on the body of the named stub do not hold. -/
def bodyDiffers (s : Selection) : Bool :=
  s.stub.isSome && !s.verdict.body

end Selection

/-- A stub at a place of the list with the verdict on it. -/
structure Candidate where
  index : Nat
  stub : Stub
  verdict : Verdict

namespace Candidate

/-- The outcome that names the candidate. -/
def toSelection (c : Candidate) : Selection :=
  ⟨c.verdict.matched, some c.index, some c.stub, c.verdict⟩

/-- The score among the stubs that fit; others have none. -/
def fitScore (c : Candidate) : Option Nat :=
  if c.verdict.matched then some c.stub.specificity else none

/-- The score among the stubs that do not fit; a stub of which nothing holds has none. -/
def nearScore (c : Candidate) : Option Nat :=
  if !c.verdict.matched && 0 < c.verdict.closeness then some c.verdict.closeness else none

end Candidate

/-- The first of the candidates with the greatest score, among those that have one. -/
def firstBest (score : Candidate → Option Nat) : List Candidate → Option Candidate
  | [] => none
  | c :: cs =>
    match score c, firstBest score cs with
    | none, best => best
    | some _, none => some c
    | some n, some d => if (score d).any (n < ·) then some d else some c

/-- The candidates from a place on. -/
def candidatesFrom (r : Request) : Nat → List Stub → List Candidate
  | _, [] => []
  | i, s :: ss => ⟨i, s, s.verdict r⟩ :: candidatesFrom r (i + 1) ss

/-- All stubs with the verdicts on them. -/
def candidates (r : Request) (stubs : List Stub) : List Candidate :=
  candidatesFrom r 0 stubs

/-- The most specific stub that fits the request, or else the closest one; of several the first. -/
def select (r : Request) (stubs : List Stub) : Selection :=
  let all := candidates r stubs
  match firstBest Candidate.fitScore all with
  | some c => c.toSelection
  | none =>
    match firstBest Candidate.nearScore all with
    | some c => c.toSelection
    | none => .nothing

end HttpStub
