import HttpStub.Exchange.Basic
import HttpStub.Exchange.Filter

/-!
# The recorder

## Main definitions

* `HttpStub.Recorder` — the exchanges that are held, in the order of arrival.
* `HttpStub.Recorder.record`, `HttpStub.Recorder.drain`, `HttpStub.Recorder.clear` — its changes.
-/

namespace HttpStub

/-- The exchanges that are held, in the order of arrival. -/
structure Recorder where
  held : List Exchange
  deriving DecidableEq, Repr

namespace Recorder

/-- The recorder that holds nothing. -/
def empty : Recorder := ⟨[]⟩

instance : Inhabited Recorder := ⟨empty⟩

/-- One more exchange is held. -/
def record (r : Recorder) (e : Exchange) : Recorder :=
  ⟨r.held ++ [e]⟩

/-- The exchanges that a filter accepts are taken out; without a filter all are. -/
def drain (r : Recorder) : Option UrlFilter → List Exchange × Recorder
  | none => (r.held, empty)
  | some f =>
    let (taken, left) := r.held.partition fun e => f.accepts e.target
    (taken, ⟨left⟩)

/-- All exchanges are dropped; their number is reported. -/
def clear (r : Recorder) : Nat × Recorder :=
  (r.held.length, empty)

/-- The number of exchanges that are held. -/
def size (r : Recorder) : Nat :=
  r.held.length

/-- The event for the log when an exchange is recorded. -/
def notice (e : Exchange) : Event :=
  ⟨.debug, "Recording " ++ e.method ++ " " ++ e.target⟩

end Recorder

end HttpStub
