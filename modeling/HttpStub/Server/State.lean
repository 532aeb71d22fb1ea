import HttpStub.Exchange.Recorder
import HttpStub.Http.Response
import HttpStub.Metrics
import HttpStub.Settings.Basic
import HttpStub.Stub.Basic

/-!
# The state of a server

## Main definitions

* `HttpStub.Server` — settings, stubs, recorded exchanges and counts.
* `HttpStub.Server.backend?` — the backend that requests are sent on to.
* `HttpStub.Server.importStubs`, `HttpStub.Server.reset` — changes.
* `HttpStub.Reaction` — what a request leads to: a response, events for the log, and a new state.
-/

namespace HttpStub

/-- The state of a server. The order of the stubs decides between equally good ones. -/
structure Server where
  settings : Settings
  stubs : List Stub
  recorder : Recorder
  metrics : Metrics

namespace Server

/-- The server at its start. -/
def ofSettings (s : Settings) : Server :=
  ⟨s, [], .empty, .zero⟩

instance : Inhabited Server := ⟨ofSettings .default⟩

/-- The mode of operation. -/
def mode (s : Server) : Mode :=
  s.settings.mode

/-- The backend that requests are sent on to, in a mode that does so. It is made of what the
settings leave of its name, so slashes are cut off once more. -/
def backend? (s : Server) : Option Backend :=
  if s.mode.usesBackend then s.settings.backend?.map fun b => .ofText b.base else none

/-- More stubs after the others. -/
def addStubs (s : Server) (stubs : List Stub) : Server :=
  { s with stubs := s.stubs ++ stubs }

/-- The server without stubs. -/
def clearStubs (s : Server) : Server :=
  { s with stubs := [] }

/-- The server without recorded exchanges. -/
def clearRecorder (s : Server) : Server :=
  { s with recorder := s.recorder.clear.2 }

/-- The server without stubs, and in record mode without recorded exchanges; with the numbers of
both that were dropped. -/
def reset (s : Server) : (Nat × Nat) × Server :=
  if s.mode = .record then
    ((s.stubs.length, s.recorder.size), s.clearStubs.clearRecorder)
  else ((s.stubs.length, 0), s.clearStubs)

/-- One more exchange is held; it is not counted. -/
def record (s : Server) (e : Exchange) : Server :=
  { s with recorder := s.recorder.record e }

/-- A request has been served. -/
def countRequest (s : Server) (o : Outcome) : Server :=
  { s with metrics := s.metrics.countRequest s.mode o }

end Server

/-- The event for the log when stubs are added together. -/
def importNotice (n : Nat) : Event :=
  ⟨.debug, "Imported " ++ toString n ++ " stub mappings"⟩

/-- What a request leads to. -/
structure Reaction where
  response : Response
  events : List Event
  server : Server

end HttpStub
