import HttpStub.Server.Admin
import HttpStub.Stub.Mismatch

/-!
# Serving requests

## Main definitions

* `HttpStub.Server.replay` — the reaction by the best stub.
* `HttpStub.Server.relay` — the reaction by the backend, perhaps recorded.
* `HttpStub.Server.serve` — the reaction to a request that is not an administrator's.
* `HttpStub.Server.receive` — the reaction to any request.
* `HttpStub.Server.outgoing?` — what goes to the backend for it.

## Design

What happens outside of the server is an argument: the text of the current time, which reports show,
and what the network makes of a request that is sent on.
-/

namespace HttpStub

/-- The body of a response that names an error. -/
def failureJson (message : String) : Json.Value :=
  .object [("error", .string message)]

/-! ## Logging of requests -/

/-- How many octets of a body are logged. -/
def previewLimit : Nat := 1000

/-- The start of a body as text. -/
def previewText (body : Bytes) : String :=
  if body.length ≤ previewLimit then Utf8.decodeLossy body
  else
    Utf8.decodeLossy (body.take previewLimit) ++ "... (" ++ toString body.length ++ " bytes total)"

/-- The events for the log when a request arrives. -/
def arrivalNotices (r : Request) : List Event :=
  [⟨.info, "[verbose] >> " ++ r.method ++ " " ++ r.target⟩]
    ++ (r.headers.grouped.map fun (n, v) =>
      ⟨.info, "[verbose]    " ++ n ++ ": " ++ Utf8.decodeLossy v⟩)
    ++ (if r.body.isEmpty then [] else [⟨.info, "[verbose]    Body: " ++ previewText r.body⟩])

/-- The event for the log when a request has been served. -/
def departureNotice (r : Request) (a : Response) : Event :=
  ⟨.info, "[verbose] << " ++ toString a.status.toNat ++ " " ++ r.method ++ " " ++ r.target
    ++ " (" ++ toString a.body.length ++ " bytes)"⟩

/-! ## Answers of the backend -/

namespace Answer

/-- The response that hands an answer on. Headers that speak of its packing, and internal ones, stay
behind. -/
def toResponse (a : Answer) : Response where
  status := statusOr 502 a.status
  headers :=
    (a.headers.filter fun f => !isRelayExcluded f.1).foldl
      (fun h f => (h.append? f.1 (Utf8.encode f.2)).getD h) .empty
  body := a.body

/-- The exchange of a request and its answer. -/
def toExchange (a : Answer) (r : Request) : Exchange :=
  ⟨r.method, r.target, r.body, a.status, a.headers, a.body⟩

end Answer

namespace Server

/-! ## Replay -/

/-- The reaction by the best stub. If none fits, the response says so and the log tells why. -/
def replay (s : Server) (time : String) (r : Request) : Reaction :=
  let selection := select r s.stubs
  match selection.matched, selection.stub with
  | true, some stub =>
    ⟨stub.response.serve,
      ⟨.debug, "Matched " ++ r.method ++ " " ++ r.target ++ " -> " ++ stub.displayName⟩
        :: stub.response.notices,
      s.countRequest .matched⟩
  | _, _ =>
    ⟨.ofJson 404 (failureJson "No matching stub found").compact,
      [⟨.warn, "\n" ++ selection.report r.method r.target time⟩], s.countRequest .unmatched⟩

/-! ## Relay -/

/-- The server after an answer of the backend. In record mode the exchange is kept. -/
def afterAnswer (s : Server) (r : Request) (a : Answer) : Server :=
  let s := { s with metrics := s.metrics.countAnswer r.method a.status }
  let s := s.countRequest .forwarded
  if s.mode = .record then
    { s.record (a.toExchange r) with metrics := s.metrics.countExchange }
  else s

/-- The reaction when there is nothing to hand on. -/
def relayFailure (s : Server) (message : String) (events : List Event) : Reaction :=
  ⟨.ofJson 502 (failureJson ("proxy error: " ++ message)).compact, events,
    s.countRequest .failed⟩

/-- The reaction by the backend, given what the network makes of the request. -/
def relay (s : Server) (d : Delivery) (r : Request) : Reaction :=
  match s.backend? with
  | none =>
    s.relayFailure "no upstream configured"
      [⟨.error, "No upstream configured for " ++ s.mode.name ++ " mode"⟩]
  | some b =>
    match b.forward d r with
    | .error e =>
      s.relayFailure e.message (b.notices r ++ [⟨.error, "Proxy error: " ++ e.message⟩])
    | .ok a =>
      ⟨a.toResponse,
        b.notices r ++ (if s.mode = .record then [Recorder.notice (a.toExchange r)] else []),
        s.afterAnswer r a⟩

/-! ## All requests -/

/-- The request with its headers fitted to the backend that the settings name. -/
def addressed (s : Server) (r : Request) : Request :=
  { r with
    headers := r.headers.addressedTo (s.settings.backend?.map (·.base)) s.settings.refererPath }

/-- What goes to the backend for a request, if anything does. -/
def outgoing? (s : Server) (r : Request) : Option Outgoing :=
  if isAdminPath r.path then none
  else s.backend?.bind fun b => (b.prepare (s.addressed r)).toOption

/-- The reaction to a request that is not an administrator's. -/
def serve (s : Server) (time : String) (d : Delivery) (r : Request) : Reaction :=
  let reaction :=
    if s.mode.usesBackend then s.relay d (s.addressed r) else s.replay time (s.addressed r)
  if s.settings.verbose then
    { reaction with
      events := arrivalNotices r ++ reaction.events ++ [departureNotice r reaction.response] }
  else reaction

/-- The reaction to any request. -/
def receive (s : Server) (time : String) (d : Delivery) (r : Request) : Reaction :=
  if isAdminPath r.path then
    let reaction := s.administer r.method r.path r.body
    { reaction with
      events := ⟨.debug, "Admin API: " ++ r.method ++ " " ++ r.path⟩ :: reaction.events }
  else s.serve time d r

end Server

end HttpStub
