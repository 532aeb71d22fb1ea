import HttpStub.Exchange.Snapshot
import HttpStub.Server.State

/-!
# Administration

Requests below a path of their own change the stubs, take snapshots and ask for counts.

## Main definitions

* `HttpStub.isAdminPath` — the paths of administration.
* `HttpStub.AdminTask` — what an administrator can ask for.
* `HttpStub.AdminTask.of?` — the task of a method and a path.
* `HttpStub.Server.perform` — a task carried out.
* `HttpStub.Server.administer` — the reaction to a request of an administrator.
-/

namespace HttpStub

/-! ## Tasks -/

/-- The path above all tasks. -/
def adminPath : String := "/__admin"

/-- The rest of a text after a given start. -/
def restAfter? (start s : String) : Option String :=
  if start.toList.isPrefixOf s.toList then some (String.ofList (s.toList.drop start.length))
  else none

/-- The path of administration or one below it. -/
def isAdminPath (path : String) : Bool :=
  match restAfter? adminPath path with
  | some rest => rest.isEmpty || rest.toList.head? == some '/'
  | none => false

/-- What an administrator can ask for. -/
inductive AdminTask where
  | health
  | metrics
  /-- Settings are accepted and have no effect. -/
  | settings
  /-- Scenarios have no state, so there is nothing to reset. -/
  | resetScenarios
  | reset
  | listStubs
  | addStub
  | clearStubs
  | importStubs
  | clearRecorder
  | snapshot
  deriving DecidableEq, Repr

/-- The segments of a path below the one of administration; empty ones do not count. -/
def adminSegments (path : String) : List String :=
  (Text.split '/' ((restAfter? adminPath path).getD path)).filter (!·.isEmpty)

/-- The task of a method and the segments of a path. -/
def AdminTask.ofSegments? (method : String) (segments : List String) : Option AdminTask :=
  if segments = ["health"] then some .health
  else if method = "GET" then
    if segments = [] then some .health
    else if segments = ["metrics"] then some .metrics
    else if segments = ["mappings"] then some .listStubs
    else none
  else if method = "POST" then
    if segments = ["settings"] then some .settings
    else if segments = ["scenarios", "reset"] then some .resetScenarios
    else if segments = ["reset"] then some .reset
    else if segments = ["mappings", "reset"] then some .reset
    else if segments = ["mappings"] then some .addStub
    else if segments = ["mappings", "import"] then some .importStubs
    else if segments = ["recordings", "snapshot"] then some .snapshot
    else none
  else if method = "DELETE" then
    if segments = ["mappings"] then some .clearStubs
    else if segments = ["requests"] then some .clearRecorder
    else none
  else none

/-- The task of a method and a path. -/
def AdminTask.of? (method path : String) : Option AdminTask :=
  AdminTask.ofSegments? method (adminSegments path)

/-! ## Responses -/

/-- The body of a response that reports an error. -/
def errorJson (code message : String) : Json.Value :=
  .object [("errors", .array [.object [("code", .string code), ("message", .string message)]])]

/-- The response to a request that cannot be understood. -/
def badRequest (message : String) : Response :=
  .ofJson 400 (errorJson "400" message).compact

/-- The response to a request that asks for nothing known. -/
def notFound : Response :=
  .ofJson 404 (errorJson "404" "Not Found").compact

/-! ## Snapshots -/

/-- The snapshot that a body asks for, with the events for the log. A blank body asks for
everything, and so does one that cannot be read. -/
def SnapshotRequest.ofBody (body : Bytes) : SnapshotRequest × List Event :=
  if body.all Ascii.isBlank then (.blank, [])
  else
    match SnapshotRequest.read body with
    | .ok r => (r, [])
    | .error e => (.blank, [⟨.warn, "Ignoring malformed snapshot request: " ++ e.message⟩])

/-- The filter that a snapshot asks for, with the events for the log. -/
def SnapshotRequest.filter? (r : SnapshotRequest) : Option UrlFilter × List Event :=
  match nonEmpty? r.urlPattern with
  | none => (none, [])
  | some pattern => (some (.ofPattern pattern), (UrlFilter.ofPattern pattern).notices pattern)

/-- The event for the log when stubs should be kept, which they are not. -/
def SnapshotRequest.persistNotices (r : SnapshotRequest) : List Event :=
  if r.persist then [⟨.debug, "Snapshot 'persist' requested; mappings are only returned"⟩] else []

namespace Server

/-- The exchanges that a request accepts become stubs and leave the recorder. -/
def takeSnapshot (s : Server) (r : SnapshotRequest) : List Stub × List Event × Server :=
  let (filter, filterEvents) := r.filter?
  let (taken, recorder) := s.recorder.drain filter
  let stubs := snapshot (s.settings.snapshotOptions r.repeatsAsScenarios) taken
  let inScenarios := (stubs.filter (·.scenarioName.isSome)).length
  let summary : Event :=
    ⟨.info, "Snapshot: " ++ toString taken.length ++ " exchanges -> " ++ toString stubs.length
      ++ " mappings (" ++ toString recorder.size ++ " remaining)"⟩
  (stubs, r.persistNotices ++ filterEvents ++ [summary],
    { s with
      recorder := recorder
      metrics := s.metrics.countSnapshot (stubs.length - inScenarios) inScenarios })

/-! ## Tasks carried out -/

/-- A stub is added. -/
def performAdd (s : Server) (body : Bytes) : Reaction :=
  match Stub.read body with
  | .error e => ⟨badRequest ("Invalid mapping: " ++ e.message), [], s⟩
  | .ok stub =>
    ⟨.blank 201,
      [⟨.info, "Added mapping: " ++ stub.request.method ++ " " ++ stub.request.urlText⟩],
      s.addStubs [stub]⟩

/-- The stubs of a document are added, all of them or none. -/
def performImport (s : Server) (body : Bytes) : Reaction :=
  match Document.read body with
  | .error e => ⟨badRequest ("Invalid mappings document: " ++ e.message), [], s⟩
  | .ok d =>
    ⟨.blank 200,
      [importNotice d.stubs.length,
        ⟨.info, "Imported " ++ toString d.stubs.length ++ " mappings"⟩],
      s.addStubs d.stubs⟩

/-- All stubs, and in record mode all recorded exchanges, are dropped. -/
def performReset (s : Server) : Reaction :=
  let ((stubs, exchanges), s) := s.reset
  ⟨.blank 200,
    [⟨.info, "Reset: removed " ++ toString stubs ++ " mappings and " ++ toString exchanges
      ++ " recorded exchanges"⟩], s⟩

/-- A snapshot is taken. Without recording there is nothing to take it of. -/
def performSnapshot (s : Server) (body : Bytes) : Reaction :=
  if s.mode = .record then
    let (request, requestEvents) := SnapshotRequest.ofBody body
    let (stubs, events, s) := s.takeSnapshot request
    ⟨.ofJson 200 (Document.text ⟨stubs⟩), requestEvents ++ events, s⟩
  else ⟨.ofJson 200 (Document.text ⟨[]⟩), [], s⟩

/-- A task carried out. -/
def perform (s : Server) (task : AdminTask) (body : Bytes) : Reaction :=
  match task with
  | .health => ⟨.ofJson 200 (Json.Value.object [("status", .string "ok")]).compact, [], s⟩
  | .metrics => ⟨.ofText 200 "text/plain; version=0.0.4" s.metrics.text, [], s⟩
  | .settings => ⟨.blank 200, [], s⟩
  | .resetScenarios => ⟨.ofJson 200 (Json.Value.object []).compact, [], s⟩
  | .reset => s.performReset
  | .listStubs => ⟨.ofJson 200 (Document.text ⟨s.stubs⟩), [], s⟩
  | .addStub => s.performAdd body
  | .clearStubs =>
    ⟨.blank 200, [⟨.info, "Cleared " ++ toString s.stubs.length ++ " mappings"⟩], s.clearStubs⟩
  | .importStubs => s.performImport body
  | .clearRecorder =>
    ⟨.blank 200, [⟨.info, "Cleared " ++ toString s.recorder.size ++ " recorded exchanges"⟩],
      s.clearRecorder⟩
  | .snapshot => s.performSnapshot body

/-- The reaction to a request of an administrator. -/
def administer (s : Server) (method path : String) (body : Bytes) : Reaction :=
  match AdminTask.of? method path with
  | some task => s.perform task body
  | none => ⟨notFound, [⟨.warn, "Unknown admin endpoint: " ++ method ++ " " ++ path⟩], s⟩

end Server

end HttpStub
