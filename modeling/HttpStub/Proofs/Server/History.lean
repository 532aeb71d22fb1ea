import HttpStub.Proofs.Server.Task
import Mathlib.Data.List.DropRight

set_option autoImplicit false

/-!
# The history of a server

What a server holds can be read off the requests that it has received. Its stubs are those that came
after the last request that dropped all of them. It records in record mode only, one exchange for
each request that the backend has answered.

## Main definitions

* `HttpStub.Request.givenStubs`, `HttpStub.Request.dropsStubs` — what a request does to the stubs.
* `HttpStub.Visit` — a request with all that comes with it.
* `HttpStub.Server.run` — the server after some requests.

## Main results

* `HttpStub.Server.stubs_after` — the stubs after one request.
* `HttpStub.Server.stubs_run` — the stubs after all of them.
* `HttpStub.Server.run_history` — stubs and recorder over whole runs.
-/

namespace HttpStub

/-! ## What a request does to the stubs -/

namespace Request

/-- The request is an administrator's, with this method and these segments. -/
def asks (r : Request) (method : String) (segments : List String) : Bool :=
  isAdminPath r.path && (r.method == method && adminSegments r.path == segments)

/-- The request drops all stubs. -/
def dropsStubs (r : Request) : Bool :=
  r.asks "DELETE" ["mappings"] || r.asks "POST" ["reset"] || r.asks "POST" ["mappings", "reset"]

/-- The stubs that the request adds: one, or those of a document, if they can be read. -/
def givenStubs (r : Request) : List Stub :=
  if r.asks "POST" ["mappings"] then (Stub.read r.body).toOption.toList
  else if r.asks "POST" ["mappings", "import"] then
    (Document.read r.body).toOption.toList.flatMap (·.stubs)
  else []

variable {r : Request}

/-- A request asks for something by its method and the segments of an administrator's path. -/
lemma asks_iff {method : String} {segments : List String} :
    r.asks method segments = true ↔
      isAdminPath r.path = true ∧ r.method = method ∧ adminSegments r.path = segments := by
  simp [asks]

/-- A request asks for a task if it has the one name of the task. -/
lemma asks_iff_task {method : String} {segments : List String} (task : AdminTask)
    (h : ∀ m ss, task.IsNamed m ss ↔ m = method ∧ ss = segments) :
    r.asks method segments = true ↔ r.task? = some task := by
  rw [asks_iff, task?_eq_some_iff, h]

/-- The requests that drop all stubs ask for one of two tasks. -/
lemma dropsStubs_iff :
    r.dropsStubs = true ↔ r.task? = some .clearStubs ∨ r.task? = some .reset := by
  simp only [dropsStubs, Bool.or_eq_true, asks_iff, task?_eq_some_iff, AdminTask.IsNamed,
    and_or_left, or_assoc]

/-- The stubs that a request adds, by the task that it asks for. -/
lemma givenStubs_eq :
    r.givenStubs =
      if r.task? = some .addStub then (Stub.read r.body).toOption.toList
      else if r.task? = some .importStubs then
        (Document.read r.body).toOption.toList.flatMap (·.stubs)
      else [] := by
  simp only [givenStubs, asks_iff_task .addStub fun _ _ => Iff.rfl,
    asks_iff_task .importStubs fun _ _ => Iff.rfl]

/-- A request that drops all stubs adds none. -/
lemma givenStubs_of_dropsStubs (h : r.dropsStubs = true) : r.givenStubs = [] := by
  rw [givenStubs_eq]
  rcases dropsStubs_iff.1 h with htask | htask <;> rw [htask] <;> rfl

end Request

/-! ## Runs -/

/-- A request, the time at which it is received, and what the network makes of it if it is sent
on. -/
structure Visit where
  time : String
  delivery : Delivery
  request : Request

namespace Server

/-- The server at its start, with the stubs that were loaded. -/
def start (settings : Settings) (loaded : List Stub) : Server :=
  (ofSettings settings).addStubs loaded

/-- The server after a request. -/
def after (s : Server) (v : Visit) : Server :=
  (s.receive v.time v.delivery v.request).server

/-- The server after some requests. -/
def run (s : Server) (h : List Visit) : Server :=
  h.foldl after s

/-- One more request is received after those before it. -/
lemma run_append_singleton (s : Server) (h : List Visit) (v : Visit) :
    s.run (h ++ [v]) = (s.run h).after v :=
  List.foldl_append

variable {s : Server}

/-- **The stubs after a request**: those that it has not dropped, and then those that it gives. -/
lemma stubs_after (s : Server) (v : Visit) :
    (s.after v).stubs =
      (if v.request.dropsStubs then [] else s.stubs) ++ v.request.givenStubs := by
  simp only [Request.dropsStubs_iff, Request.givenStubs_eq]
  rcases receive_cases s v.time v.delivery v.request with
    ⟨hadmin, heq⟩ | ⟨task, htask, heq⟩ | ⟨-, htask, heq⟩
  · rw [after, heq, stubs_serve, Request.task?_of_not_admin hadmin]
    simp
  · rw [after, heq, (performs s task v.request.body).stubs_eq, htask]
    cases task <;> simp
  · rw [after, heq, htask]
    simp

/-- **The stubs after a run**: those that were given since the last request that drops all, after
the ones that were there at first if there is no such request.

**Proof sketch.** By induction from the end of the run, with `stubs_after` for its last request. A
request that drops all stubs gives none, so there is nothing after it. -/
lemma stubs_run (s : Server) (h : List Visit) :
    (s.run h).stubs =
      (if h.any (·.request.dropsStubs) then [] else s.stubs) ++
        (h.rtakeWhile (!·.request.dropsStubs)).flatMap (·.request.givenStubs) := by
  induction h using List.reverseRecOn with
  | nil => simp [run]
  | append_singleton h v ih =>
    rw [run_append_singleton, stubs_after, List.any_append, List.rtakeWhile_concat]
    cases hdrops : v.request.dropsStubs with
    | true => simp [hdrops, Request.givenStubs_of_dropsStubs hdrops]
    | false => simp [hdrops, ih]

/-- Settings never change. -/
lemma settings_run (s : Server) (h : List Visit) : (s.run h).settings = s.settings := by
  induction h using List.reverseRecOn with
  | nil => rfl
  | append_singleton h v ih =>
    rw [run_append_singleton, after, settings_receive]
    exact ih

/-! ## The recorder -/

/-- **What a request that is not an administrator's does**: it leaves the stubs as they are, and in
record mode its exchange is added to the recorder if the backend answers. -/
lemma after_of_not_admin (s : Server) {v : Visit} (hv : isAdminPath v.request.path = false) :
    (s.after v).stubs = s.stubs ∧
    (∀ a, s.mode = .record → s.answer? v.delivery v.request = some a →
      (s.after v).recorder.held = s.recorder.held ++
        [⟨v.request.method, v.request.target, v.request.body, a.status, a.headers, a.body⟩]) ∧
    (s.mode ≠ .record ∨ s.answer? v.delivery v.request = none →
      (s.after v).recorder = s.recorder) := by
  rw [after, receive_of_not_admin hv]
  refine ⟨stubs_serve s _ _ _, fun a hmode hanswer => ?_, fun hnone => ?_⟩
  · rw [held_serve, if_pos hmode, hanswer]
    rfl
  · have hheld := held_serve s v.time v.delivery v.request
    rcases hnone with hmode | hanswer
    · rw [if_neg hmode, List.append_nil] at hheld
      exact congrArg Recorder.mk hheld
    · rw [hanswer, Option.toList_none, List.map_nil, ite_self, List.append_nil] at hheld
      exact congrArg Recorder.mk hheld

/-- **Without recording** the recorder stays empty.

**Proof sketch.** The mode does not change in a run, so none of its requests is recorded, and tasks
only take exchanges out. -/
lemma recorder_run (hmode : s.mode ≠ .record) (hs : s.recorder = .empty) (h : List Visit) :
    (s.run h).recorder = .empty := by
  induction h using List.reverseRecOn with
  | nil => exact hs
  | append_singleton h v ih =>
    have hmode' : (s.run h).mode ≠ .record := by
      rwa [mode, settings_run]
    rw [run_append_singleton, after]
    rcases receive_cases (s.run h) v.time v.delivery v.request with
      ⟨hadmin, -⟩ | ⟨task, -, heq⟩ | ⟨-, -, heq⟩
    · exact ((after_of_not_admin _ hadmin).2.2 (.inl hmode')).trans ih
    · rw [heq, (performs _ task v.request.body).recorder_eq hmode' ih]
    · rw [heq, ih]

/-- Without recording a snapshot is the empty document. -/
lemma response_snapshot (hmode : s.mode ≠ .record) {r : Request}
    (hr : r.asks "POST" ["recordings", "snapshot"] = true) (time : String) (d : Delivery) :
    (s.receive time d r).response = .ofJson 200 (Document.text ⟨[]⟩) := by
  have htask := (Request.asks_iff_task .snapshot fun _ _ => Iff.rfl).1 hr
  rw [(receive_of_task htask s time d).2, perform, performSnapshot, if_neg hmode]

/-- **Stubs and recorder over whole runs.** Whatever requests a server has received, in whatever
mode, its stubs are those that were given since the last request that drops all stubs, after the
ones that were loaded at its start if there is no such request. A request that is not an
administrator's leaves the stubs as they are. It adds its exchange to the recorder in record mode if
the backend answers, and nothing otherwise. In the other modes the recorder is empty, and so is each
snapshot. -/
theorem run_history (settings : Settings) (loaded : List Stub) (h : List Visit) :
    let s := (start settings loaded).run h
    s.settings = settings ∧
    s.stubs =
      (if h.any (·.request.dropsStubs) then [] else loaded) ++
        (h.rtakeWhile (!·.request.dropsStubs)).flatMap (·.request.givenStubs) ∧
    (∀ v : Visit, isAdminPath v.request.path = false →
      (s.after v).stubs = s.stubs ∧
      (∀ a, settings.mode = .record → s.answer? v.delivery v.request = some a →
        (s.after v).recorder.held = s.recorder.held ++
          [⟨v.request.method, v.request.target, v.request.body, a.status, a.headers, a.body⟩]) ∧
      (settings.mode ≠ .record ∨ s.answer? v.delivery v.request = none →
        (s.after v).recorder = s.recorder)) ∧
    (settings.mode ≠ .record → s.recorder = .empty ∧
      ∀ v : Visit, v.request.asks "POST" ["recordings", "snapshot"] = true →
        (s.receive v.time v.delivery v.request).response = .ofJson 200 (Document.text ⟨[]⟩)) := by
  intro s
  have hsettings : s.settings = settings := settings_run _ h
  have hmode : s.mode = settings.mode := congrArg Settings.mode hsettings
  refine ⟨hsettings, stubs_run _ h, fun v hv => ?_, fun hother => ⟨?_, ?_⟩⟩
  · rw [← hmode]
    exact after_of_not_admin s hv
  · exact recorder_run (s := start settings loaded) hother rfl h
  · exact fun v hv => response_snapshot (hmode ▸ hother) hv v.time v.delivery

/-- Settings of a mode, with a backend. -/
def settingsOf (mode : Mode) : Settings :=
  { Settings.default with mode := mode, proxyHost := some "http://[::1]" }

/-- A request that is answered with an octet. -/
def search : Visit :=
  ⟨"", .answered 200 .empty [0x31], .ofTarget "GET" "/a?b"⟩

/-- A request for a snapshot. -/
def snapshotVisit : Visit :=
  ⟨"", .unreachable, .ofTarget "POST" "/__admin//recordings/snapshot"⟩

/-- A request is recorded in record mode, and not in proxy mode. -/
theorem run_history_of_search :
    ((start (settingsOf .record) []).after search).recorder.held =
        [⟨"GET", "/a?b", [], 200, [], [0x31]⟩] ∧
      ((start (settingsOf .proxy) []).run [search]).recorder = .empty ∧
      (((start (settingsOf .proxy) []).run [search]).receive "" .unreachable
        snapshotVisit.request).response = .ofJson 200 (Document.text ⟨[]⟩) := by
  obtain ⟨-, -, hvisit, -⟩ := run_history (settingsOf .record) [] []
  obtain ⟨-, -, -, hother⟩ := run_history (settingsOf .proxy) [] [search]
  obtain ⟨hempty, hsnapshot⟩ := hother (by decide)
  have hanswer : (start (settingsOf .record) []).answer? search.delivery search.request =
      some ⟨200, [], [0x31]⟩ := by
    decide +kernel
  exact ⟨(hvisit search (by decide)).2.1 _ rfl hanswer, hempty,
    hsnapshot snapshotVisit (by decide)⟩

end Server

end HttpStub
