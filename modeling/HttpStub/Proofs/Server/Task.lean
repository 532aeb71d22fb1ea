import HttpStub.Server.Serve
import Mathlib.Tactic.Common

set_option autoImplicit false

/-!
# The tasks of an administrator

Which requests ask for which task, and what comes of them. A request that is not an administrator's
is served; one that names no task changes nothing.

## Main definitions

* `HttpStub.AdminTask.IsNamed` — the methods and segments that name a task.
* `HttpStub.Request.task?` — the task that a request asks for.
* `HttpStub.Server.answer?` — the answer of the backend to a request that is sent on.
* `HttpStub.Server.Performs` — what comes of a task.

## Main results

* `HttpStub.AdminTask.ofSegments?_eq_some_iff` — which requests ask for a task.
* `HttpStub.Server.receive_cases` — all that a request can do to a server.
* `HttpStub.Server.serve_cases`, `HttpStub.Server.performs` — the same of serving and of tasks, from
  which every invariant follows by cases.
-/

namespace HttpStub

/-! ## Names of tasks -/

/-- The method and the segments below the path of administration name the task. -/
def AdminTask.IsNamed (method : String) (segments : List String) : AdminTask → Prop
  | .health => segments = ["health"] ∨ method = "GET" ∧ segments = []
  | .metrics => method = "GET" ∧ segments = ["metrics"]
  | .settings => method = "POST" ∧ segments = ["settings"]
  | .resetScenarios => method = "POST" ∧ segments = ["scenarios", "reset"]
  | .reset => method = "POST" ∧ (segments = ["reset"] ∨ segments = ["mappings", "reset"])
  | .listStubs => method = "GET" ∧ segments = ["mappings"]
  | .addStub => method = "POST" ∧ segments = ["mappings"]
  | .clearStubs => method = "DELETE" ∧ segments = ["mappings"]
  | .importStubs => method = "POST" ∧ segments = ["mappings", "import"]
  | .clearRecorder => method = "DELETE" ∧ segments = ["requests"]
  | .snapshot => method = "POST" ∧ segments = ["recordings", "snapshot"]

/-- **A task is found by its names**, and no two tasks have a name in common. -/
lemma AdminTask.ofSegments?_eq_some_iff {method : String} {segments : List String}
    {task : AdminTask} :
    ofSegments? method segments = some task ↔ task.IsNamed method segments := by
  constructor
  · unfold ofSegments?
    repeat' split
    all_goals rintro ⟨⟩
    -- the tests that lead to a task are one of its names
    all_goals first
      | exact ⟨‹_›, ‹_›⟩
      | exact .inl ‹_›
      | exact .inr ⟨‹_›, ‹_›⟩
      | exact ⟨‹_›, .inl ‹_›⟩
      | exact ⟨‹_›, .inr ‹_›⟩
  · cases task with
    | health =>
      rintro (rfl | ⟨rfl, rfl⟩)
      · exact if_pos rfl
      · rfl
    | reset => rintro ⟨rfl, rfl | rfl⟩ <;> rfl
    | _ => rintro ⟨rfl, rfl⟩; rfl

/-- The task that a request asks for, if it is an administrator's. -/
def Request.task? (r : Request) : Option AdminTask :=
  if isAdminPath r.path then AdminTask.of? r.method r.path else none

/-- A request asks for a task by the method and the segments that name it. -/
lemma Request.task?_eq_some_iff {r : Request} {task : AdminTask} :
    r.task? = some task ↔
      isAdminPath r.path = true ∧ task.IsNamed r.method (adminSegments r.path) := by
  rw [task?, Option.ite_none_right_eq_some, AdminTask.of?, AdminTask.ofSegments?_eq_some_iff]

/-- A request that is not an administrator's asks for no task. -/
lemma Request.task?_of_not_admin {r : Request} (h : isAdminPath r.path = false) :
    r.task? = none := by
  rw [task?, h]
  rfl

namespace Server

variable {s : Server}

/-! ## What a request leads to -/

/-- A request of an administrator is the task that its method and path name. -/
lemma administer_of_task {method path : String} {task : AdminTask}
    (h : AdminTask.of? method path = some task) (s : Server) (body : Bytes) :
    s.administer method path body = s.perform task body := by
  rw [administer, h]

/-- A request that is not an administrator's is served. -/
lemma receive_of_not_admin {r : Request} (h : isAdminPath r.path = false) (s : Server)
    (time : String) (d : Delivery) : s.receive time d r = s.serve time d r := by
  rw [receive, h]
  rfl

/-- A request that asks for a task leads to what the task does, with the same response. -/
lemma receive_of_task {r : Request} {task : AdminTask} (h : r.task? = some task) (s : Server)
    (time : String) (d : Delivery) :
    (s.receive time d r).server = (s.perform task r.body).server ∧
      (s.receive time d r).response = (s.perform task r.body).response := by
  obtain ⟨hadmin, htask⟩ := Option.ite_none_right_eq_some.1 h
  rw [receive, if_pos hadmin, administer_of_task htask]
  exact ⟨rfl, rfl⟩

/-- A request to import may spell its path in any way. -/
lemma administer_importStubs {path : String} (h : adminSegments path = ["mappings", "import"])
    (s : Server) (body : Bytes) : s.administer "POST" path body = s.performImport body := by
  have htask : AdminTask.of? "POST" path = some .importStubs :=
    AdminTask.ofSegments?_eq_some_iff.2 ⟨rfl, h⟩
  rw [administer_of_task htask, perform]

/-- **All that a request can do to a server**: it is served, it is a task, or it does nothing. -/
lemma receive_cases (s : Server) (time : String) (d : Delivery) (r : Request) :
    (isAdminPath r.path = false ∧ (s.receive time d r).server = (s.serve time d r).server) ∨
      (∃ task, r.task? = some task ∧
        (s.receive time d r).server = (s.perform task r.body).server) ∨
      isAdminPath r.path = true ∧ r.task? = none ∧ (s.receive time d r).server = s := by
  cases hadmin : isAdminPath r.path with
  | false => exact .inl ⟨rfl, by rw [receive_of_not_admin hadmin]⟩
  | true =>
    cases htask : r.task? with
    | some task => exact .inr (.inl ⟨task, rfl, (receive_of_task htask s time d).1⟩)
    | none =>
      have hnone : AdminTask.of? r.method r.path = none := by
        rwa [Request.task?, if_pos hadmin] at htask
      refine .inr (.inr ⟨rfl, rfl, ?_⟩)
      rw [receive, if_pos hadmin, administer, hnone]

/-! ## What serving does -/

/-- The answer of the backend to a request, if it is sent on and answered. -/
def answer? (s : Server) (d : Delivery) (r : Request) : Option Answer :=
  s.backend?.bind fun b => (b.forward d (s.addressed r)).toOption

/-- Replaying changes the counts only. -/
lemma server_replay (s : Server) (time : String) (r : Request) :
    ∃ o, (s.replay time r).server = s.countRequest o := by
  unfold replay
  dsimp only
  split
  · exact ⟨_, rfl⟩
  · exact ⟨_, rfl⟩

/-- Sending on changes the server as the answer of the backend says, and counts a failure if there
is none. -/
lemma server_relay (s : Server) (d : Delivery) (r : Request) :
    (s.relay d (s.addressed r)).server =
      match s.answer? d r with
      | some a => s.afterAnswer r a
      | none => s.countRequest .failed := by
  unfold relay answer?
  cases s.backend? with
  | none => rfl
  | some b =>
    dsimp only [Option.bind_some]
    cases b.forward d (s.addressed r) <;> rfl

/-- A request is served by the backend or by the stubs, whatever is logged about it. -/
lemma serve_eq (s : Server) (time : String) (d : Delivery) (r : Request) :
    ∃ events, s.serve time d r =
      { (if s.mode.usesBackend then s.relay d (s.addressed r)
          else s.replay time (s.addressed r)) with events := events } := by
  rw [serve]
  split
  · exact ⟨_, rfl⟩
  · exact ⟨_, rfl⟩

/-- What serving does to the server depends on the mode. -/
lemma server_serve (s : Server) (time : String) (d : Delivery) (r : Request) :
    (s.serve time d r).server =
      if s.mode.usesBackend then (s.relay d (s.addressed r)).server
      else (s.replay time (s.addressed r)).server := by
  obtain ⟨events, heq⟩ := serve_eq s time d r
  rw [heq]
  split <;> rfl

/-- What is served depends on the mode. -/
lemma response_serve (s : Server) (time : String) (d : Delivery) (r : Request) :
    (s.serve time d r).response =
      if s.mode.usesBackend then (s.relay d (s.addressed r)).response
      else (s.replay time (s.addressed r)).response := by
  obtain ⟨events, heq⟩ := serve_eq s time d r
  rw [heq]
  split <;> rfl

/-- **All that serving can do to a server**: a request is counted, and an answer of the backend is
kept in record mode. -/
lemma serve_cases (s : Server) (time : String) (d : Delivery) (r : Request) :
    (s.answer? d r = none ∧ ∃ o, (s.serve time d r).server = s.countRequest o) ∨
      ∃ a, s.answer? d r = some a ∧ (s.serve time d r).server = s.afterAnswer r a := by
  rw [server_serve]
  split
  · rw [server_relay]
    cases s.answer? d r with
    | none => exact .inl ⟨rfl, _, rfl⟩
    | some a => exact .inr ⟨a, rfl, rfl⟩
  · next hmode =>
    refine .inl ⟨?_, server_replay s time _⟩
    rw [answer?, backend?, if_neg hmode]
    rfl

/-- In record mode the exchange of an answer is kept and counted. -/
lemma afterAnswer_eq (s : Server) (r : Request) (a : Answer) :
    ∃ m, s.afterAnswer r a =
      { s with
        recorder := if s.mode = .record then s.recorder.record (a.toExchange r) else s.recorder
        metrics := m } := by
  by_cases hmode : s.mode = .record
  · rw [if_pos hmode]
    exact ⟨_, if_pos hmode⟩
  · rw [if_neg hmode]
    exact ⟨_, if_neg hmode⟩

/-- **A request that is not an administrator's** does nothing to the stubs. -/
lemma stubs_serve (s : Server) (time : String) (d : Delivery) (r : Request) :
    (s.serve time d r).server.stubs = s.stubs := by
  rcases serve_cases s time d r with ⟨-, o, heq⟩ | ⟨a, -, heq⟩ <;> rw [heq]
  · rfl
  · obtain ⟨m, hm⟩ := afterAnswer_eq s r a
    rw [hm]

/-- Serving keeps the settings. -/
lemma settings_serve (s : Server) (time : String) (d : Delivery) (r : Request) :
    (s.serve time d r).server.settings = s.settings := by
  rcases serve_cases s time d r with ⟨-, o, heq⟩ | ⟨a, -, heq⟩ <;> rw [heq]
  · rfl
  · obtain ⟨m, hm⟩ := afterAnswer_eq s r a
    rw [hm]

/-- **What a request that is not an administrator's does to the recorder**: in record mode, and if
the backend answers, one exchange is added. -/
lemma held_serve (s : Server) (time : String) (d : Delivery) (r : Request) :
    (s.serve time d r).server.recorder.held =
      s.recorder.held ++
        if s.mode = .record then (s.answer? d r).toList.map (·.toExchange r) else [] := by
  rcases serve_cases s time d r with ⟨hanswer, o, heq⟩ | ⟨a, hanswer, heq⟩ <;> rw [heq, hanswer]
  · simp only [Option.toList_none, List.map_nil, ite_self, List.append_nil]
    rfl
  · obtain ⟨m, hm⟩ := afterAnswer_eq s r a
    rw [hm]
    by_cases hmode : s.mode = .record
    · rw [if_pos hmode, if_pos hmode]
      rfl
    · rw [if_neg hmode, if_neg hmode, List.append_nil]

/-! ## What tasks do -/

/-- With this body, the task is answered with the status and leads to the server. -/
inductive Performs (s : Server) (body : Bytes) : AdminTask → UInt16 → Server → Prop where
  | health : Performs s body .health 200 s
  | metrics : Performs s body .metrics 200 s
  | settings : Performs s body .settings 200 s
  | resetScenarios : Performs s body .resetScenarios 200 s
  | listStubs : Performs s body .listStubs 200 s
  | added {stub : Stub} (h : Stub.read body = .ok stub) :
      Performs s body .addStub 201 (s.addStubs [stub])
  | notAdded {e : Json.DecodeError} (h : Stub.read body = .error e) :
      Performs s body .addStub 400 s
  | imported {d : Document} (h : Document.read body = .ok d) :
      Performs s body .importStubs 200 (s.addStubs d.stubs)
  | notImported {e : Json.DecodeError} (h : Document.read body = .error e) :
      Performs s body .importStubs 400 s
  | clearStubs : Performs s body .clearStubs 200 s.clearStubs
  | clearRecorder : Performs s body .clearRecorder 200 s.clearRecorder
  | resetAll (h : s.mode = .record) : Performs s body .reset 200 s.clearStubs.clearRecorder
  | resetStubs (h : s.mode ≠ .record) : Performs s body .reset 200 s.clearStubs
  | snapshot (h : s.mode = .record) :
      Performs s body .snapshot 200 (s.takeSnapshot (SnapshotRequest.ofBody body).1).2.2
  | noSnapshot (h : s.mode ≠ .record) : Performs s body .snapshot 200 s

/-- **All that a task can do to a server**, with the status of the answer. -/
lemma performs (s : Server) (task : AdminTask) (body : Bytes) :
    Performs s body task (s.perform task body).response.status (s.perform task body).server := by
  cases task with
  | health => exact .health
  | metrics => exact .metrics
  | settings => exact .settings
  | resetScenarios => exact .resetScenarios
  | listStubs => exact .listStubs
  | clearStubs => exact .clearStubs
  | clearRecorder => exact .clearRecorder
  | addStub =>
    rw [perform, performAdd]
    cases hread : Stub.read body with
    | error e => exact .notAdded hread
    | ok stub => exact .added hread
  | importStubs =>
    rw [perform, performImport]
    cases hread : Document.read body with
    | error e => exact .notImported hread
    | ok d => exact .imported hread
  | reset =>
    rw [perform, performReset, reset]
    by_cases hmode : s.mode = .record
    · rw [if_pos hmode]
      exact .resetAll hmode
    · rw [if_neg hmode]
      exact .resetStubs hmode
  | snapshot =>
    rw [perform, performSnapshot]
    by_cases hmode : s.mode = .record
    · rw [if_pos hmode]
      exact .snapshot hmode
    · rw [if_neg hmode]
      exact .noSnapshot hmode

section Performs

variable {t : Server} {task : AdminTask} {status : UInt16} {body : Bytes}

/-- A task keeps the settings. -/
lemma Performs.settings_eq (h : Performs s body task status t) : t.settings = s.settings := by
  cases h <;> rfl

/-- **What a task does to the stubs**: it drops them, adds those that it can read, or keeps them. -/
lemma Performs.stubs_eq (h : Performs s body task status t) :
    t.stubs =
      match task with
      | .addStub => s.stubs ++ (Stub.read body).toOption.toList
      | .importStubs => s.stubs ++ (Document.read body).toOption.toList.flatMap (·.stubs)
      | .reset => []
      | .clearStubs => []
      | _ => s.stubs := by
  cases h with
  | added hread => rw [hread]; rfl
  | notAdded hread => rw [hread]; exact (List.append_nil _).symm
  | imported hread => rw [hread]; exact congrArg (s.stubs ++ ·) (List.append_nil _).symm
  | notImported hread => rw [hread]; exact (List.append_nil _).symm
  | _ => rfl

/-- **Without recording** a task leaves the recorder empty. -/
lemma Performs.recorder_eq (h : Performs s body task status t) (hmode : s.mode ≠ .record)
    (hs : s.recorder = .empty) : t.recorder = .empty := by
  cases h with
  | resetAll hrecord => exact absurd hrecord hmode
  | snapshot hrecord => exact absurd hrecord hmode
  | clearRecorder => rfl
  | _ => exact hs

/-- **A task that is refused** changes nothing. -/
lemma Performs.eq_of_refused (h : Performs s body task status t)
    (hstatus : status = 400 ∨ status = 404) : t = s := by
  cases h with
  | notAdded hread => rfl
  | notImported hread => rfl
  | _ => exact absurd hstatus (by decide)

end Performs

/-- **Settings stay the same**, whatever the request is. -/
lemma settings_receive (s : Server) (time : String) (d : Delivery) (r : Request) :
    (s.receive time d r).server.settings = s.settings := by
  rcases receive_cases s time d r with ⟨-, heq⟩ | ⟨task, -, heq⟩ | ⟨-, -, heq⟩ <;> rw [heq]
  · exact settings_serve s time d r
  · exact (performs s task r.body).settings_eq

end Server

end HttpStub
