import HttpStub.Proofs.Exchange.Recorder
import HttpStub.Proofs.Server.History
import HttpStub.Proofs.Server.Transfer
import HttpStub.Proofs.Stub.Selection

set_option autoImplicit false

/-!
# What a server has counted

The counts of a server agree with what has happened since its start: each request is counted once,
under what became of it; the exchanges that have been recorded are those that are held, those that
snapshots have taken and those that have been cleared; and each stub of a snapshot is counted as one
of a scenario or as a plain one.

## Main definitions

* `HttpStub.Server.trace` — the requests of a run, each with the server that received it.
* `HttpStub.Server.outcome?` — what becomes of a request.
* `HttpStub.Server.recordedBy`, `HttpStub.Server.takenBy`, `HttpStub.Server.clearedBy` — the
  exchanges that a request adds to the recorder, and that it takes out.
* `HttpStub.Server.returnedBy` — the stubs that answer a request for a snapshot.
* `HttpStub.Server.Counts` — the counts of a server are those of a trace.

## Main results

* `HttpStub.Server.Counts.step` — this goes on with each request.
* `HttpStub.Server.run_counts` — the counts after a run.
-/

namespace HttpStub

/-! ## Tallies -/

namespace Tally

variable {κ : Type} [DecidableEq κ]

/-- What is added for a key is added to the total. -/
lemma total_add (t : Tally κ) (k : κ) (n : Nat) : (t.add k n).total = t.total + n := by
  obtain ⟨cs⟩ := t
  simp only [add, total]
  induction cs with
  | nil => simp [addTo]
  | cons c cs ih =>
    rw [addTo]
    split
    · simp only [List.foldr_cons]
      omega
    · simp only [List.foldr_cons, ih]
      omega

/-- What is added for a key is counted for this key alone. -/
lemma count_add (t : Tally κ) (k j : κ) (n : Nat) :
    (t.add k n).count j = t.count j + if k = j then n else 0 := by
  obtain ⟨cs⟩ := t
  simp only [add, count]
  induction cs with
  | nil => by_cases hj : k = j <;> simp [addTo, hj]
  | cons c cs ih =>
    rw [addTo]
    split
    · next hc =>
      subst hc
      by_cases hj : c.1 = j <;> simp [hj]
      omega
    · next hc =>
      by_cases hj : c.1 = j
      · simp only [List.filter_cons, hj, beq_self_eq_true, if_true, List.foldr_cons, ih]
        omega
      · simp only [List.filter_cons, beq_eq_false_iff_ne.2 hj, Bool.false_eq_true, if_false, ih]

end Tally

/-! ## Kinds of stubs -/

namespace Stub

/-- The kind of a stub in a snapshot. -/
def kind (s : Stub) : StubKind :=
  if s.scenarioName.isSome then .scenario else .plain

/-- The stubs that are counted as those of a scenario have the name of one. -/
lemma kind_beq_scenario (s : Stub) : (s.kind == .scenario) = s.scenarioName.isSome := by
  rw [kind]
  cases s.scenarioName.isSome <;> rfl

/-- The stubs that are counted as plain ones have no name of a scenario. -/
lemma kind_beq_plain (s : Stub) : (s.kind == .plain) = !s.scenarioName.isSome := by
  rw [kind]
  cases s.scenarioName.isSome <;> rfl

end Stub

namespace Server

variable {s : Server} {v : Visit}

/-! ## What a request leads to -/

/-- What becomes of a request that is served: with a backend, whether it is answered, and otherwise
whether it fits a stub. -/
def outcome (s : Server) (v : Visit) : Outcome :=
  if s.mode.usesBackend then
    if (s.answer? v.delivery v.request).isSome then .forwarded else .failed
  else if s.stubs.any fun stub => (stub.verdict (s.addressed v.request)).matched then .matched
  else .unmatched

/-- What becomes of a request, if it is not an administrator's. -/
def outcome? (s : Server) (v : Visit) : Option Outcome :=
  if isAdminPath v.request.path then none else some (s.outcome v)

/-- The exchanges that a request puts into the recorder. -/
def recordedBy (s : Server) (v : Visit) : List Exchange :=
  if isAdminPath v.request.path = false ∧ s.mode = .record then
    (s.answer? v.delivery v.request).toList.map (·.toExchange v.request)
  else []

/-- The exchanges that a request takes out of the recorder for a snapshot: those that pass its
filter. -/
def takenBy (s : Server) (v : Visit) : List Exchange :=
  if v.request.task? = some .snapshot ∧ s.mode = .record then
    s.recorder.held.filter (Recorder.passes (SnapshotRequest.ofBody v.request.body).1.filter?.1)
  else []

/-- The exchanges that a request drops. -/
def clearedBy (s : Server) (v : Visit) : List Exchange :=
  if v.request.task? = some .clearRecorder ∨ v.request.task? = some .reset ∧ s.mode = .record then
    s.recorder.held
  else []

/-- The stubs that answer a request for a snapshot. -/
def returnedBy (s : Server) (v : Visit) : List Stub :=
  if v.request.task? = some .snapshot then (s.snapshotDocument v.request.body).stubs else []

/-! ## Serving -/

/-- A replayed request is counted under whether any stub fits it. -/
lemma server_replay_eq (s : Server) (time : String) (r : Request) :
    (s.replay time r).server =
      s.countRequest
        (if s.stubs.any fun stub => (stub.verdict r).matched then .matched else .unmatched) := by
  unfold replay
  cases hfit : s.stubs.any fun stub => (stub.verdict r).matched with
  | true =>
    obtain ⟨stub, hstub, hmatched⟩ := List.any_eq_true.1 hfit
    obtain ⟨b, -, hselect, hb, -⟩ := exists_select_of_matched hstub hmatched
    simp only [hselect, hb, if_true]
  | false =>
    have hselect : (select r s.stubs).matched = false := by
      rw [← Bool.not_eq_true, matched_select_iff]
      simpa using hfit
    simp only [hselect, Bool.false_eq_true, if_false]

/-- An answer of the backend is counted with its request, and as an exchange if it is recorded. -/
lemma metrics_afterAnswer (s : Server) (r : Request) (a : Answer) :
    (s.afterAnswer r a).metrics =
      let m := (s.metrics.countAnswer r.method a.status).countRequest s.mode .forwarded
      if s.mode = .record then m.countExchange else m := by
  by_cases hmode : s.mode = .record
  · rw [if_pos hmode]
    exact congrArg metrics (if_pos hmode : s.afterAnswer r a = _)
  · rw [if_neg hmode]
    exact congrArg metrics (if_neg hmode : s.afterAnswer r a = _)

/-- **What serving a request counts**: the request under what becomes of it, and the exchange that
is recorded. -/
lemma metrics_serve (hv : isAdminPath v.request.path = false) :
    let m := (s.serve v.time v.delivery v.request).server.metrics
    m.requests = s.metrics.requests.add (s.mode, s.outcome v) 1 ∧
      m.recorded = s.metrics.recorded + (s.recordedBy v).length ∧
      m.snapshotStubs = s.metrics.snapshotStubs := by
  have hrecorded : s.recordedBy v =
      if s.mode = .record then
        (s.answer? v.delivery v.request).toList.map (·.toExchange v.request)
      else [] := by
    simp only [recordedBy, hv, true_and]
  dsimp only
  rw [server_serve, outcome, hrecorded]
  by_cases hbackend : s.mode.usesBackend = true
  · rw [if_pos hbackend, if_pos hbackend, server_relay]
    cases s.answer? v.delivery v.request with
    | none =>
      rw [Option.toList_none, List.map_nil, ite_self]
      exact ⟨rfl, rfl, rfl⟩
    | some a =>
      dsimp only
      rw [metrics_afterAnswer]
      by_cases hmode : s.mode = .record
      · rw [if_pos hmode, if_pos hmode]
        exact ⟨rfl, rfl, rfl⟩
      · rw [if_neg hmode, if_neg hmode]
        exact ⟨rfl, rfl, rfl⟩
  · -- a server that records has a mode that uses the backend
    have hmode : s.mode ≠ .record := by
      intro hrecord
      rw [hrecord] at hbackend
      exact hbackend rfl
    rw [if_neg hbackend, if_neg hbackend, if_neg hmode, server_replay_eq]
    exact ⟨rfl, rfl, rfl⟩

/-! ## Tasks -/

/-- **What a snapshot counts**: its stubs, by kind. -/
lemma count_countSnapshot (m : Metrics) (stubs : List Stub) (kind : StubKind) :
    let inScenarios := (stubs.filter (·.scenarioName.isSome)).length
    (m.countSnapshot (stubs.length - inScenarios) inScenarios).snapshotStubs.count kind =
      m.snapshotStubs.count kind + (stubs.filter (·.kind == kind)).length := by
  have hlength : stubs.length = (stubs.filter (·.scenarioName.isSome)).length +
      (stubs.filter (!·.scenarioName.isSome)).length :=
    List.length_eq_length_filter_add _
  simp only [Metrics.countSnapshot, Tally.count_add]
  cases kind with
  | plain =>
    simp only [Stub.kind_beq_plain, reduceCtorEq, if_true, if_false]
    omega
  | scenario =>
    simp only [Stub.kind_beq_scenario, reduceCtorEq, if_true, if_false]
    omega

/-- **What a task counts**: the stubs of a snapshot. -/
lemma Performs.metrics_eq {t : Server} {task : AdminTask} {status : UInt16} {body : Bytes}
    (h : Performs s body task status t) :
    t.metrics =
      if task = .snapshot ∧ s.mode = .record then
        let stubs := (s.snapshotDocument body).stubs
        let inScenarios := (stubs.filter (·.scenarioName.isSome)).length
        s.metrics.countSnapshot (stubs.length - inScenarios) inScenarios
      else s.metrics := by
  cases h with
  | snapshot hmode =>
    rw [if_pos ⟨rfl, hmode⟩, snapshotDocument, if_pos hmode]
    rfl
  | noSnapshot hmode => rw [if_neg fun h => hmode h.2]
  | _ => rfl

/-- **What a task does to the recorder**: what a snapshot takes and what is dropped leave it. -/
lemma Performs.held_eq {t : Server} {task : AdminTask} {status : UInt16} {body : Bytes}
    (h : Performs s body task status t) :
    t.recorder.held =
      if task = .snapshot ∧ s.mode = .record then
        s.recorder.held.filter fun e =>
          !Recorder.passes (SnapshotRequest.ofBody body).1.filter?.1 e
      else if task = .clearRecorder ∨ task = .reset ∧ s.mode = .record then []
      else s.recorder.held := by
  cases h with
  | snapshot hmode =>
    rw [if_pos ⟨rfl, hmode⟩]
    have hdrain := Recorder.drain_eq s.recorder (SnapshotRequest.ofBody body).1.filter?.1
    exact congrArg (fun p => p.2.held) hdrain
  | noSnapshot hmode =>
    rw [if_neg fun h => hmode h.2]
    rfl
  | resetAll hmode =>
    rw [if_neg fun h => AdminTask.noConfusion h.1, if_pos (.inr ⟨rfl, hmode⟩)]
    rfl
  | resetStubs hmode =>
    have hkept : ¬ (AdminTask.reset = .clearRecorder ∨ AdminTask.reset = .reset ∧
        s.mode = .record) := by
      rintro (h | ⟨-, h⟩)
      · exact AdminTask.noConfusion h
      · exact hmode h
    rw [if_neg fun h => AdminTask.noConfusion h.1, if_neg hkept]
    rfl
  | clearRecorder => rfl
  | _ => rfl

/-! ## Any request -/

/-- What a request does to the counts and to the recorder of a server. -/
structure Effects (s : Server) (v : Visit) (t : Server) : Prop where
  requests : t.metrics.requests =
    (s.outcome? v).elim s.metrics.requests fun o => s.metrics.requests.add (s.mode, o) 1
  recorded : t.metrics.recorded = s.metrics.recorded + (s.recordedBy v).length
  snapshots : ∀ kind, t.metrics.snapshotStubs.count kind =
    s.metrics.snapshotStubs.count kind + ((s.returnedBy v).filter (·.kind == kind)).length
  held : (s.recorder.held ++ s.recordedBy v).Perm
    (t.recorder.held ++ (s.takenBy v ++ s.clearedBy v))

/-- A request that is no task takes nothing out of the recorder and returns no stubs. -/
lemma taken_of_no_task (h : v.request.task? = none) :
    s.takenBy v = [] ∧ s.clearedBy v = [] ∧ s.returnedBy v = [] := by
  simp [takenBy, clearedBy, returnedBy, h]

/-- A request of an administrator has no outcome and records nothing. -/
lemma recorded_of_admin (h : isAdminPath v.request.path = true) :
    s.outcome? v = none ∧ s.recordedBy v = [] := by
  simp [outcome?, recordedBy, h]

/-- **Serving a request** has the effects that the history tells. -/
lemma effects_of_not_admin (s : Server) (hv : isAdminPath v.request.path = false) :
    s.Effects v (s.serve v.time v.delivery v.request).server := by
  obtain ⟨hrequests, hrecorded, hsnapshots⟩ := metrics_serve (s := s) hv
  obtain ⟨htaken, hcleared, hreturned⟩ :=
    taken_of_no_task (s := s) (Request.task?_of_not_admin hv)
  have houtcome : s.outcome? v = some (s.outcome v) := by
    rw [outcome?, hv]
    rfl
  refine ⟨?_, hrecorded, fun kind => ?_, ?_⟩
  · rw [houtcome, hrequests]
    rfl
  · rw [hreturned, hsnapshots]
    rfl
  · rw [htaken, hcleared, held_serve, List.append_nil, List.append_nil]
    simp [recordedBy, hv]

section Task

variable {task : AdminTask} (htask : v.request.task? = some task)

include htask

/-- The stubs that answer a request for a snapshot are counted by their kinds. No other task counts
stubs. -/
lemma snapshots_of_task (s : Server) (kind : StubKind) :
    (s.perform task v.request.body).server.metrics.snapshotStubs.count kind =
      s.metrics.snapshotStubs.count kind + ((s.returnedBy v).filter (·.kind == kind)).length := by
  have hreturned : s.returnedBy v =
      if task = .snapshot then (s.snapshotDocument v.request.body).stubs else [] := by
    simp only [returnedBy, htask, Option.some.injEq]
  rw [(performs s task v.request.body).metrics_eq, hreturned]
  by_cases hsnapshot : task = .snapshot
  · rw [if_pos hsnapshot]
    by_cases hmode : s.mode = .record
    · rw [if_pos ⟨hsnapshot, hmode⟩]
      exact count_countSnapshot s.metrics _ kind
    · -- without recording the document is empty, and nothing is counted
      rw [if_neg fun h => hmode h.2, snapshotDocument, if_neg hmode]
      rfl
  · rw [if_neg hsnapshot, if_neg fun h => hsnapshot h.1]
    rfl

/-- What is held before a task is held after it, taken or cleared. -/
lemma held_of_task (s : Server) :
    s.recorder.held.Perm
      ((s.perform task v.request.body).server.recorder.held ++ (s.takenBy v ++ s.clearedBy v)) := by
  rw [(performs s task v.request.body).held_eq, takenBy, clearedBy, htask]
  simp only [Option.some.injEq]
  by_cases hsnapshot : task = .snapshot ∧ s.mode = .record
  · have hkept : ¬ (task = .clearRecorder ∨ task = .reset ∧ s.mode = .record) := by
      rw [hsnapshot.1]
      simp
    rw [if_pos hsnapshot, if_pos hsnapshot, if_neg hkept, List.append_nil]
    exact (List.filter_append_perm _ _).symm.trans List.perm_append_comm
  · rw [if_neg hsnapshot, if_neg hsnapshot]
    by_cases hdrops : task = .clearRecorder ∨ task = .reset ∧ s.mode = .record
    · rw [if_pos hdrops, if_pos hdrops]
      exact .refl _
    · rw [if_neg hdrops, if_neg hdrops, List.append_nil, List.append_nil]

/-- **A task** has the effects that the history tells. -/
lemma effects_of_task (s : Server) : s.Effects v (s.perform task v.request.body).server := by
  have hmetrics := (performs s task v.request.body).metrics_eq
  obtain ⟨houtcome, hnone⟩ := recorded_of_admin (s := s) (Request.task?_eq_some_iff.1 htask).1
  refine ⟨?_, ?_, snapshots_of_task htask s, ?_⟩
  · rw [houtcome, hmetrics]
    split <;> rfl
  · rw [hnone, hmetrics]
    split <;> rfl
  · rw [hnone, List.append_nil]
    exact held_of_task htask s

end Task

/-- **All that a request does to the counts and to the recorder.** -/
lemma effects_after (s : Server) (v : Visit) : s.Effects v (s.after v) := by
  rw [after]
  rcases receive_cases s v.time v.delivery v.request with
    ⟨hadmin, heq⟩ | ⟨task, htask, heq⟩ | ⟨hadmin, htask, heq⟩ <;> rw [heq]
  · exact effects_of_not_admin s hadmin
  · exact effects_of_task htask s
  · obtain ⟨houtcome, hnone⟩ := recorded_of_admin (s := s) hadmin
    obtain ⟨htaken, hcleared, hreturned⟩ := taken_of_no_task (s := s) htask
    refine ⟨?_, ?_, fun kind => ?_, ?_⟩
    · rw [houtcome]
      rfl
    · rw [hnone]
      rfl
    · rw [hreturned]
      rfl
    · rw [hnone, htaken, hcleared]
      exact .refl _

/-! ## Runs -/

/-- The requests of a run, each with the server that received it. -/
def trace (s : Server) : List Visit → List (Server × Visit)
  | [] => []
  | v :: h => (s, v) :: (s.after v).trace h

/-- One more request is received by the server after those before it. -/
lemma trace_append_singleton (s : Server) (h : List Visit) (v : Visit) :
    s.trace (h ++ [v]) = s.trace h ++ [(s.run h, v)] := by
  induction h generalizing s with
  | nil => rfl
  | cons w h ih => exact congrArg ((s, w) :: ·) (ih (s.after w))

/-- The requests are those of the run. -/
lemma map_snd_trace (s : Server) (h : List Visit) : (s.trace h).map Prod.snd = h := by
  induction h generalizing s with
  | nil => rfl
  | cons v h ih => exact congrArg (v :: ·) (ih (s.after v))

/-- No request changes the settings of the server. -/
lemma settings_of_mem_trace {h : List Visit} {p : Server × Visit} (hp : p ∈ s.trace h) :
    p.1.settings = s.settings := by
  induction h generalizing s with
  | nil => exact absurd hp List.not_mem_nil
  | cons v h ih =>
    rcases List.mem_cons.1 hp with rfl | hp
    · rfl
    · exact (ih hp).trans (settings_receive s v.time v.delivery v.request)

/-- **The counts of a server are those of a trace.** Each request that is not an administrator's is
counted once, under the mode and what became of it. Each exchange that was put into the recorder is
counted; it is held, or a snapshot has taken it, or it has been cleared. Each stub of a snapshot is
counted under its kind. -/
structure Counts (t : List (Server × Visit)) (s : Server) : Prop where
  requests : s.metrics.requests.total =
    (t.filter fun p => !isAdminPath p.2.request.path).length
  outcomes : ∀ (m : Mode) (o : Outcome), s.metrics.requests.count (m, o) =
    (t.filter fun p => p.1.mode == m && p.1.outcome? p.2 == some o).length
  recorded : s.metrics.recorded = (t.flatMap fun p => p.1.recordedBy p.2).length
  exchanges : (t.flatMap fun p => p.1.recordedBy p.2).Perm
    (s.recorder.held ++
      ((t.flatMap fun p => p.1.takenBy p.2) ++ t.flatMap fun p => p.1.clearedBy p.2))
  snapshots : ∀ kind : StubKind, s.metrics.snapshotStubs.count kind =
    ((t.flatMap fun p => p.1.returnedBy p.2).filter (·.kind == kind)).length

/-- **The counts go on with each request.** -/
lemma Counts.step {t : List (Server × Visit)} (h : Counts t s) (v : Visit) :
    Counts (t ++ [(s, v)]) (s.after v) := by
  obtain ⟨hrequests, hrecorded, hsnapshots, hheld⟩ := effects_after s v
  have hadmin : s.outcome? v = if isAdminPath v.request.path then none else some (s.outcome v) :=
    rfl
  refine ⟨?_, fun m o => ?_, ?_, ?_, fun kind => ?_⟩
  · rw [hrequests, hadmin, List.filter_append, List.length_append, ← h.requests]
    cases hpath : isAdminPath v.request.path <;> simp [hpath, Tally.total_add]
  · rw [hrequests, List.filter_append, List.length_append, ← h.outcomes]
    cases houtcome : s.outcome? v with
    | none => simp [houtcome]
    | some o' =>
      rw [Option.elim_some, Tally.count_add]
      by_cases hmo : (s.mode, o') = (m, o)
      · obtain ⟨rfl, rfl⟩ := Prod.mk.inj hmo
        simp [houtcome]
      · have hother : (s.mode == m && s.outcome? v == some o) = false := by
          rw [Prod.mk.injEq] at hmo
          simpa [houtcome] using hmo
        simp [hmo, hother]
  · rw [hrecorded, h.recorded, List.flatMap_append, List.length_append, List.flatMap_singleton]
  · -- each exchange occurs as often before and after, in the request and in the trace
    refine List.perm_iff_count.2 fun e => ?_
    have he := List.perm_iff_count.1 hheld e
    have hes := List.perm_iff_count.1 h.exchanges e
    simp only [List.flatMap_append, List.flatMap_singleton, List.count_append] at he hes ⊢
    omega
  · rw [hsnapshots, h.snapshots, List.flatMap_append, List.filter_append, List.length_append,
      List.flatMap_singleton]

/-- A run of a server that has counted nothing and holds nothing. -/
lemma counts_run (hm : s.metrics = .zero) (hr : s.recorder = .empty) (h : List Visit) :
    Counts (s.trace h) (s.run h) := by
  induction h using List.reverseRecOn with
  | nil =>
    have hstart : s.run [] = s := rfl
    rw [hstart]
    refine ⟨?_, fun m o => ?_, ?_, ?_, fun kind => ?_⟩
    · rw [hm]
      rfl
    · rw [hm]
      rfl
    · rw [hm]
      rfl
    · rw [hr]
      exact .refl _
    · rw [hm]
      rfl
  | append_singleton h v ih =>
    rw [trace_append_singleton, run_append_singleton]
    exact ih.step v

/-! ## Sums -/

/-- In a mode without backend a stub fits a request, or none does. -/
lemma outcome_of_replay (hmode : ¬ s.mode.usesBackend = true) (v : Visit) :
    s.outcome v = .matched ∨ s.outcome v = .unmatched := by
  rw [outcome, if_neg hmode]
  split
  · exact .inl rfl
  · exact .inr rfl

/-- In a mode with a backend a request is answered by it, or the attempt fails. -/
lemma outcome_of_backend (hmode : s.mode.usesBackend = true) (v : Visit) :
    s.outcome v = .forwarded ∨ s.outcome v = .failed := by
  rw [outcome, if_pos hmode]
  split
  · exact .inl rfl
  · exact .inr rfl

/-- Where two outcomes are all that there are, their counts make up the total. -/
lemma Counts.requests_eq_add {t : List (Server × Visit)} (h : Counts t s) {m : Mode}
    {o o' : Outcome} (hne : o ≠ o') (hmode : ∀ p ∈ t, p.1.mode = m)
    (houtcome : ∀ p ∈ t, p.1.outcome p.2 = o ∨ p.1.outcome p.2 = o') :
    s.metrics.requests.total =
      s.metrics.requests.count (m, o) + s.metrics.requests.count (m, o') := by
  rw [h.requests, h.outcomes, h.outcomes,
    List.length_eq_length_filter_add fun p => p.1.outcome p.2 == o, List.filter_filter,
    List.filter_filter]
  congr 2
  · refine List.filter_congr fun p hp => ?_
    cases hadmin : isAdminPath p.2.request.path <;> simp [outcome?, hadmin, hmode p hp]
  · refine List.filter_congr fun p hp => ?_
    rcases houtcome p hp with ho | ho <;>
      cases hadmin : isAdminPath p.2.request.path <;>
        simp [outcome?, hadmin, hmode p hp, ho, hne, hne.symm]

/-- **The counts after a run** of any requests, in whatever mode, are those of its trace. The
requests that are not an administrator's are counted as matched and unmatched when the server
replays, and as forwarded and failed otherwise. The exchanges that were counted are as many as those
that are held, that snapshots have taken and that have been cleared. The plain stubs and those of
scenarios are as many as the stubs that answered requests for snapshots; none is subtracted that was
not there. -/
theorem run_counts (settings : Settings) (loaded : List Stub) (h : List Visit) :
    let s := (start settings loaded).run h
    let t := (start settings loaded).trace h
    let returned := t.flatMap fun p => p.1.returnedBy p.2
    Counts t s ∧
    s.metrics.requests.total = (h.filter fun v => !isAdminPath v.request.path).length ∧
    (settings.mode = .replay → s.metrics.requests.total =
      s.metrics.requests.count (.replay, .matched) +
        s.metrics.requests.count (.replay, .unmatched)) ∧
    (settings.mode ≠ .replay → s.metrics.requests.total =
      s.metrics.requests.count (settings.mode, .forwarded) +
        s.metrics.requests.count (settings.mode, .failed)) ∧
    s.metrics.recorded = s.recorder.size + (t.flatMap fun p => p.1.takenBy p.2).length +
      (t.flatMap fun p => p.1.clearedBy p.2).length ∧
    s.metrics.snapshotStubs.count .scenario =
      (returned.filter (·.scenarioName.isSome)).length ∧
    s.metrics.snapshotStubs.count .plain + s.metrics.snapshotStubs.count .scenario =
      returned.length ∧
    ∀ p ∈ t, p.2.request.task? = some .snapshot →
      (p.1.receive p.2.time p.2.delivery p.2.request).response =
        .ofJson 200 (Document.text ⟨p.1.returnedBy p.2⟩) ∧
      ((p.1.returnedBy p.2).filter (·.scenarioName.isSome)).length ≤
        (p.1.returnedBy p.2).length := by
  intro s t returned
  have hcounts : Counts t s := counts_run rfl rfl h
  have hmode : ∀ p ∈ t, p.1.mode = settings.mode :=
    fun p hp => congrArg Settings.mode (settings_of_mem_trace hp)
  have hscenario : s.metrics.snapshotStubs.count .scenario =
      (returned.filter (·.scenarioName.isSome)).length := by
    rw [hcounts.snapshots]
    simp only [Stub.kind_beq_scenario]
    rfl
  refine ⟨hcounts, ?_, fun hreplay => ?_, fun hother => ?_, ?_, hscenario, ?_, ?_⟩
  · rw [hcounts.requests, ← map_snd_trace (start settings loaded) h, List.filter_map,
      List.length_map]
    rfl
  · refine hcounts.requests_eq_add Outcome.noConfusion (fun p hp => (hmode p hp).trans hreplay) ?_
    intro p hp
    refine outcome_of_replay ?_ p.2
    rw [hmode p hp, hreplay]
    exact Bool.false_ne_true
  · refine hcounts.requests_eq_add Outcome.noConfusion hmode fun p hp => ?_
    refine outcome_of_backend ?_ p.2
    rw [hmode p hp]
    cases hm : settings.mode with
    | replay => exact absurd hm hother
    | record => rfl
    | proxy => rfl
  · rw [hcounts.recorded, hcounts.exchanges.length_eq, List.length_append, List.length_append,
      Recorder.size, Nat.add_assoc]
  · rw [hscenario, hcounts.snapshots]
    simp only [Stub.kind_beq_plain]
    rw [Nat.add_comm]
    exact (List.length_eq_length_filter_add _).symm
  · intro p hp htask
    refine ⟨?_, List.length_filter_le _ _⟩
    rw [(receive_of_task htask p.1 p.2.time p.2.delivery).2, response_perform_snapshot, returnedBy,
      if_pos htask]

/-- A request is recorded, and a snapshot takes the exchange and returns its stub. -/
example :
    let m := ((start (settingsOf .record) []).run [search, snapshotVisit]).metrics
    m.requests.counts = [((.record, .forwarded), 1)] ∧ m.recorded = 1 ∧
      m.snapshotStubs.counts = [(.plain, 1), (.scenario, 0)] := by
  decide +kernel

end Server

end HttpStub
