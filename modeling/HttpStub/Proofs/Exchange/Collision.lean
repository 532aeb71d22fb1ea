import HttpStub.Proofs.Exchange.Scenario

set_option autoImplicit false

/-!
# Scenarios of different requests

The stubs of a repeated request form a single linear chain. The scenario is named for the path of
the request alone, however: repetitions of requests that differ in their methods, in their queries
or in the spelling of their paths can get the same name, and then the stubs of this name form no
chain.

## Main results

* `HttpStub.linearChain_occurrences` — the stubs of a repeated request form a chain.
* `HttpStub.filter_snapshot_scenario` — which stubs of a snapshot have a scenario.
* `HttpStub.linearChain_filter_iff` — they form a single chain if they are of one request only.
* `HttpStub.scenarios_linear_iff_unique` — the same, and that the stubs of one request always do.
-/

namespace HttpStub

variable {o : SnapshotOptions} {es : List Exchange} {k name : String}

/-- A request with a scenario is in the recording. -/
lemma exists_mem_occurrences (h : scenarioOf es k = some name) :
    ∃ i is, occurrences Exchange.requestKey es k = i :: is := by
  rw [scenarioOf] at h
  split at h
  · next i i' is hocc => exact ⟨i, i' :: is, hocc⟩
  · cases h

/-- The first occurrence of a repeated request waits for the state in which scenarios start. -/
lemma exists_starting (o : SnapshotOptions) (h : scenarioOf es k = some name) :
    ∃ i : Fin es.length, (es.get i).requestKey = k ∧
      (scenarioStub o es i).requiredScenarioState = some (stateName 0) := by
  obtain ⟨i, is, hocc⟩ := exists_mem_occurrences h
  have hi : i ∈ occurrences Exchange.requestKey es k := by
    rw [hocc]
    exact List.mem_cons_self
  refine ⟨i, mem_occurrences_iff.1 hi, (stateChain_occurrences o es h).waits 0 _ ?_⟩
  rw [hocc]
  rfl

/-- **The stubs of a repeated request** form a single linear chain. -/
lemma linearChain_occurrences (o : SnapshotOptions) (h : scenarioOf es k = some name) :
    LinearChain ((occurrences Exchange.requestKey es k).map (scenarioStub o es)) := by
  obtain ⟨i, is, hocc⟩ := exists_mem_occurrences h
  refine (stateChain_occurrences o es h).linearChain ?_
  rw [hocc]
  exact List.cons_ne_nil _ _

/-- **The stubs of a scenario** are those of the requests that have it. -/
lemma filter_snapshot_scenario (ho : o.repeatsAsScenarios = true) (es : List Exchange)
    (name : String) :
    ((snapshot o es).filter (·.scenarioName = some name)).Perm
      (((List.finRange es.length).filter
        fun i => scenarioOf es (es.get i).requestKey = some name).map (scenarioStub o es)) := by
  rw [snapshot_eq_map ho, List.filter_map]
  simp only [Function.comp_def, scenarioName_scenarioStub]
  exact ((scenarioOrder_perm o es).filter _).map _

/-- **The stubs of a scenario form a single linear chain** if, and only if, exactly one request has
it.

**Proof sketch.** If only one has it, the stubs are those of its occurrences. If two have it, the
first occurrences of both wait for the state in which scenarios start. -/
lemma linearChain_filter_iff (ho : o.repeatsAsScenarios = true) (es : List Exchange)
    (name : String) :
    LinearChain ((snapshot o es).filter (·.scenarioName = some name)) ↔
      ∃! k, scenarioOf es k = some name := by
  have hperm := filter_snapshot_scenario ho es name
  constructor
  · intro hlinear
    have hstubs := hlinear.perm hperm
    have hapart := hstubs.apart
    rw [List.map_map] at hapart
    obtain ⟨s, hs, -⟩ := List.countP_pos_iff.1 (hstubs.start ▸ Nat.one_pos)
    obtain ⟨i, hi, -⟩ := List.mem_map.1 hs
    refine ⟨(es.get i).requestKey, of_decide_eq_true (List.mem_filter.1 hi).2, fun k hk => ?_⟩
    have hi := of_decide_eq_true (List.mem_filter.1 hi).2
    obtain ⟨m, hm, hmwaits⟩ := exists_starting o hk
    obtain ⟨m', hm', hmwaits'⟩ := exists_starting o hi
    have heq : m = m' := by
      refine List.inj_on_of_nodup_map hapart ?_ ?_ (hmwaits.trans hmwaits'.symm)
      · exact List.mem_filter.2 ⟨List.mem_finRange m, decide_eq_true (hm.symm ▸ hk)⟩
      · exact List.mem_filter.2 ⟨List.mem_finRange m', decide_eq_true (hm'.symm ▸ hi)⟩
    rw [← hm, ← hm', heq]
  · rintro ⟨k, hk, hunique⟩
    have hocc : (List.finRange es.length).filter
        (fun i => scenarioOf es (es.get i).requestKey = some name) =
        occurrences Exchange.requestKey es k := by
      refine List.filter_congr fun i _ => decide_eq_decide.2 ⟨hunique _, fun hi => ?_⟩
      rw [hi, hk]
    rw [hocc] at hperm
    exact (linearChain_occurrences o hk).perm hperm.symm

/-- **In a snapshot with scenarios** the stubs of each repeated request form a single linear chain,
and the stubs of a scenario form one if, and only if, exactly one request has this scenario. -/
theorem scenarios_linear_iff_unique (ho : o.repeatsAsScenarios = true) (es : List Exchange) :
    (∀ k name, scenarioOf es k = some name →
      LinearChain ((occurrences Exchange.requestKey es k).map (scenarioStub o es))) ∧
    ∀ name, LinearChain ((snapshot o es).filter (·.scenarioName = some name)) ↔
      ∃! k, scenarioOf es k = some name :=
  ⟨fun _ _ hk => linearChain_occurrences o hk, linearChain_filter_iff ho es⟩

/-- The two stubs of a request that was made twice form a chain. -/
theorem scenario_of_poll_linear :
    SnapshotOptions.chaining.repeatsAsScenarios = true ∧
    LinearChain ((snapshot .chaining polls).filter (·.scenarioName = some "poll")) := by
  refine ⟨rfl, ((scenarios_linear_iff_unique (o := .chaining) rfl _).2 "poll").2
    ⟨"GET /poll", by decide, fun k hk => ?_⟩⟩
  obtain ⟨i, rfl, -⟩ := exists_starting .chaining hk
  revert i
  decide

/-- Two requests that differ in their queries only, each made twice. -/
def searches : List Exchange :=
  [.answered "/a?x=1" [0x31], .answered "/a?x=1" [0x32], .answered "/a?x=2" [0x33],
    .answered "/a?x=2" [0x34]]

/-- Such requests get the same scenario, whose stubs form no chain. -/
theorem not_forall_scenarios_linear :
    ¬ ∀ (o : SnapshotOptions) (es : List Exchange) (name : String), o.repeatsAsScenarios = true →
      (∃ s ∈ snapshot o es, s.scenarioName = some name) →
        LinearChain ((snapshot o es).filter (·.scenarioName = some name)) := by
  intro h
  have hfirst : scenarioOf searches "GET /a?x=1" = some "a" := by decide
  have hsecond : scenarioOf searches "GET /a?x=2" = some "a" := by decide
  have hstub : ∃ s ∈ snapshot .chaining searches, s.scenarioName = some "a" := by
    obtain ⟨i, hi, -⟩ := exists_starting .chaining hfirst
    refine ⟨scenarioStub .chaining searches i, ?_, ?_⟩
    · rw [snapshot_eq_map rfl]
      exact List.mem_map_of_mem ((scenarioOrder_perm _ _).mem_iff.2 (List.mem_finRange i))
    · rw [scenarioName_scenarioStub, hi, hfirst]
  obtain ⟨k, -, hunique⟩ := (linearChain_filter_iff rfl searches "a").1 (h _ _ _ rfl hstub)
  have heq := (hunique _ hfirst).trans (hunique _ hsecond).symm
  exact absurd heq (by decide)

end HttpStub
