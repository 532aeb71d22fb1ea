import HttpStub.Proofs.Exchange.Chain
import HttpStub.Proofs.Exchange.Snapshot
import HttpStub.Proofs.Occurrences
import HttpStub.Proofs.Text.Split

set_option autoImplicit false

/-!
# Snapshots with scenarios

With scenarios, a snapshot has one stub for each exchange. The stubs of a request that was recorded
more than once form a chain, in the order of the recording. Requests are told apart by their keys,
which are as good as method and target if methods have no space.

## Main definitions

* `HttpStub.Exchange.line` — the method and the target of a request.
* `HttpStub.scenarioOf` — the scenario of a request.
* `HttpStub.scenarioStub` — the stub that an exchange of a recording is to have.
* `HttpStub.scenarioOrder` — the order of the exchanges in a snapshot.
* `HttpStub.Chained` — how stubs have a part in scenarios.

## Main results

* `HttpStub.scenarios_eq_map` — each exchange of a recording has its stub.
* `HttpStub.snapshot_eq_map` — so it is in a snapshot, whose order is known.
* `HttpStub.pairwise_scenarioOrder` — exchanges whose stubs are sorted alike keep their order.
* `HttpStub.snapshot_chains_repetitions` — all of it: no exchange is lost, and the stubs of a
  request are chained as they were recorded.
-/

namespace HttpStub

variable (o : SnapshotOptions) (es : List Exchange)

/-! ## The stubs of a recording -/

/-- The method and the target of the request. -/
def Exchange.line (e : Exchange) : String × String :=
  (e.method, e.target)

/-- The name of the scenario of the request with this key: that of the target of its first
occurrence, if it has more than one. -/
def scenarioOf (k : String) : Option String :=
  match occurrences Exchange.requestKey es k with
  | i :: _ :: _ => some (targetName (es.get i).target)
  | _ => none

/-- The stub that the exchange at a position is to have: its own one as a repetition of its request,
with the number that it has among all of them, or just its own one if there are no others. -/
def scenarioStub (i : Fin es.length) : Stub :=
  match scenarioOf es (es.get i).requestKey with
  | some name =>
    chainStub o name (occurrences Exchange.requestKey es (es.get i).requestKey).length
      (rank Exchange.requestKey es i) (es.get i)
  | none => (es.get i).toStub o

/-- The stub is that of the exchange but for its part in a scenario. -/
lemma exists_scenarioStub_eq (i : Fin es.length) :
    ∃ name required next, scenarioStub o es i =
      { (es.get i).toStub o with
        scenarioName := name, requiredScenarioState := required, newScenarioState := next } := by
  unfold scenarioStub
  split
  · exact ⟨_, _, _, rfl⟩
  · exact ⟨none, none, none, rfl⟩

/-- A stub belongs to the scenario of its request. -/
lemma scenarioName_scenarioStub (i : Fin es.length) :
    (scenarioStub o es i).scenarioName = scenarioOf es (es.get i).requestKey := by
  unfold scenarioStub
  split
  · next h => exact h.symm
  · next h => exact h.symm

/-- The repetitions of a request that has a scenario get the stubs of a chain. -/
lemma map_scenarioStub_of_scenarioOf {k name : String} (h : scenarioOf es k = some name) :
    (occurrences Exchange.requestKey es k).map (scenarioStub o es) =
      chain o name 0 ((occurrences Exchange.requestKey es k).map fun i => es.get i) := by
  rw [chain_eq_map, List.length_map, List.zipIdx_map, List.map_map, Nat.zero_add]
  conv_lhs => rw [← List.zipIdx_map_fst 0 (occurrences Exchange.requestKey es k), List.map_map]
  refine List.map_congr_left ?_
  rintro ⟨i, j⟩ hi
  have hkey : (es.get i).requestKey = k := mem_occurrences_iff.1 (List.fst_mem_of_mem_zipIdx hi)
  simp only [Function.comp_apply, scenarioStub, hkey, h, rank_of_mem_zipIdx hi]
  rfl

/-- **The stubs of a repeated request** wait for the states of a chain. -/
lemma stateChain_occurrences {k name : String} (h : scenarioOf es k = some name) :
    StateChain ((occurrences Exchange.requestKey es k).map (scenarioStub o es)) := by
  rw [map_scenarioStub_of_scenarioOf o es h]
  exact stateChain_chain o name _

/-- The stubs of the exchanges of a request are those that they are to have. -/
lemma groupStubs_occurrences (k : String) :
    groupStubs o ((occurrences Exchange.requestKey es k).map fun i => es.get i) =
      (occurrences Exchange.requestKey es k).map (scenarioStub o es) := by
  rcases hocc : occurrences Exchange.requestKey es k with _ | ⟨i, _ | ⟨j, is⟩⟩
  · rfl
  · have hkey : (es.get i).requestKey = k :=
      mem_occurrences_iff.1 (hocc ▸ List.mem_singleton_self i)
    have hnone : scenarioOf es (es.get i).requestKey = none := by
      rw [hkey, scenarioOf, hocc]
    simp only [List.map_cons, List.map_nil, groupStubs, scenarioStub, hnone]
  · have hname : scenarioOf es k = some (targetName (es.get i).target) := by
      rw [scenarioOf, hocc]
    rw [← hocc, map_scenarioStub_of_scenarioOf o es hname, hocc]
    rfl

/-- **Each exchange of a recording has its stub**, those of a request together. -/
lemma scenarios_eq_map :
    scenarios o es = (groupedPositions Exchange.requestKey es).map (scenarioStub o es) := by
  rw [scenarios, groupBy_eq_map_positions, List.flatMap_map, groupedPositions, List.map_flatMap]
  refine List.flatMap_congr ?_
  rintro ⟨k, is⟩ hg
  obtain ⟨-, rfl⟩ := mem_groupBy_positions_iff.1 hg
  exact groupStubs_occurrences o es k

/-! ## The order of a snapshot -/

/-- The positions of the exchanges of a recording in the order of their stubs in a snapshot. -/
def scenarioOrder : List (Fin es.length) :=
  (groupedPositions Exchange.requestKey es).mergeSort fun i j =>
    (scenarioStub o es i).before (scenarioStub o es j)

/-- Each exchange of a recording is at one place of the snapshot. -/
lemma scenarioOrder_perm : (scenarioOrder o es).Perm (List.finRange es.length) :=
  (List.mergeSort_perm _ _).trans (groupedPositions_perm _ es)

variable {o es}

/-- **A snapshot with scenarios** has the stub of each exchange. -/
lemma snapshot_eq_map (ho : o.repeatsAsScenarios = true) :
    snapshot o es = (scenarioOrder o es).map (scenarioStub o es) := by
  rw [snapshot, ho, if_pos rfl, scenarios_eq_map, scenarioOrder]
  exact (List.map_mergeSort (f := scenarioStub o es) fun _ _ _ _ => rfl).symm

variable (o es)

/-- **Exchanges whose stubs are at the same place** are in the order of the recording if their
requests are the same, and in the order in which the requests arrived if not. -/
lemma pairwise_scenarioOrder :
    (scenarioOrder o es).Pairwise fun i j =>
      (scenarioStub o es i).place = (scenarioStub o es j).place →
        (es.get i).requestKey = (es.get j).requestKey ∧ i < j ∨
          ∃ m : Fin es.length, (es.get m).requestKey = (es.get i).requestKey ∧
            ∀ m' : Fin es.length, (es.get m').requestKey = (es.get j).requestKey → m < m' := by
  refine (pairwise_mergeSort_of_tie ?_ ?_
    (pairwise_groupedPositions Exchange.requestKey es)).imp fun htie hplace => htie ?_
  · exact fun _ _ _ => Stub.before_trans _ _ _
  · exact fun _ _ => Stub.before_total _ _
  · exact Stub.before_iff.2 hplace.ge

/-! ## Repetitions of a request -/

/-- How the stubs of a recording have a part in scenarios, with one stub for each position. A
request that was made once has no scenario. Each occurrence of another one waits for the state of
its number and sets the next one, unless it is the last; so following the states passes all
occurrences in their order, and then stops. -/
structure Chained (o : SnapshotOptions) (es : List Exchange) (stub : Fin es.length → Stub) :
    Prop where
  own : ∀ i,
    { stub i with
      scenarioName := none, requiredScenarioState := none, newScenarioState := none } =
      (es.get i).toStub o
  single : ∀ l i, occurrences Exchange.line es l = [i] →
    (stub i).scenarioName = none ∧ (stub i).requiredScenarioState = none ∧
      (stub i).newScenarioState = none
  repeated : ∀ l, 2 ≤ (occurrences Exchange.line es l).length →
    ∀ i j, (occurrences Exchange.line es l)[j]? = some i →
      (stub i).scenarioName = some (targetName l.2) ∧
        (stub i).requiredScenarioState = some (stateName j) ∧
        (stub i).newScenarioState =
          if j + 1 < (occurrences Exchange.line es l).length then some (stateName (j + 1)) else none
  walk : ∀ l, 2 ≤ (occurrences Exchange.line es l).length →
    ∀ run, Walk ((occurrences Exchange.line es l).map stub) (some "Started") run ↔
      run = (occurrences Exchange.line es l).map stub

/-- A request can be told from its key if methods have no space. -/
lemma Exchange.requestKey_eq_iff {e e' : Exchange} (he : ' ' ∉ e.method.toList)
    (he' : ' ' ∉ e'.method.toList) : e.requestKey = e'.requestKey ↔ e.line = e'.line := by
  constructor
  · intro h
    have hchars : e.method.toList ++ (' ' :: e.target.toList) =
        e'.method.toList ++ (' ' :: e'.target.toList) := by
      simpa [requestKey] using congrArg String.toList h
    obtain ⟨hmethod, htarget⟩ := append_inj_of_not_mem he he' (by simp) (by simp) hchars
    exact Prod.ext (String.toList_inj.1 hmethod) (String.toList_inj.1 (List.cons.inj htarget).2)
  · intro h
    obtain ⟨hmethod, htarget⟩ := Prod.mk.inj h
    rw [requestKey, requestKey, hmethod, htarget]

variable {o es} {i : Fin es.length} {l : String × String}

/-- Where methods have no space, the requests with a key are those with a first line. -/
lemma occurrences_requestKey (hes : ∀ e ∈ es, ' ' ∉ e.method.toList)
    (hi : i ∈ occurrences Exchange.line es l) :
    occurrences Exchange.requestKey es (es.get i).requestKey = occurrences Exchange.line es l := by
  obtain rfl := mem_occurrences_iff.1 hi
  refine List.filter_congr fun m _ => decide_eq_decide.2 ?_
  exact Exchange.requestKey_eq_iff (hes _ (List.getElem_mem _)) (hes _ (List.getElem_mem _))

/-- The scenario of a repeated request is named for its target. -/
lemma scenarioOf_of_repeated (hes : ∀ e ∈ es, ' ' ∉ e.method.toList)
    (hl : 2 ≤ (occurrences Exchange.line es l).length)
    (hi : i ∈ occurrences Exchange.line es l) :
    scenarioOf es (es.get i).requestKey = some (targetName l.2) := by
  rw [scenarioOf, occurrences_requestKey hes hi]
  rcases hocc : occurrences Exchange.line es l with _ | ⟨m, _ | ⟨m', ms⟩⟩
  · rw [hocc] at hi
    exact absurd hi List.not_mem_nil
  · rw [hocc] at hl
    exact absurd hl (by simp)
  · have hmem : m ∈ occurrences Exchange.line es l := by
      rw [hocc]
      exact List.mem_cons_self
    have hm : (es.get m).line = l := mem_occurrences_iff.1 hmem
    rw [← hm]
    rfl

/-- **The stubs of a recording are chained**, if methods have no space. -/
lemma chained_scenarioStub (o : SnapshotOptions) (hes : ∀ e ∈ es, ' ' ∉ e.method.toList) :
    Chained o es (scenarioStub o es) where
  own i := by
    obtain ⟨name, required, next, hstub⟩ := exists_scenarioStub_eq o es i
    rw [hstub]
    rfl
  single l i hl := by
    have hi : i ∈ occurrences Exchange.line es l := hl ▸ List.mem_singleton_self i
    have hnone : scenarioOf es (es.get i).requestKey = none := by
      rw [scenarioOf, occurrences_requestKey hes hi, hl]
    rw [scenarioStub, hnone]
    exact ⟨rfl, rfl, rfl⟩
  repeated l hl i j hij := by
    have hi : i ∈ occurrences Exchange.line es l := List.mem_of_getElem? hij
    have hrank : rank Exchange.requestKey es i = j := by
      refine rank_of_mem_zipIdx (k := (es.get i).requestKey) (List.mk_mem_zipIdx_iff_getElem?.2 ?_)
      rwa [occurrences_requestKey hes hi]
    rw [scenarioStub, scenarioOf_of_repeated hes hl hi, hrank, occurrences_requestKey hes hi]
    exact ⟨rfl, rfl, rfl⟩
  walk l hl run := by
    have hpos : 0 < (occurrences Exchange.line es l).length := by omega
    obtain ⟨i, hi⟩ := List.exists_mem_of_length_pos hpos
    have hchain := stateChain_occurrences o es (scenarioOf_of_repeated hes hl hi)
    rw [occurrences_requestKey hes hi] at hchain
    exact hchain.walk_iff (by rwa [List.length_map])

/-- The stub of an exchange is sorted by the name of the target and the key of its own stub. -/
lemma place_scenarioStub (o : SnapshotOptions) (i : Fin es.length) :
    (scenarioStub o es i).place =
      toLex (targetName (es.get i).target, (scenarioStub o es i).key) := by
  obtain ⟨name, required, next, hstub⟩ := exists_scenarioStub_eq o es i
  rw [hstub]
  rfl

/-- **A snapshot with scenarios** has one stub for each exchange, and its repetitions are chained,
if methods have no space. Its stubs are sorted by name and key. Those with the same name and the
same key are in the order in which their requests arrived first, and those of one request that have
the same key in the order of the recording. -/
theorem snapshot_chains_repetitions (ho : o.repeatsAsScenarios = true)
    (hes : ∀ e ∈ es, ' ' ∉ e.method.toList) :
    ∃ (stub : Fin es.length → Stub) (order : List (Fin es.length)),
      Chained o es stub ∧ order.Perm (List.finRange es.length) ∧
      snapshot o es = order.map stub ∧
      (snapshot o es).Pairwise (fun a b => a.place ≤ b.place) ∧
      order.Pairwise (fun i j => (stub i).place = (stub j).place →
        (es.get i).line = (es.get j).line ∧ i < j ∨
          ∃ m : Fin es.length, (es.get m).line = (es.get i).line ∧
            ∀ m' : Fin es.length, (es.get m').line = (es.get j).line → m < m') ∧
      order.Pairwise fun i j =>
        (es.get i).line = (es.get j).line → (stub i).key = (stub j).key → i < j := by
  have hline : ∀ i j : Fin es.length,
      (es.get i).requestKey = (es.get j).requestKey ↔ (es.get i).line = (es.get j).line :=
    fun i j => Exchange.requestKey_eq_iff (hes _ (List.getElem_mem _)) (hes _ (List.getElem_mem _))
  have hties := pairwise_scenarioOrder o es
  simp only [hline] at hties
  refine ⟨scenarioStub o es, scenarioOrder o es, chained_scenarioStub o hes, scenarioOrder_perm o es,
    snapshot_eq_map ho, pairwise_mergeSort_before _, hties, hties.imp fun {i j} htie hij hkey => ?_⟩
  have hplace : (scenarioStub o es i).place = (scenarioStub o es j).place := by
    rw [place_scenarioStub, place_scenarioStub, hkey, (Prod.mk.inj hij).2]
  rcases htie hplace with ⟨-, hlt⟩ | ⟨m, hm, hbefore⟩
  · exact hlt
  · exact absurd (hbefore m (hm.trans hij)) (lt_irrefl m)

/-- The options under which repetitions are chained. -/
def SnapshotOptions.chaining : SnapshotOptions :=
  { SnapshotOptions.off with repeatsAsScenarios := true }

/-- A request that was made twice, with another one in between. -/
def polls : List Exchange :=
  [.answered "/poll" [0x31], .answered "/a" [], .answered "/poll" [0x32]]

/-- Of two answers to a request the first one leads to the second one, which is the last. -/
theorem snapshot_chains_poll :
    SnapshotOptions.chaining.repeatsAsScenarios = true ∧
    (∀ e ∈ polls, ' ' ∉ e.method.toList) ∧
    ∃ (stub : Fin 3 → Stub) (order : List (Fin 3)), order.Perm (List.finRange 3) ∧
      snapshot .chaining polls = order.map stub ∧
      (stub 0).requiredScenarioState = some "Started" ∧
      (stub 0).newScenarioState = some "state_1" ∧ (stub 1).scenarioName = none ∧
      (stub 2).requiredScenarioState = some "state_1" ∧ (stub 2).newScenarioState = none := by
  have hmethods : ∀ e ∈ polls, ' ' ∉ e.method.toList := by
    simp [polls, Exchange.answered]
  obtain ⟨stub, order, hchained, hperm, hsnapshot, -⟩ :=
    snapshot_chains_repetitions (o := .chaining) rfl hmethods
  have hpoll := hchained.repeated ("GET", "/poll") (by decide)
  obtain ⟨-, hwaits, hsets⟩ := hpoll ⟨0, by decide⟩ 0 (by decide)
  obtain ⟨-, hwaits', hsets'⟩ := hpoll ⟨2, by decide⟩ 1 (by decide)
  obtain ⟨hsingle, -⟩ := hchained.single ("GET", "/a") ⟨1, by decide⟩ (by decide)
  exact ⟨rfl, hmethods, stub, order, hperm, hsnapshot, hwaits, hsets, hsingle, hwaits', hsets'⟩

end HttpStub
