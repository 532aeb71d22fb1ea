import HttpStub.Proofs.Exchange.Order
import HttpStub.Proofs.Exchange.Pattern
import HttpStub.Proofs.Groups

set_option autoImplicit false

/-!
# The stubs of a snapshot

Without scenarios, a snapshot holds one stub for each key, that of the latest exchange. As it is
sorted by name and key, it does not depend on the order in which exchanges with different keys were
recorded.

## Main results

* `HttpStub.mem_deduplicated_iff` — the stubs are those of the last exchanges with their keys.
* `HttpStub.exists_mem_deduplicated` — each exchange has a stub of its key.
* `HttpStub.mem_snapshot_iff` — the order of a snapshot changes none of them.
* `HttpStub.filter_snapshot_key` — the stub of a key is that of the last exchange with this key.
* `HttpStub.increasing_snapshot` — the stubs are at increasing places.
* `HttpStub.snapshot_latest_by_key` — both, and that the order of exchanges with different keys does
  not count.
-/

namespace HttpStub

variable {o : SnapshotOptions} {es : List Exchange} {s : Stub}

/-- One stub for each key, as entries that are put one by one. -/
lemma deduplicated_eq_putAll (o : SnapshotOptions) (es : List Exchange) :
    deduplicated o es =
      (putAll (fun e => (e.toStub o).key) (fun e => e.toStub o) es).map Prod.snd := by
  rfl

/-- **The stubs are those of the last exchanges** with their keys. -/
lemma mem_deduplicated_iff :
    s ∈ deduplicated o es ↔
      ∃ l e r, es = l ++ e :: r ∧ s = e.toStub o ∧
        ∀ e' ∈ r, (e'.toStub o).key ≠ (e.toStub o).key := by
  rw [deduplicated_eq_putAll, List.mem_map]
  constructor
  · rintro ⟨entry, hentry, rfl⟩
    obtain ⟨l, e, r, hes, rfl, hlast⟩ := (mem_putAll_iff _ _).1 hentry
    exact ⟨l, e, r, hes, rfl, hlast⟩
  · rintro ⟨l, e, r, hes, rfl, hlast⟩
    exact ⟨_, (mem_putAll_iff _ _).2 ⟨l, e, r, hes, rfl, hlast⟩, rfl⟩

/-- Each exchange has a stub of its key, which was made from an exchange. -/
lemma exists_mem_deduplicated {e : Exchange} (he : e ∈ es) :
    ∃ e' ∈ es, (e'.toStub o).key = (e.toStub o).key ∧ e'.toStub o ∈ deduplicated o es := by
  obtain ⟨e', he', hkey, hmem⟩ :=
    exists_mem_putAll (fun e => (e.toStub o).key) (fun e => e.toStub o) he
  rw [deduplicated_eq_putAll]
  exact ⟨e', he', hkey, List.mem_map_of_mem hmem⟩

/-- Without scenarios, a snapshot holds one stub for each key in another order. -/
lemma snapshot_perm (ho : o.repeatsAsScenarios = false) (es : List Exchange) :
    (snapshot o es).Perm (deduplicated o es) := by
  rw [snapshot, ho]
  exact List.mergeSort_perm _ _

/-- The order of a snapshot changes none of its stubs. -/
lemma mem_snapshot_iff (h : o.repeatsAsScenarios = false) :
    s ∈ snapshot o es ↔ s ∈ deduplicated o es :=
  (snapshot_perm h es).mem_iff

/-! ## One stub for each key -/

/-- The key of an entry is the key of its stub. -/
lemma key_of_mem_putAll {entry : String × Stub}
    (h : entry ∈ putAll (fun e => (e.toStub o).key) (fun e => e.toStub o) es) :
    entry.2.key = entry.1 := by
  obtain ⟨l, e, r, -, rfl, -⟩ := (mem_putAll_iff _ _).1 h
  rfl

/-- No two stubs have the same key. -/
lemma nodup_keys_deduplicated (o : SnapshotOptions) (es : List Exchange) :
    ((deduplicated o es).map Stub.key).Nodup := by
  have hkeys : (deduplicated o es).map Stub.key =
      (putAll (fun e => (e.toStub o).key) (fun e => e.toStub o) es).map Prod.fst := by
    rw [deduplicated_eq_putAll, List.map_map]
    exact List.map_congr_left fun _ hentry => key_of_mem_putAll hentry
  rw [hkeys]
  exact nodup_keys_putAll _ _ es

/-- The stub of a key is that of the last exchange with this key. -/
lemma filter_deduplicated_key (o : SnapshotOptions) (es : List Exchange) (k : String) :
    (deduplicated o es).filter (·.key = k) =
      ((es.filter fun e => (e.toStub o).key = k).getLast?.map fun e => e.toStub o).toList := by
  have hkey : ∀ entry ∈ putAll (fun e => (e.toStub o).key) (fun e => e.toStub o) es,
      decide (entry.2.key = k) = decide (entry.1 = k) := by
    intro entry hentry
    rw [key_of_mem_putAll hentry]
  rw [deduplicated_eq_putAll, List.filter_map]
  simp only [Function.comp_def]
  rw [List.filter_congr hkey, filter_putAll]
  cases (es.filter fun e => (e.toStub o).key = k).getLast? <;> rfl

/-- **The stub of a key** is that of the last exchange that has it, if there is one. -/
lemma filter_snapshot_key (ho : o.repeatsAsScenarios = false) (es : List Exchange) (k : String) :
    (snapshot o es).filter (·.key = k) =
      ((es.filter fun e => (e.toStub o).key = k).getLast?.map fun e => e.toStub o).toList := by
  have hperm := (snapshot_perm ho es).filter (·.key = k)
  rw [filter_deduplicated_key] at hperm
  -- there is at most one such stub, so sorting does not move it
  cases hlast : (es.filter fun e => (e.toStub o).key = k).getLast? with
  | none =>
    rw [hlast] at hperm
    exact hperm.eq_nil
  | some e =>
    rw [hlast] at hperm
    exact List.perm_singleton.1 hperm

/-- **The stubs are at increasing places**: they are sorted, and no two of them have the same
key. -/
lemma increasing_snapshot (ho : o.repeatsAsScenarios = false) (es : List Exchange) :
    (snapshot o es).Pairwise fun a b => a.place < b.place := by
  have hnodup : ((snapshot o es).map Stub.key).Nodup :=
    ((snapshot_perm ho es).map Stub.key).nodup_iff.2 (nodup_keys_deduplicated o es)
  have hsorted : (snapshot o es).Pairwise fun a b => a.place ≤ b.place :=
    pairwise_mergeSort_before _
  refine (hsorted.and (List.pairwise_map.1 hnodup)).imp fun {a b} h => ?_
  exact lt_of_le_of_ne h.1 fun hplace => h.2 (congrArg (fun p => (ofLex p).2) hplace)

/-- **A snapshot without scenarios** has exactly one stub for each key, made from the last exchange
with this key. Its stubs have no part in a scenario and are at strictly increasing places, and they
are the same for every reordering of the exchanges that keeps the order of exchanges with the same
key. -/
theorem snapshot_latest_by_key (ho : o.repeatsAsScenarios = false) (es : List Exchange) :
    (∀ k, (snapshot o es).filter (·.key = k) =
      ((es.filter fun e => (e.toStub o).key = k).getLast?.map fun e => e.toStub o).toList) ∧
    (∀ s ∈ snapshot o es, s.scenarioName = none ∧ s.requiredScenarioState = none ∧
      s.newScenarioState = none) ∧
    (snapshot o es).Pairwise (fun a b => a.place < b.place) ∧
    ∀ es', Reordered (fun e => (e.toStub o).key) es es' → snapshot o es' = snapshot o es := by
  refine ⟨filter_snapshot_key ho es, fun s hs => ?_, increasing_snapshot ho es, fun es' h => ?_⟩
  · obtain ⟨l, e, r, -, rfl, -⟩ := mem_deduplicated_iff.1 ((mem_snapshot_iff ho).1 hs)
    exact ⟨rfl, rfl, rfl⟩
  · have hkey : ∀ es s, s ∈ snapshot o es ↔ s ∈ (snapshot o es).filter (·.key = s.key) := by
      intro es s
      rw [List.mem_filter, decide_eq_true rfl, and_iff_left rfl]
    refine eq_of_increasing (increasing_snapshot ho es') (increasing_snapshot ho es) fun s => ?_
    rw [hkey es', hkey es, filter_snapshot_key ho, filter_snapshot_key ho, h.filter_eq]

/-- A request for a target that was answered with some octets. -/
def Exchange.answered (target : String) (body : Bytes) : Exchange :=
  ⟨"GET", target, [], 200, [], body⟩

/-- Of two answers to a request the later one is kept, wherever another request was made in
between. -/
theorem snapshot_latest_of_repeated :
    SnapshotOptions.off.repeatsAsScenarios = false ∧
    (snapshot .off [.answered "/a" [0x31], .answered "/b" [], .answered "/a" [0x32]]).filter
        (·.key = "GET /a") = [(Exchange.answered "/a" [0x32]).toStub .off] ∧
    snapshot .off [.answered "/b" [], .answered "/a" [0x31], .answered "/a" [0x32]] =
      snapshot .off [.answered "/a" [0x31], .answered "/b" [], .answered "/a" [0x32]] := by
  obtain ⟨hkey, -, -, horder⟩ := snapshot_latest_by_key (o := .off) rfl
    [.answered "/a" [0x31], .answered "/b" [], .answered "/a" [0x32]]
  refine ⟨rfl, ?_, horder _ (.swap ?_ [] [Exchange.answered "/a" [0x32]])⟩
  · rw [hkey]
    rfl
  · decide

end HttpStub
