import HttpStub.Proofs.Exchange.Scenario
import Mathlib.Data.List.Flatten

set_option autoImplicit false

/-!
# Recordings that interleave

Requests that are made at the same time are recorded in no certain order. With scenarios, a snapshot
has the stubs of each request in the order of the recording; which request comes first shows only
where stubs of different requests have the same name and the same key. Such requests differ in the
spelling of their targets, as by the order of their parameters. So a snapshot does not depend on how
requests interleave if, and only if, requests that meet at a place have the same stubs there.

## Main definitions

* `HttpStub.arrivals` — the keys of the requests of a recording in the order of their arrival.
* `HttpStub.placedStubs` — the stubs of one request that are at a place.
* `HttpStub.PlacesAgree` — requests that have stubs at the same place have the same ones there.

## Main results

* `HttpStub.flatMap_eq_of_perm` — parts that commute can be put together in any order.
* `HttpStub.filter_snapshot_place` — the stubs of a snapshot at a place, request by request.
* `HttpStub.snapshot_eq_of_reordered`, `HttpStub.placesAgree_of_forall` — which recordings have one
  snapshot only.
* `HttpStub.snapshot_reordered_iff` — the same with methods and targets in place of keys.
-/

namespace HttpStub

/-! ## Parts that commute -/

section Commute

variable {α β : Type}

/-- **Parts that commute** can be put together in any order. -/
lemma flatMap_eq_of_perm {f : α → List β} {xs ys : List α} (h : xs.Perm ys)
    (hf : ∀ a ∈ xs, ∀ b ∈ xs, f a ++ f b = f b ++ f a) : xs.flatMap f = ys.flatMap f := by
  induction h with
  | nil => rfl
  | cons a _ ih =>
    rw [List.flatMap_cons, List.flatMap_cons,
      ih fun b hb c hc => hf b (List.mem_cons_of_mem _ hb) c (List.mem_cons_of_mem _ hc)]
  | swap a b xs =>
    simp only [List.flatMap_cons, ← List.append_assoc]
    rw [hf b (by simp) a (by simp)]
  | trans hperm _ ih ih' =>
    rw [ih hf, ih' fun a ha b hb => hf a (hperm.mem_iff.2 ha) b (hperm.mem_iff.2 hb)]

/-- A list without repetitions can only be continued by nothing if it commutes with what follows. -/
lemma eq_nil_of_append_comm {u w : List α} (h : u ++ w = w ++ u) (hnd : (u ++ w).Nodup)
    (hu : u ≠ []) : w = [] := by
  obtain ⟨a, u, rfl⟩ := List.exists_cons_of_ne_nil hu
  cases w with
  | nil => rfl
  | cons b w =>
    obtain ⟨rfl, -⟩ := List.cons.inj h
    exact absurd (List.mem_append_right u List.mem_cons_self) (List.nodup_cons.1 hnd).1

/-- **Lists without repetitions commute** only if they are equal or one of them is empty. -/
lemma append_comm_iff_of_nodup {u v : List α} (hu : u.Nodup) (hv : v.Nodup) :
    u ++ v = v ++ u ↔ (u ≠ [] → v ≠ [] → u = v) := by
  constructor
  · intro h hune hvne
    rcases List.append_eq_append_iff.1 h with ⟨w, hvw, hwv⟩ | ⟨w, huw, hwu⟩
    · rw [hvw, eq_nil_of_append_comm (hvw.symm.trans hwv) (hvw ▸ hv) hune, List.append_nil]
    · rw [huw, eq_nil_of_append_comm (huw.symm.trans hwu) (huw ▸ hu) hvne, List.append_nil]
  · intro h
    by_cases hune : u = []
    · simp [hune]
    · by_cases hvne : v = []
      · simp [hvne]
      · rw [h hune hvne]

end Commute

/-! ## The requests of a recording -/

/-- The keys of the requests in the order in which they arrive. -/
def arrivals (es : List Exchange) : List String :=
  (es.map Exchange.requestKey).eraseDups

section Arrivals

variable {es es' : List Exchange} {k : String}

/-- The requests that arrive are those that are recorded. -/
lemma mem_arrivals_iff : k ∈ arrivals es ↔ ∃ e ∈ es, e.requestKey = k := by
  rw [arrivals, List.mem_eraseDups, List.mem_map]

/-- Requests arrive in the order in which their groups are formed. -/
lemma arrivals_eq_keys (es : List Exchange) :
    arrivals es = (groupBy (· == ·) (es.map fun e => (e.requestKey, e))).map Prod.fst := by
  rw [keys_groupBy, List.map_map]
  rfl

/-- Each request arrives once. -/
lemma nodup_arrivals (es : List Exchange) : (arrivals es).Nodup := by
  rw [arrivals_eq_keys]
  exact nodup_keys_groupBy _

/-- In another order the same requests arrive. -/
lemma arrivals_perm (h : es.Perm es') : (arrivals es).Perm (arrivals es') := by
  refine (List.perm_ext_iff_of_nodup (nodup_arrivals es) (nodup_arrivals es')).2 fun k => ?_
  simp only [mem_arrivals_iff, h.mem_iff]

/-- A request whose exchanges are moved to the front arrives first. -/
lemma arrivals_withKeyFirst (hk : k ∈ arrivals es) :
    arrivals (withKeyFirst Exchange.requestKey k es) =
      k :: arrivals (es.filter (·.requestKey ≠ k)) := by
  obtain ⟨e, he, hek⟩ := mem_arrivals_iff.1 hk
  have hne : es.filter (·.requestKey = k) ≠ [] :=
    List.ne_nil_of_mem (List.mem_filter.2 ⟨he, decide_eq_true hek⟩)
  obtain ⟨a, u, hu⟩ := List.exists_cons_of_ne_nil hne
  have hall : ∀ b ∈ a :: u, b.requestKey = k := by
    rw [← hu]
    exact fun b hb => of_decide_eq_true (List.mem_filter.1 hb).2
  obtain ⟨rfl, htail⟩ := List.forall_mem_cons.1 hall
  have hdrop : (u.map Exchange.requestKey).filter (fun j => !j == a.requestKey) = [] := by
    rw [List.filter_eq_nil_iff]
    intro j hj
    obtain ⟨b, hb, rfl⟩ := List.mem_map.1 hj
    simp [htail b hb]
  have hkeep : ((es.filter (·.requestKey ≠ a.requestKey)).map Exchange.requestKey).filter
      (fun j => !j == a.requestKey) =
        (es.filter (·.requestKey ≠ a.requestKey)).map Exchange.requestKey := by
    rw [List.filter_eq_self]
    intro j hj
    obtain ⟨b, hb, rfl⟩ := List.mem_map.1 hj
    simpa using (List.mem_filter.1 hb).2
  rw [withKeyFirst, hu, arrivals, List.map_append, List.map_cons, List.cons_append,
    List.eraseDups_cons, List.filter_append, hdrop, hkeep, List.nil_append, arrivals]

end Arrivals

/-! ## The stubs of a request -/

/-- The stubs of the exchanges of one request that are at a place. -/
def placedStubs (o : SnapshotOptions) (es : List Exchange) (p : String ×ₗ String) : List Stub :=
  (groupStubs o es).filter (·.place = p)

section Stubs

variable {o : SnapshotOptions} {es : List Exchange} {k : String} {p : String ×ₗ String} {s : Stub}

/-- The stubs of one request are different: they wait for different states. -/
lemma nodup_groupStubs (o : SnapshotOptions) (es : List Exchange) : (groupStubs o es).Nodup := by
  rcases es with _ | ⟨e, _ | ⟨e', es⟩⟩
  · exact List.nodup_nil
  · exact List.nodup_singleton _
  · exact (stateChain_chain o _ (e :: e' :: es)).nodup_requiredScenarioState.of_map

/-- So are those of them that are at one place. -/
lemma nodup_placedStubs (o : SnapshotOptions) (es : List Exchange) (p : String ×ₗ String) :
    (placedStubs o es p).Nodup :=
  (nodup_groupStubs o es).filter _

/-- A stub of a request is at the place of the own stub of one of its exchanges. -/
lemma exists_place_of_mem_groupStubs (hs : s ∈ groupStubs o es) :
    ∃ e ∈ es, s.place = (e.toStub o).place := by
  rcases es with _ | ⟨e, _ | ⟨e', es⟩⟩
  · exact absurd hs List.not_mem_nil
  · exact ⟨e, List.mem_singleton_self e, congrArg Stub.place (List.mem_singleton.1 hs)⟩
  · have hs : s ∈ chain o (targetName e.target) 0 (e :: e' :: es) := hs
    rw [chain_eq_map] at hs
    obtain ⟨⟨a, j⟩, ha, rfl⟩ := List.mem_map.1 hs
    exact ⟨a, List.fst_mem_of_mem_zipIdx ha, rfl⟩

/-- A place where a request has stubs is the place of the own stub of one of its exchanges. -/
lemma exists_place_of_placedStubs_ne (h : placedStubs o es p ≠ []) :
    ∃ e ∈ es, (e.toStub o).place = p := by
  obtain ⟨s, hs⟩ := List.exists_mem_of_ne_nil _ h
  obtain ⟨hs, hp⟩ := List.mem_filter.1 hs
  obtain ⟨e, he, heq⟩ := exists_place_of_mem_groupStubs hs
  exact ⟨e, he, heq.symm.trans (of_decide_eq_true hp)⟩

/-- The stubs of a recording are those of its requests, in the order of their arrival. -/
lemma scenarios_eq_flatMap (o : SnapshotOptions) (es : List Exchange) :
    scenarios o es =
      (arrivals es).flatMap fun k => groupStubs o (es.filter (·.requestKey = k)) := by
  rw [arrivals_eq_keys, List.flatMap_map, scenarios]
  refine List.flatMap_congr ?_
  rintro ⟨k, vs⟩ hg
  obtain ⟨-, rfl⟩ := mem_groupBy_iff.1 hg
  rw [List.filter_map, List.map_map]
  exact congrArg (groupStubs o) (List.map_id _)

/-- **The stubs of a snapshot at a place** are those of its requests, in the order of their
arrival. -/
lemma filter_snapshot_place (ho : o.repeatsAsScenarios = true) (es : List Exchange)
    (p : String ×ₗ String) :
    (snapshot o es).filter (·.place = p) =
      (arrivals es).flatMap fun k => placedStubs o (es.filter (·.requestKey = k)) p := by
  have htie : ∀ a b : Stub, decide (a.place = p) = true → decide (b.place = p) = true →
      a.before b = true := by
    intro a b ha hb
    rw [Stub.before_iff, of_decide_eq_true ha, of_decide_eq_true hb]
  rw [snapshot, ho, if_pos rfl, filter_mergeSort Stub.before_trans Stub.before_total htie,
    scenarios_eq_flatMap, List.filter_flatMap]
  rfl

end Stubs

/-! ## Recordings with one snapshot only -/

/-- Different requests that have stubs at the same place have the same ones there. Requests are told
apart by a key of their exchanges. -/
def PlacesAgree {κ : Type} [DecidableEq κ] (key : Exchange → κ) (o : SnapshotOptions)
    (es : List Exchange) : Prop :=
  ∀ k k', k ≠ k' → ∀ p, placedStubs o (es.filter (key · = k)) p ≠ [] →
    placedStubs o (es.filter (key · = k')) p ≠ [] →
      placedStubs o (es.filter (key · = k)) p = placedStubs o (es.filter (key · = k')) p

section Reordered

variable {o : SnapshotOptions} {es es' : List Exchange}

/-- Places agree where no two requests meet. -/
lemma placesAgree_of_apart {κ : Type} [DecidableEq κ] {key : Exchange → κ}
    (h : ∀ e ∈ es, ∀ e' ∈ es, (e.toStub o).place = (e'.toStub o).place → key e = key e') :
    PlacesAgree key o es := by
  intro k k' hne p hk hk'
  obtain ⟨e, he, hep⟩ := exists_place_of_placedStubs_ne hk
  obtain ⟨e', he', hep'⟩ := exists_place_of_placedStubs_ne hk'
  obtain ⟨hmem, hkey⟩ := List.mem_filter.1 he
  obtain ⟨hmem', hkey'⟩ := List.mem_filter.1 he'
  have heq := h e hmem e' hmem' (hep.trans hep'.symm)
  rw [of_decide_eq_true hkey, of_decide_eq_true hkey'] at heq
  exact absurd heq hne

/-- Where places agree, requests that were made once and meet at a place have the same stub. -/
lemma PlacesAgree.toStub_eq {κ : Type} [DecidableEq κ] {key : Exchange → κ}
    (hp : PlacesAgree key o es) {a b : Exchange} (hne : key a ≠ key b)
    (ha : es.filter (key · = key a) = [a]) (hb : es.filter (key · = key b) = [b])
    (hplace : (a.toStub o).place = (b.toStub o).place) : a.toStub o = b.toStub o := by
  have hplaced : ∀ {e : Exchange}, (e.toStub o).place = (b.toStub o).place →
      placedStubs o [e] (b.toStub o).place = [e.toStub o] := fun he =>
    List.filter_cons_of_pos (decide_eq_true he)
  have hsame := hp (key a) (key b) hne (b.toStub o).place
  rw [ha, hb, hplaced hplace, hplaced rfl] at hsame
  exact (List.cons.inj (hsame (List.cons_ne_nil _ _) (List.cons_ne_nil _ _))).1

/-- However the requests of a recording interleave, its snapshot has the same stubs. -/
lemma snapshot_perm_of_reordered (ho : o.repeatsAsScenarios = true)
    (h : Reordered Exchange.requestKey es es') : (snapshot o es').Perm (snapshot o es) := by
  have hscenarios : ∀ es, (snapshot o es).Perm (scenarios o es) := by
    intro es
    rw [snapshot, ho, if_pos rfl]
    exact List.mergeSort_perm _ _
  have hperm : (scenarios o es').Perm (scenarios o es) := by
    rw [scenarios_eq_flatMap, scenarios_eq_flatMap]
    simp only [h.filter_eq]
    exact (arrivals_perm h.perm.symm).flatMap_right _
  exact (hscenarios es').trans (hperm.trans (hscenarios es).symm)

/-- **Where places agree, a snapshot does not depend on how requests interleave.**

**Proof sketch.** At each place the snapshot has the stubs of one request after those of another
one. They commute, so the order in which the requests arrive does not count; and the places are in
order. -/
lemma snapshot_eq_of_reordered (ho : o.repeatsAsScenarios = true)
    (h : Reordered Exchange.requestKey es es') (hp : PlacesAgree Exchange.requestKey o es) :
    snapshot o es' = snapshot o es := by
  refine eq_of_filter_eq (pairwise_mergeSort_before _) (pairwise_mergeSort_before _) fun p => ?_
  rw [filter_snapshot_place ho, filter_snapshot_place ho]
  simp only [← h.filter_eq]
  refine flatMap_eq_of_perm (arrivals_perm h.perm.symm) fun k _ k' _ => ?_
  by_cases hk : k = k'
  · rw [hk]
  · exact (append_comm_iff_of_nodup (nodup_placedStubs _ _ _) (nodup_placedStubs _ _ _)).2
      (hp k k' hk p)

/-- The stubs at a place when two requests arrive before all others. -/
lemma filter_snapshot_withKeyFirst (ho : o.repeatsAsScenarios = true) {k k' : String}
    (hne : k ≠ k') (hk : k ∈ arrivals es) (hk' : k' ∈ arrivals es) (p : String ×ₗ String) :
    (snapshot o (withKeyFirst Exchange.requestKey k
        (withKeyFirst Exchange.requestKey k' es))).filter (·.place = p) =
      placedStubs o (es.filter (·.requestKey = k)) p ++
        (placedStubs o (es.filter (·.requestKey = k')) p ++
          (arrivals ((es.filter (·.requestKey ≠ k)).filter (·.requestKey ≠ k'))).flatMap
            fun j => placedStubs o (es.filter (·.requestKey = j)) p) := by
  have hfirst := reordered_withKeyFirst Exchange.requestKey k' es
  have hboth := hfirst.trans (reordered_withKeyFirst Exchange.requestKey k _)
  have hrest : (withKeyFirst Exchange.requestKey k' es).filter (·.requestKey ≠ k) =
      withKeyFirst Exchange.requestKey k' (es.filter (·.requestKey ≠ k)) := by
    rw [withKeyFirst, withKeyFirst, List.filter_append]
    exact congrArg₂ (· ++ ·) (List.filter_comm _ _ _) (List.filter_comm _ _ _)
  have hk'rest : k' ∈ arrivals (es.filter (·.requestKey ≠ k)) := by
    obtain ⟨e, he, rfl⟩ := mem_arrivals_iff.1 hk'
    exact mem_arrivals_iff.2 ⟨e, List.mem_filter.2 ⟨he, by simpa using hne.symm⟩, rfl⟩
  rw [filter_snapshot_place ho]
  simp only [← hboth.filter_eq]
  rw [arrivals_withKeyFirst ((arrivals_perm hfirst.perm).mem_iff.1 hk), hrest,
    arrivals_withKeyFirst hk'rest, List.flatMap_cons, List.flatMap_cons]

/-- **A recording with one snapshot only** has places that agree.

**Proof sketch.** Of two requests either one may arrive first, and the other one next. What comes
after them at a place is the same both times, so what they have there themselves commutes. -/
lemma placesAgree_of_forall (ho : o.repeatsAsScenarios = true)
    (h : ∀ es', Reordered Exchange.requestKey es es' → snapshot o es' = snapshot o es) :
    PlacesAgree Exchange.requestKey o es := by
  have hmem : ∀ {k p}, placedStubs o (es.filter (·.requestKey = k)) p ≠ [] → k ∈ arrivals es := by
    intro k p hk
    obtain ⟨e, he, -⟩ := exists_place_of_placedStubs_ne hk
    obtain ⟨he, hek⟩ := List.mem_filter.1 he
    exact mem_arrivals_iff.2 ⟨e, he, of_decide_eq_true hek⟩
  have hfront : ∀ k k', snapshot o (withKeyFirst Exchange.requestKey k
      (withKeyFirst Exchange.requestKey k' es)) = snapshot o es := fun k k' =>
    h _ ((reordered_withKeyFirst _ k' es).trans (reordered_withKeyFirst _ k _))
  intro k k' hne p hk hk'
  have hplace := congrArg (List.filter (·.place = p)) ((hfront k k').trans (hfront k' k).symm)
  rw [filter_snapshot_withKeyFirst ho hne (hmem hk) (hmem hk'),
    filter_snapshot_withKeyFirst ho hne.symm (hmem hk') (hmem hk), List.filter_comm,
    ← List.append_assoc, ← List.append_assoc] at hplace
  exact (append_comm_iff_of_nodup (nodup_placedStubs _ _ _) (nodup_placedStubs _ _ _)).1
    (List.append_cancel_right hplace) hk hk'

end Reordered

/-! ## Methods and targets -/

section Line

variable {κ κ' : Type} [DecidableEq κ] [DecidableEq κ'] {key : Exchange → κ} {key' : Exchange → κ'}
  {o : SnapshotOptions} {es es' : List Exchange}

/-- Exchanges with a key are exchanges with another key, if both tell the same ones apart. -/
lemma filter_eq_of_same_keys (h : ∀ a ∈ es, ∀ b ∈ es, key a = key b ↔ key' a = key' b)
    {e : Exchange} (he : e ∈ es) :
    es.filter (key' · = key' e) = es.filter (key · = key e) :=
  List.filter_congr fun a ha => decide_eq_decide.2 (h a ha e he).symm

/-- The order of the exchanges of each request may be kept by either key. -/
lemma Reordered.of_same_keys (h : ∀ a ∈ es, ∀ b ∈ es, key a = key b ↔ key' a = key' b)
    (hr : Reordered key es es') : Reordered key' es es' where
  perm := hr.perm
  filter_eq k := by
    have h' : ∀ a ∈ es', ∀ b ∈ es', key a = key b ↔ key' a = key' b := fun a ha b hb =>
      h a (hr.perm.mem_iff.2 ha) b (hr.perm.mem_iff.2 hb)
    by_cases hk : ∃ e ∈ es, key' e = k
    · obtain ⟨e, he, rfl⟩ := hk
      rw [filter_eq_of_same_keys h he, hr.filter_eq,
        filter_eq_of_same_keys h' (hr.perm.mem_iff.1 he)]
    · have hnone : ∀ e ∈ es, ¬ decide (key' e = k) = true := fun e he hek =>
        hk ⟨e, he, of_decide_eq_true hek⟩
      rw [List.filter_eq_nil_iff.2 hnone,
        List.filter_eq_nil_iff.2 fun e he => hnone e (hr.perm.mem_iff.2 he)]

/-- Whether places agree depends only on which exchanges have the same key, not on what the keys
are. -/
lemma PlacesAgree.of_same_keys (h : ∀ a ∈ es, ∀ b ∈ es, key a = key b ↔ key' a = key' b)
    (hp : PlacesAgree key o es) : PlacesAgree key' o es := by
  have hmem : ∀ {k p}, placedStubs o (es.filter (key' · = k)) p ≠ [] → ∃ e ∈ es, key' e = k := by
    intro k p hk
    obtain ⟨e, he, -⟩ := exists_place_of_placedStubs_ne hk
    obtain ⟨he, hek⟩ := List.mem_filter.1 he
    exact ⟨e, he, of_decide_eq_true hek⟩
  intro k k' hne p hk hk'
  obtain ⟨e, he, rfl⟩ := hmem hk
  obtain ⟨e', he', rfl⟩ := hmem hk'
  rw [filter_eq_of_same_keys h he] at hk ⊢
  rw [filter_eq_of_same_keys h he'] at hk' ⊢
  exact hp _ _ (fun heq => hne ((h e he e' he').1 heq)) p hk hk'

/-- **Snapshots of recordings that interleave otherwise**, if methods have no space: for every order
of the exchanges that keeps that of each request, a snapshot with scenarios has the same stubs. It
has them in the same order for all of these orders if, and only if, requests that have stubs at the
same place have the same ones there. -/
theorem snapshot_reordered_iff (ho : o.repeatsAsScenarios = true)
    (hes : ∀ e ∈ es, ' ' ∉ e.method.toList) :
    (∀ es', Reordered Exchange.line es es' → (snapshot o es').Perm (snapshot o es)) ∧
    ((∀ es', Reordered Exchange.line es es' → snapshot o es' = snapshot o es) ↔
      PlacesAgree Exchange.line o es) := by
  have hkeys : ∀ a ∈ es, ∀ b ∈ es, a.requestKey = b.requestKey ↔ a.line = b.line :=
    fun a ha b hb => Exchange.requestKey_eq_iff (hes a ha) (hes b hb)
  have hlines := fun a ha b hb => (hkeys a ha b hb).symm
  refine ⟨fun es' h => snapshot_perm_of_reordered ho (h.of_same_keys hlines), fun h => ?_,
    fun hp es' h => ?_⟩
  · exact (placesAgree_of_forall ho fun es' h' => h es' (h'.of_same_keys hkeys)).of_same_keys hkeys
  · exact snapshot_eq_of_reordered ho (h.of_same_keys hlines) (hp.of_same_keys hlines)

/-- The polls and the request in between may interleave in any way. -/
theorem snapshot_of_polls_reordered :
    SnapshotOptions.chaining.repeatsAsScenarios = true ∧
    (∀ e ∈ polls, ' ' ∉ e.method.toList) ∧
    snapshot .chaining
        [.answered "/a" [], .answered "/poll" [0x31], .answered "/poll" [0x32]] =
      snapshot .chaining polls := by
  have hmethods : ∀ e ∈ polls, ' ' ∉ e.method.toList := by
    simp [polls, Exchange.answered]
  have hnames : ∀ e ∈ polls, ∀ e' ∈ polls,
      targetName e.target = targetName e'.target → e.line = e'.line := by
    decide
  have hapart : ∀ e ∈ polls, ∀ e' ∈ polls,
      (e.toStub .chaining).place = (e'.toStub .chaining).place → e.line = e'.line :=
    fun e he e' he' hplace => hnames e he e' he' (congrArg (fun p => (ofLex p).1) hplace)
  refine ⟨rfl, hmethods, ((snapshot_reordered_iff (o := .chaining) rfl hmethods).2.2
    (placesAgree_of_apart hapart)) _ (.swap (by decide) [] [Exchange.answered "/poll" [0x32]])⟩

/-- A search that was made twice, with its parameters in either order. -/
def spellings : List Exchange :=
  [.answered "/s?p=1&q=2" [0x31], .answered "/s?q=2&p=1" [0x32]]

/-- The snapshot of some requests depends on which of them was recorded first. -/
theorem not_forall_snapshot_reordered :
    ¬ ∀ (o : SnapshotOptions) (es es' : List Exchange), o.repeatsAsScenarios = true →
      Reordered Exchange.line es es' → snapshot o es' = snapshot o es := by
  intro h
  have hkeys : ∀ a ∈ spellings, ∀ b ∈ spellings, a.requestKey = b.requestKey ↔ a.line = b.line := by
    decide
  have hagree : PlacesAgree Exchange.requestKey .chaining spellings :=
    placesAgree_of_forall rfl fun es' h' => h _ _ _ rfl (h'.of_same_keys hkeys)
  have hplace : ((Exchange.answered "/s?p=1&q=2" [0x31]).toStub .chaining).place =
      ((Exchange.answered "/s?q=2&p=1" [0x32]).toStub .chaining).place :=
    congrArg toLex (Prod.ext (by decide) (by decide +kernel))
  have hstub := hagree.toStub_eq (by decide) rfl rfl hplace
  exact absurd (congrArg (·.response.body) hstub) (by decide)

end Line

end HttpStub
