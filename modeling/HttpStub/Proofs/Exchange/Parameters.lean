import HttpStub.Proofs.Exchange.Pattern

set_option autoImplicit false

/-!
# The parameters that a stub asks for

A stub made from a request with a query asks for the values of each parameter that was recorded.
What the query of another request is like besides makes no difference to it.

## Main definitions

* `HttpStub.querySegments`, `HttpStub.Request.segments` — a query in the pieces that are parameters.
* `HttpStub.Exchange.AsksQuery` — the target of the recorded request is a path with a query.

## Main results

* `HttpStub.queryValues_perm_of_segments` — other parameters and the order of segments do not change
  the values of a parameter.
* `HttpStub.Exchange.query_pins_parameters` — the requests whose parameters fit the stub.
-/

namespace HttpStub

/-! ## Segments of a query -/

/-- The segments of a query, each a parameter as it is spelled. -/
def querySegments (query : String) : List (List Char) :=
  Text.pieces (· == '&') query.toList

/-- The segments of the query of a request; without a query there are none. -/
def Request.segments (r : Request) : List (List Char) :=
  match (splitTarget r.target).2 with
  | some q => querySegments q
  | none => []

/-- The parameters of a request come from the segments of its query, one from each. -/
lemma Request.query_eq_map_segments (r : Request) : r.query = r.segments.map queryPair := by
  unfold query segments
  cases (splitTarget r.target).2 <;> rfl

/-- A query whose segments are those of an empty one is empty. -/
lemma ne_empty_of_segments_perm {q q' : String} (h : (querySegments q').Perm (querySegments q))
    (hq : q ≠ "") : q' ≠ "" := by
  rintro rfl
  have hsegments : querySegments q = [[]] := List.perm_singleton.1 h.symm
  have hnil : q.toList = [] := Text.pieces_eq_singleton_nil_iff.1 hsegments
  exact hq (String.toList_eq_nil_iff.1 hnil)

/-- **The values of a parameter** do not depend on the order of the segments, and segments of other
parameters do not change them. -/
lemma queryValues_perm_of_segments {r r' : Request} {others : List (List Char)} {name : String}
    (h : r'.segments.Perm (r.segments ++ others))
    (hothers : ∀ s ∈ others, (queryPair s).1 ≠ name) :
    (r'.queryValues name).Perm (r.queryValues name) := by
  have hpairs : r'.query.Perm (r.query ++ others.map queryPair) := by
    rw [r'.query_eq_map_segments, r.query_eq_map_segments, ← List.map_append]
    exact h.map queryPair
  have hnone : valuesOf name (others.map queryPair) = [] := by
    rw [valuesOf_eq_nil_iff, List.map_map, List.mem_map]
    rintro ⟨s, hs, hname⟩
    exact hothers s hs hname
  have hvalues := valuesOf_perm hpairs name
  rwa [valuesOf_append, hnone, List.append_nil] at hvalues

/-! ## Stubs of requests with a query -/

namespace Exchange

/-- The target of the recorded request is a path and a query that is not empty. -/
structure AsksQuery (e : Exchange) (path query : String) : Prop where
  target : e.target = path ++ "?" ++ query
  path_free : '?' ∉ path.toList
  query_ne : query ≠ ""

variable {e : Exchange} {o : SnapshotOptions} {path q : String} {r : Request}

/-- The parts of a target that is a path with a query. -/
lemma AsksQuery.splitTarget_eq (h : e.AsksQuery path q) :
    splitTarget e.target = (path, some q) := by
  rw [h.target, splitTarget_append h.path_free]

/-- The parameters of a target that is a path with a query. -/
lemma AsksQuery.query_eq (h : e.AsksQuery path q) : e.query = queryPairs q := by
  simp only [query, Request.query, Request.ofTarget, h.splitTarget_eq]

/-- The conditions on parameters hold where each recorded parameter has its recorded values. -/
lemma AsksQuery.query_verdict_iff (h : e.AsksQuery path q) :
    ((e.toStub o).verdict r).query = true ↔
      ∀ name ∈ (queryPairs q).map Prod.fst,
        (valuesOf name (queryPairs q)).Perm (r.queryValues name) := by
  have hne : (splitTarget e.target).2 ≠ some "" := by
    rw [h.splitTarget_eq]
    exact fun hsome => h.query_ne (Option.some.inj hsome)
  have hiff := Exchange.query_verdict_iff (o := o) (r := r) hne
  rwa [h.query_eq] at hiff

/-- **A stub pins the parameters that were recorded.** The query of a request, or its lack of one,
fits a stub made from a path with a query exactly where each recorded parameter has its recorded
values, in some order. So it makes no difference if the segments of the recorded query come in
another order, or those of the request, or if segments of other parameters are added to these. -/
theorem query_pins_parameters (h : e.AsksQuery path q) (o : SnapshotOptions) (r : Request) :
    (((e.toStub o).verdict r).query = true ↔
      ∀ name ∈ (queryPairs q).map Prod.fst,
        (valuesOf name (queryPairs q)).Perm (r.queryValues name)) ∧
    ∀ (e' : Exchange) (o' : SnapshotOptions) (path' q' : String), '?' ∉ path'.toList →
      e'.target = path' ++ "?" ++ q' → (querySegments q').Perm (querySegments q) →
      ∀ (r' : Request) (others : List (List Char)),
        (∀ s ∈ others, (queryPair s).1 ∉ (queryPairs q).map Prod.fst) →
        r'.segments.Perm (r.segments ++ others) →
        ((e'.toStub o').verdict r').query = ((e.toStub o).verdict r).query := by
  refine ⟨h.query_verdict_iff, ?_⟩
  intro e' o' path' q' hpath htarget hsegments r' others hothers hr
  have h' : e'.AsksQuery path' q' :=
    ⟨htarget, hpath, ne_empty_of_segments_perm hsegments h.query_ne⟩
  have hpairs : (queryPairs q').Perm (queryPairs q) := hsegments.map queryPair
  -- the same names are recorded, and each has the same values on both sides, up to their order
  rw [Bool.eq_iff_iff, h.query_verdict_iff, h'.query_verdict_iff]
  refine forall_congr' fun name => ?_
  rw [(hpairs.map Prod.fst).mem_iff]
  refine forall_congr' fun hname => ?_
  have hvalues := valuesOf_perm hpairs name
  have hqueries : (r'.queryValues name).Perm (r.queryValues name) := by
    apply queryValues_perm_of_segments hr
    rintro s hs rfl
    exact hothers s hs hname
  exact (hvalues.congr_left _).trans (hqueries.congr_right _)

/-- A search with a repeated parameter and an empty one fits in another order and with more. -/
theorem query_pins_parameters_of_search :
    (unanswered "GET" "/search?tag=b&q=&tag=a" []).AsksQuery "/search" "tag=b&q=&tag=a" ∧
      (((unanswered "GET" "/search?tag=b&q=&tag=a" []).toStub .off).verdict
        (.ofTarget "GET" "/search?page=2&tag=a&tag=%62&q")).query = true := by
  have h : (unanswered "GET" "/search?tag=b&q=&tag=a" []).AsksQuery "/search" "tag=b&q=&tag=a" :=
    ⟨by decide, by decide, by decide⟩
  refine ⟨h, (query_pins_parameters h .off _).1.2 ?_⟩
  decide

end Exchange

end HttpStub
