import HttpStub.Exchange.ToStub
import HttpStub.Proofs.Groups
import HttpStub.Proofs.Http.Target
import HttpStub.Proofs.Json.Rearranged
import HttpStub.Proofs.Json.Parsed
import HttpStub.Proofs.Json.Text
import HttpStub.Proofs.Stub.Verdict

set_option autoImplicit false

/-!
# The pattern of an exchange

What the pattern asks for that is made from a recorded request, in terms of the path, the
parameters and the body of the request.

## Main definitions

* `HttpStub.Exchange.requestWith` — the recorded request, with some headers.
* `HttpStub.Exchange.path`, `HttpStub.Exchange.query` — the parts of its target.
* `HttpStub.Exchange.Plain` — a request that its pattern describes fully.

## Main results

* `HttpStub.mem_queryMatchers_iff` — the conditions that a query leads to.
* `HttpStub.Exchange.requestPattern_cases` — the pattern of a request.
* `HttpStub.Exchange.query_verdict_iff`, `HttpStub.Exchange.body_verdict_iff`,
  `HttpStub.Exchange.url_verdict_iff` — what the single conditions ask of a request.
* `HttpStub.Exchange.Plain.matched_iff` — the requests that the pattern fits.
-/

namespace HttpStub

open Json (Value Decoder)

/-! ## Conditions on parameters -/

/-- **Each parameter of a query** is to have exactly the values that it has there. -/
lemma mem_queryMatchers_iff {query name : String} {m : QueryMatcher} :
    (name, m) ∈ (queryMatchers query).entries ↔
      name ∈ (queryPairs query).map Prod.fst ∧
        m = .exactly (valuesOf name (queryPairs query)) := by
  have hnd : (((groupBy (· == ·) (queryPairs query)).map fun g =>
      (g.1, QueryMatcher.exactly g.2)).map Prod.fst).Nodup := by
    rw [List.map_map]
    exact nodup_keys_groupBy (queryPairs query)
  rw [queryMatchers, Dict.mem_ofList_iff hnd, List.mem_map]
  constructor
  · rintro ⟨⟨k, vs⟩, hg, heq⟩
    simp only [Prod.mk.injEq] at heq
    obtain ⟨rfl, rfl⟩ := heq
    obtain ⟨hk, rfl⟩ := mem_groupBy_iff.1 hg
    exact ⟨hk, rfl⟩
  · rintro ⟨hk, rfl⟩
    exact ⟨(name, valuesOf name (queryPairs query)), mem_groupBy_iff.2 ⟨hk, rfl⟩, rfl⟩

/-! ## Conditions on the body -/

section Body

variable (o : SnapshotOptions)

/-- A body leads to a condition if it is JSON; an empty one is not. -/
lemma bodyPattern?_eq (body : Bytes) :
    bodyPattern? o body =
      (Json.parse? body).map fun v => .ofJsonText (o.normalize v).compact := by
  unfold bodyPattern?
  split
  · next hempty =>
    rw [List.isEmpty_iff.1 hempty]
    rfl
  · rfl

variable {o} {v : Value}

/-- The text of a condition on the body is the text of the value that it was made from. -/
lemma parseString?_normalize (hf : v.floatFree = true) (hv : v.Fits Decoder.maxDepth) :
    Json.parseString? (o.normalize v).compact = some (o.normalize v) :=
  Json.parseString?_compact (Json.Value.floatFree_normalize hf) hv.normalize

/-- **The condition made from a body** admits the bodies with the same canonical text. -/
lemma admits_normalize_iff (hf : v.floatFree = true) (hv : v.Fits Decoder.maxDepth)
    {body : Bytes} :
    (BodyPattern.ofJsonText (o.normalize v).compact).admits body = true ↔
      ∃ w, Json.parse? body = some w ∧ (o.normalize v).canonical = w.canonical := by
  rw [admits_ofJsonText_iff, parseString?_normalize hf hv]
  simp

end Body

/-! ## Requests that were recorded -/

/-- The options that ask for nothing. -/
def SnapshotOptions.off : SnapshotOptions :=
  ⟨false, [], false, false⟩

namespace Exchange

/-- A request that was answered with nothing. -/
def unanswered (method target : String) (body : Bytes) : Exchange :=
  ⟨method, target, body, 200, [], []⟩

/-- The recorded request, with some headers. -/
def requestWith (e : Exchange) (headers : Headers) : Request :=
  ⟨e.method, e.target, headers, e.requestBody⟩

/-- The path of the recorded request. -/
def path (e : Exchange) : String :=
  (splitTarget e.target).1

/-- The parameters of the recorded request in their order. -/
def query (e : Exchange) : List (String × String) :=
  (Request.ofTarget e.method e.target).query

variable {e : Exchange} {o : SnapshotOptions}

/-- A request to the recorded target has its path. -/
lemma path_of_target_eq {r : Request} (h : r.target = e.target) : r.path = e.path := by
  rw [Request.path, h, path]

/-- A request to the recorded target has its parameters. -/
lemma query_of_target_eq {r : Request} (h : r.target = e.target) : r.query = e.query := by
  simp only [Request.query, query, Request.ofTarget, h]

/-- The pattern of a request whose query is not empty: its path and its parameters. -/
lemma requestPattern_of_query {q : String} (h : nonEmpty? (splitTarget e.target).2 = some q) :
    e.requestPattern o =
      { RequestPattern.blank with
        method := e.method, urlPath := some e.path, queryParameters := queryMatchers q,
        bodyPatterns := (bodyPattern? o e.requestBody).toList } := by
  simp only [requestPattern, h, path]

/-- The pattern of a request without a query, or with an empty one: its path as the whole
target. -/
lemma requestPattern_of_no_query (h : nonEmpty? (splitTarget e.target).2 = none) :
    e.requestPattern o =
      { RequestPattern.blank with
        method := e.method, url := some e.path,
        bodyPatterns := (bodyPattern? o e.requestBody).toList } := by
  simp only [requestPattern, h, path]

/-- **The pattern of a request** whose query is absent or not empty: the path is the whole target,
or the parameters are those of the request. -/
lemma requestPattern_cases (h : (splitTarget e.target).2 ≠ some "") :
    (e.query = [] ∧ e.requestPattern o =
      { RequestPattern.blank with
        method := e.method, url := some e.path,
        bodyPatterns := (bodyPattern? o e.requestBody).toList }) ∨
    (e.query ≠ [] ∧ ∃ q, e.query = queryPairs q ∧ e.requestPattern o =
      { RequestPattern.blank with
        method := e.method, urlPath := some e.path, queryParameters := queryMatchers q,
        bodyPatterns := (bodyPattern? o e.requestBody).toList }) := by
  rcases hs : (splitTarget e.target).2 with _ | q
  · exact .inl ⟨Request.query_eq_nil_iff.2 hs, requestPattern_of_no_query (by rw [hs]; rfl)⟩
  · have hne : q ≠ "" := fun hq => h (by rw [hs, hq])
    have hquery : e.query = queryPairs q := by
      simp only [query, Request.query, Request.ofTarget, hs]
    exact .inr ⟨by rw [hquery]; exact queryPairs_ne_nil q, q, hquery,
      requestPattern_of_query (by rw [hs, nonEmpty?_some hne])⟩

/-- The pattern asks for the method of the request. -/
@[simp] lemma method_requestPattern : (e.requestPattern o).method = e.method := by
  unfold requestPattern
  dsimp only
  split <;> rfl

/-- The pattern asks for no headers. -/
@[simp] lemma headers_requestPattern : (e.requestPattern o).headers = .empty := by
  unfold requestPattern
  dsimp only
  split <;> rfl

/-- There is a condition on the body exactly where the body is JSON. -/
lemma bodyPatterns_requestPattern :
    (e.requestPattern o).bodyPatterns =
      ((Json.parse? e.requestBody).map fun v =>
        BodyPattern.ofJsonText (o.normalize v).compact).toList := by
  rw [← bodyPattern?_eq]
  unfold requestPattern
  dsimp only
  split <;> rfl

/-- The conditions on parameters are the parameters of the request with their values. -/
lemma mem_queryParameters_iff (h : (splitTarget e.target).2 ≠ some "") {name : String}
    {m : QueryMatcher} :
    (name, m) ∈ (e.requestPattern o).queryParameters.entries ↔
      name ∈ e.query.map Prod.fst ∧ m = .exactly (valuesOf name e.query) := by
  rcases requestPattern_cases (o := o) h with ⟨hq, hp⟩ | ⟨-, q, hq, hp⟩
  · rw [hp, hq]
    simp [RequestPattern.blank, Dict.empty]
  · rw [hp, hq]
    exact mem_queryMatchers_iff

/-- Without a query the whole target has to be the path. -/
lemma urlMatch_of_no_query (hpath : e.path ≠ "")
    (h : nonEmpty? (splitTarget e.target).2 = none) :
    (e.requestPattern o).urlMatch = .exact e.path := by
  rw [requestPattern_of_no_query h]
  simp only [RequestPattern.urlMatch, nonEmpty?_some hpath]

/-- With a query only the path of the target is compared as such. -/
lemma urlMatch_of_query (hpath : e.path ≠ "") {q : String}
    (h : nonEmpty? (splitTarget e.target).2 = some q) :
    (e.requestPattern o).urlMatch = .path e.path := by
  rw [requestPattern_of_query h]
  simp only [RequestPattern.urlMatch, nonEmpty?_some hpath]
  rfl

/-- The condition on the target, if the path is not empty. -/
lemma urlMatch_requestPattern (hpath : e.path ≠ "") (h : (splitTarget e.target).2 ≠ some "") :
    (e.requestPattern o).urlMatch = if e.query = [] then .exact e.path else .path e.path := by
  rcases hs : (splitTarget e.target).2 with _ | q
  · have hq : e.query = [] := Request.query_eq_nil_iff.2 hs
    rw [if_pos hq, urlMatch_of_no_query hpath (by rw [hs]; rfl)]
  · have hq : e.query ≠ [] := fun hq =>
      Option.some_ne_none q (hs.symm.trans (Request.query_eq_nil_iff.1 hq))
    have hne : q ≠ "" := fun hq => h (by rw [hs, hq])
    rw [if_neg hq, urlMatch_of_query hpath (by rw [hs, nonEmpty?_some hne])]

/-! ## The requests that fit -/

/-- **The parameters fit** when each recorded one has the values that were recorded, in some
order. -/
lemma query_verdict_iff (h : (splitTarget e.target).2 ≠ some "") {r : Request} :
    ((e.requestPattern o).verdict r).query = true ↔
      ∀ name ∈ e.query.map Prod.fst, (valuesOf name e.query).Perm (r.queryValues name) := by
  rw [RequestPattern.query_verdict_iff]
  constructor
  · intro hall name hname
    exact hall name _ ((mem_queryParameters_iff h).2 ⟨hname, rfl⟩)
  · intro hall name m hm
    obtain ⟨hname, rfl⟩ := (mem_queryParameters_iff h).1 hm
    exact hall name hname

/-- **The body fits** when it has the canonical text of the recorded one in its normal form, if
that is JSON. -/
lemma body_verdict_iff (h : ∀ v, Json.parse? e.requestBody = some v → v.floatFree = true)
    {r : Request} :
    ((e.requestPattern o).verdict r).body = true ↔
      ∀ v, Json.parse? e.requestBody = some v →
        ∃ w, Json.parse? r.body = some w ∧ (o.normalize v).canonical = w.canonical := by
  rw [RequestPattern.body_verdict_iff, bodyPatterns_requestPattern]
  rcases hv : Json.parse? e.requestBody with _ | v
  · simp
  · simp [admits_normalize_iff (h v hv) (Json.fits_of_parse? hv)]

/-- **The target fits** when the path is the same, and there are no parameters if none were
recorded. -/
lemma url_verdict_iff (hpath : e.path ≠ "") (h : (splitTarget e.target).2 ≠ some "")
    {r : Request} :
    ((e.requestPattern o).verdict r).url = true ↔
      e.path = r.path ∧ (e.query = [] → r.query = []) := by
  simp only [RequestPattern.verdict, urlMatch_requestPattern hpath h]
  split
  · next hq =>
    simp only [UrlMatch.admits, beq_iff_eq, hq, forall_const]
    constructor
    · intro htarget
      -- without parameters the path is the target, so the whole targets agree
      have heq : r.target = e.target := htarget.symm.trans (Request.target_eq_path hq).symm
      exact ⟨(path_of_target_eq heq).symm, (query_of_target_eq heq).trans hq⟩
    · rintro ⟨hpath, hr⟩
      rw [hpath, Request.target_eq_path hr]
  · next hq => simp [UrlMatch.admits, hq]

/-! ## Plain requests -/

/-- The request has a path and no empty query, its method is an ordinary one, there is no blank in
its first line, and its body is no JSON value with a floating point number. -/
structure Plain (e : Exchange) : Prop where
  path_ne : e.path ≠ ""
  query_ne : (splitTarget e.target).2 ≠ some ""
  method_ne : Ascii.sameText e.method anyMethod = false
  method_free : ' ' ∉ e.method.toList
  target_free : ' ' ∉ e.target.toList
  floatFree : ∀ v, Json.parse? e.requestBody = some v → v.floatFree = true

/-- A request without a body is plain if its first line is. -/
lemma plain_unanswered {method target : String} (hpath : (splitTarget target).1 ≠ "")
    (hquery : (splitTarget target).2 ≠ some "") (hany : Ascii.sameText method anyMethod = false)
    (hmethod : ' ' ∉ method.toList) (htarget : ' ' ∉ target.toList) :
    (unanswered method target []).Plain :=
  ⟨hpath, hquery, hany, hmethod, htarget, fun _ hv => nomatch hv⟩

/-- **The requests that the pattern of a plain request fits**: method and path agree, recorded
parameters have their recorded values, there are others only if some were recorded, and a body that
was recorded as JSON has the canonical text that the pattern states. -/
lemma Plain.matched_iff (h : e.Plain) {r : Request} :
    ((e.toStub o).verdict r).matched = true ↔
      Ascii.sameText e.method r.method = true ∧
      e.path = r.path ∧ (e.query = [] → r.query = []) ∧
      (∀ name ∈ e.query.map Prod.fst, (valuesOf name e.query).Perm (r.queryValues name)) ∧
      ∀ v, Json.parse? e.requestBody = some v →
        ∃ w, Json.parse? r.body = some w ∧ (o.normalize v).canonical = w.canonical := by
  have hmethod : ((e.requestPattern o).verdict r).method = true ↔
      Ascii.sameText e.method r.method = true := by
    simp only [RequestPattern.verdict, method_requestPattern]
    exact methodMatches_iff h.method_ne
  have hheaders : ((e.requestPattern o).verdict r).headers = true :=
    RequestPattern.headers_verdict_of_isEmpty (by rw [headers_requestPattern]; rfl)
  rw [Verdict.matched_iff, Stub.verdict, toStub, hmethod, url_verdict_iff h.path_ne h.query_ne,
    query_verdict_iff h.query_ne, body_verdict_iff h.floatFree, hheaders]
  simp only [and_true, and_assoc]

end Exchange

end HttpStub
