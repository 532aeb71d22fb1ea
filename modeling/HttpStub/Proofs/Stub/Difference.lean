import HttpStub.Proofs.Http.Target
import HttpStub.Proofs.Stub.Verdict
import HttpStub.Proofs.Text.Split
import HttpStub.Proofs.Text.Utf8
import Mathlib.Data.List.Forall2

set_option autoImplicit false

/-!
# The differences that a verdict lists

A stub that does not fit is explained by differences: one for each condition on a parameter or a
header that does not hold.

## Main definitions

* `HttpStub.QueryMatcher.Holds`, `HttpStub.HeaderMatcher.Holds` — a condition holds for a request.
* `HttpStub.QueryMatcher.Reported`, `HttpStub.HeaderMatcher.Reported` — a difference reports that a
  condition does not hold.
* `HttpStub.Difference.TellsPresence` — a difference tells headers that are there from others.

## Main results

* `HttpStub.Stub.verdict_reports` — the differences are those from the conditions that do not hold,
  in order.
* `HttpStub.tellsPresence_iff` — a header is reported as absent although it is there exactly where
  its first value is empty.

## Design

The conditions are stated on the parameters and headers of the request and not through the
differences, so that flags and differences are both held against them.
-/

namespace HttpStub

/-! ## Conditions -/

/-- The parameter has the expected values in some order, and no others. -/
def QueryMatcher.Holds (m : QueryMatcher) (r : Request) (name : String) : Prop :=
  m.expected.Perm (r.queryValues name)

/-- The first value of the header is the text that is asked for; if none is asked for, it contains
the part that is asked for. An empty text asks for nothing. -/
def HeaderMatcher.Holds (m : HeaderMatcher) (r : Request) (name : String) : Prop :=
  (∀ v, nonEmpty? m.equalTo = some v → r.headers.text name = v) ∧
    (nonEmpty? m.equalTo = none → ∀ part, nonEmpty? m.contains = some part →
      part.toList <:+: (r.headers.text name).toList)

section Conditions

variable {r : Request} {name : String}

/-- A condition on a header admits the text of its first value exactly if it holds. -/
lemma HeaderMatcher.admits_iff {m : HeaderMatcher} :
    m.admits (r.headers.text name) = true ↔ m.Holds r name := by
  unfold admits Holds
  rcases nonEmpty? m.equalTo with _ | v
  · rcases nonEmpty? m.contains with _ | part
    · simp
    · simp [Text.occursIn_iff]
  · simp only [beq_iff_eq, Option.some.injEq, forall_eq', reduceCtorEq, false_implies, and_true]
    exact eq_comm

instance (m : QueryMatcher) : Decidable (m.Holds r name) :=
  decidable_of_iff _ m.admits_iff

instance (m : HeaderMatcher) : Decidable (m.Holds r name) :=
  decidable_of_iff _ m.admits_iff

end Conditions

/-! ## Differences -/

/-- The difference reports a condition on a parameter, with the values that are expected and those
that are there. The parameter is absent exactly where the request has no parameter of its name. -/
structure QueryMatcher.Reported (m : QueryMatcher) (r : Request) (name : String)
    (d : Difference) : Prop where
  criterion : d.criterion = .query
  name_eq : d.name = name
  expected : d.expected = m.expected
  actual : d.actual = r.queryValues name
  kind : d.kind = .absent ↔ name ∉ r.query.map Prod.fst

/-- The difference reports a condition on a header, which it describes in words. -/
structure HeaderMatcher.Reported (m : HeaderMatcher) (name : String) (d : Difference) : Prop where
  criterion : d.criterion = .header
  name_eq : d.name = name
  expected : d.expected = [m.describe]

section Differences

variable {r : Request} {name : String} {d : Difference}

/-- A difference from a condition on a parameter reports this condition. -/
lemma QueryMatcher.reported_of_difference? {m : QueryMatcher}
    (h : m.difference? r name = some d) : m.Reported r name d := by
  unfold difference? at h
  dsimp only at h
  split at h
  · simp at h
  · obtain rfl := Option.some.inj h
    refine ⟨rfl, rfl, rfl, rfl, ?_⟩
    rw [← valuesOf_eq_nil_iff, ← Request.queryValues]
    by_cases hnone : r.queryValues name = [] <;> simp [hnone]

/-- **The difference from a condition on a header** goes by the text of the first value, which is
empty where there is none. -/
lemma HeaderMatcher.difference?_cases {m : HeaderMatcher} (h : m.difference? r name = some d) :
    r.headers.text name = "" ∧ d = ⟨.header, .absent, name, [m.describe], []⟩ ∨
      r.headers.text name ≠ "" ∧
        d = ⟨.header, .mismatch, name, [m.describe], [r.headers.text name]⟩ := by
  unfold difference? at h
  dsimp only at h
  split at h
  · simp at h
  · split at h
    · next hempty =>
      exact .inl ⟨by simpa using hempty, (Option.some.inj h).symm⟩
    · next hsome =>
      exact .inr ⟨by simpa using hsome, (Option.some.inj h).symm⟩

/-- A difference from a condition on a header reports this condition. -/
lemma HeaderMatcher.reported_of_difference? {m : HeaderMatcher}
    (h : m.difference? r name = some d) : m.Reported name d := by
  obtain ⟨-, rfl⟩ | ⟨-, rfl⟩ := difference?_cases h
  · exact ⟨rfl, rfl, rfl⟩
  · exact ⟨rfl, rfl, rfl⟩

end Differences

/-! ## Lists of differences -/

/-- Where a function has a value exactly for the members that fail, the values are one for each
failing member, in their order. -/
lemma forall₂_filterMap {α β : Type} {f : α → Option β} {holds : α → Prop} [DecidablePred holds]
    {R : α → β → Prop} (hnone : ∀ a, f a = none ↔ holds a) (hsome : ∀ a b, f a = some b → R a b)
    (l : List α) : List.Forall₂ R (l.filter fun a => ¬ holds a) (l.filterMap f) := by
  induction l with
  | nil => exact .nil
  | cons a l ih =>
    rcases hf : f a with _ | b
    · have ha : holds a := (hnone a).1 hf
      rw [List.filterMap_cons_none hf, List.filter_cons_of_neg (by simpa using ha)]
      exact ih
    · have ha : ¬ holds a := fun h => by simp [(hnone a).2 h] at hf
      rw [List.filterMap_cons_some hf, List.filter_cons_of_pos (by simpa using ha)]
      exact .cons (hsome a b hf) ih

/-- Differences that are named like entries in the order of their keys have increasing names. -/
lemma pairwise_name_of_forall₂ {α : Type} {es : List (String × α)} {ds : List Difference}
    (h : List.Forall₂ (fun e d => d.name = e.1) es ds) (hes : Increasing es) :
    ds.Pairwise fun d d' => d.name < d'.name := by
  have hnames : es.map Prod.fst = ds.map Difference.name := by
    induction h with
    | nil => rfl
    | cons hname _ ih => rw [List.map_cons, List.map_cons, hname, ih (List.pairwise_cons.1 hes).2]
  have hincreasing : (ds.map Difference.name).Pairwise (· < ·) := by
    rw [← hnames]
    exact List.pairwise_map.2 hes
  exact List.pairwise_map.1 hincreasing

/-- Of differences with one criterion, those with a given one are all or none. -/
lemma filter_criterion {ds : List Difference} {c c' : Criterion} (h : ∀ d ∈ ds, d.criterion = c) :
    ds.filter (·.criterion == c') = if c = c' then ds else [] := by
  by_cases hc : c = c'
  · rw [if_pos hc]
    apply List.filter_eq_self.2
    intro d hd
    rw [h d hd, hc, beq_self_eq_true]
  · rw [if_neg hc]
    apply List.filter_eq_nil_iff.2
    intro d hd
    rwa [h d hd, beq_iff_eq]

namespace RequestPattern

variable {p : RequestPattern} {r : Request} {d : Difference}

/-- What conditions on parameters lead to is marked as a difference in parameters. -/
lemma criterion_of_mem_queryDifferences (h : d ∈ p.queryDifferences r) : d.criterion = .query := by
  obtain ⟨⟨name, m⟩, -, hd⟩ := List.mem_filterMap.1 h
  exact (QueryMatcher.reported_of_difference? hd).criterion

/-- What conditions on headers lead to is marked as a difference in headers. -/
lemma criterion_of_mem_headerDifferences (h : d ∈ p.headerDifferences r) :
    d.criterion = .header := by
  obtain ⟨⟨name, m⟩, -, hd⟩ := List.mem_filterMap.1 h
  exact (HeaderMatcher.reported_of_difference? hd).criterion

/-- The differences in parameters are told by their criterion. -/
lemma queryDifferences_verdict (p : RequestPattern) (r : Request) :
    (p.verdict r).queryDifferences = p.queryDifferences r := by
  simp only [verdict, Verdict.queryDifferences, List.filter_append,
    filter_criterion fun _ => criterion_of_mem_queryDifferences,
    filter_criterion fun _ => criterion_of_mem_headerDifferences]
  exact List.append_nil _

/-- The differences in headers are told by their criterion. -/
lemma headerDifferences_verdict (p : RequestPattern) (r : Request) :
    (p.verdict r).headerDifferences = p.headerDifferences r := by
  simp only [verdict, Verdict.headerDifferences, List.filter_append,
    filter_criterion fun _ => criterion_of_mem_queryDifferences,
    filter_criterion fun _ => criterion_of_mem_headerDifferences]
  exact List.nil_append _

/-- A verdict lists differences in parameters first, then those in headers, and no others. -/
lemma differences_verdict (p : RequestPattern) (r : Request) :
    (p.verdict r).differences =
      (p.verdict r).queryDifferences ++ (p.verdict r).headerDifferences := by
  rw [queryDifferences_verdict, headerDifferences_verdict, verdict]

/-- The conditions on parameters fail exactly where there is a difference in a parameter. -/
lemma query_verdict_eq_false_iff :
    (p.verdict r).query = false ↔ ∃ d ∈ (p.verdict r).differences, d.criterion = .query := by
  have hflag : (p.verdict r).query = (p.verdict r).queryDifferences.isEmpty := by
    rw [queryDifferences_verdict, verdict]
  rw [hflag, List.isEmpty_eq_false_iff_exists_mem]
  simp only [Verdict.queryDifferences, List.mem_filter, beq_iff_eq]

/-- The conditions on headers fail exactly where there is a difference in a header. -/
lemma headers_verdict_eq_false_iff :
    (p.verdict r).headers = false ↔ ∃ d ∈ (p.verdict r).differences, d.criterion = .header := by
  have hflag : (p.verdict r).headers = (p.verdict r).headerDifferences.isEmpty := by
    rw [headerDifferences_verdict, verdict]
  rw [hflag, List.isEmpty_eq_false_iff_exists_mem]
  simp only [Verdict.headerDifferences, List.mem_filter, beq_iff_eq]

/-- The differences in parameters are one for each condition on a parameter that fails. -/
lemma forall₂_queryDifferences (p : RequestPattern) (r : Request) :
    List.Forall₂ (fun e d => e.2.Reported r e.1 d)
      (p.queryParameters.entries.filter fun e => ¬ e.2.Holds r e.1)
      (p.verdict r).queryDifferences := by
  rw [queryDifferences_verdict]
  apply forall₂_filterMap
  · rintro ⟨name, m⟩
    exact QueryMatcher.difference?_eq_none_iff.trans QueryMatcher.admits_iff
  · rintro ⟨name, m⟩ d hd
    exact QueryMatcher.reported_of_difference? hd

/-- The differences in headers are one for each condition on a header that fails. -/
lemma forall₂_headerDifferences (p : RequestPattern) (r : Request) :
    List.Forall₂ (fun e d => e.2.Reported e.1 d)
      (p.headers.entries.filter fun e => ¬ e.2.Holds r e.1) (p.verdict r).headerDifferences := by
  rw [headerDifferences_verdict]
  apply forall₂_filterMap
  · rintro ⟨name, m⟩
    exact HeaderMatcher.difference?_eq_none_iff.trans HeaderMatcher.admits_iff
  · rintro ⟨name, m⟩ d hd
    exact HeaderMatcher.reported_of_difference? hd

/-- Each difference in a parameter reports a condition on it. -/
lemma exists_of_mem_queryDifferences (h : d ∈ (p.verdict r).queryDifferences) :
    ∃ m, (d.name, m) ∈ p.queryParameters.entries ∧ m.Reported r d.name d := by
  rw [queryDifferences_verdict] at h
  obtain ⟨⟨name, m⟩, hm, hd⟩ := List.mem_filterMap.1 h
  have hreported := QueryMatcher.reported_of_difference? hd
  obtain rfl := hreported.name_eq
  exact ⟨m, hm, hreported⟩

end RequestPattern

/-- **The differences explain the verdict.** The conditions on parameters hold exactly where each
parameter has the values that are expected, in some order. The differences are those in parameters
and then those in headers, each time one for each condition that does not hold, in the order of the
names. There are differences in parameters exactly where the conditions on parameters fail, and so
for headers. Each difference in a parameter lists what is expected and what is there, and calls the
parameter absent exactly where the request has none of its name. -/
theorem Stub.verdict_reports (s : Stub) (r : Request) :
    ((s.verdict r).query = true ↔
      ∀ name m, (name, m) ∈ s.request.queryParameters.entries →
        m.expected.Perm (r.queryValues name)) ∧
    (s.verdict r).differences = (s.verdict r).queryDifferences ++ (s.verdict r).headerDifferences ∧
    List.Forall₂ (fun e d => e.2.Reported r e.1 d)
      (s.request.queryParameters.entries.filter fun e => ¬ e.2.Holds r e.1)
      (s.verdict r).queryDifferences ∧
    List.Forall₂ (fun e d => e.2.Reported e.1 d)
      (s.request.headers.entries.filter fun e => ¬ e.2.Holds r e.1)
      (s.verdict r).headerDifferences ∧
    ((s.verdict r).queryDifferences.Pairwise fun d d' => d.name < d'.name) ∧
    ((s.verdict r).headerDifferences.Pairwise fun d d' => d.name < d'.name) ∧
    ((s.verdict r).query = false ↔ ∃ d ∈ (s.verdict r).differences, d.criterion = .query) ∧
    ((s.verdict r).headers = false ↔ ∃ d ∈ (s.verdict r).differences, d.criterion = .header) ∧
    ∀ d ∈ (s.verdict r).differences, d.criterion = .query →
      ∃ m, (d.name, m) ∈ s.request.queryParameters.entries ∧ m.Reported r d.name d := by
  have hquery := s.request.forall₂_queryDifferences r
  have hheaders := s.request.forall₂_headerDifferences r
  refine ⟨RequestPattern.query_verdict_iff, s.request.differences_verdict r, hquery, hheaders,
    ?_, ?_, RequestPattern.query_verdict_eq_false_iff, RequestPattern.headers_verdict_eq_false_iff,
    fun d hd hcriterion => ?_⟩
  · apply pairwise_name_of_forall₂ (hquery.imp fun e d h => h.name_eq)
    exact s.request.queryParameters.increasing.filter _
  · apply pairwise_name_of_forall₂ (hheaders.imp fun e d h => h.name_eq)
    exact s.request.headers.increasing.filter _
  · apply RequestPattern.exists_of_mem_queryDifferences
    exact List.mem_filter.2 ⟨hd, beq_iff_eq.2 hcriterion⟩

/-! ## Headers that are there -/

/-- The difference tells headers that are there from others: it calls the header absent exactly
where the request has no header of its name, and otherwise it lists the first value. -/
def Difference.TellsPresence (d : Difference) (r : Request) : Prop :=
  (d.kind = .absent ↔ r.headers.values d.name = []) ∧
    ∀ v, r.headers.get? d.name = some v → d.kind = .mismatch ∧ d.actual = [Utf8.decodeLossy v]

namespace Headers

variable {h : Headers} {name : String}

/-- There is no first value exactly where there are no values. -/
lemma get?_eq_none_iff : h.get? name = none ↔ h.values name = [] :=
  List.head?_eq_none_iff

/-- The text of a header is that of its first value. -/
lemma text_of_get? {v : Bytes} (hv : h.get? name = some v) :
    h.text name = Utf8.decodeLossy v := by
  rw [text, hv]

/-- The text is empty where there is no value, and where the first value is empty. -/
lemma text_eq_empty_iff : h.text name = "" ↔ h.values name = [] ∨ h.get? name = some [] := by
  rw [← get?_eq_none_iff]
  rcases hv : h.get? name with _ | v
  · simp [text, hv]
  · simp [text_of_get? hv, Utf8.decodeLossy_eq_empty_iff]

end Headers

/-- **A header that is there is called absent** exactly where its first value is empty. All other
differences in headers tell which headers are there.

**Proof sketch.** Differences go by the text of the first value. Octets that are damaged leave a
trace in the text, so it is empty for two reasons only: there is no value, or the first value has no
octets. -/
theorem tellsPresence_iff {s : Stub} {r : Request} {d : Difference}
    (hd : d ∈ (s.verdict r).headerDifferences) :
    (d.TellsPresence r ↔ r.headers.get? d.name ≠ some []) ∧
      (r.headers.get? d.name = some [] → d.kind = .absent ∧ d.actual = []) := by
  rw [Stub.verdict, RequestPattern.headerDifferences_verdict] at hd
  obtain ⟨⟨name, m⟩, -, hdifference⟩ := List.mem_filterMap.1 hd
  obtain ⟨htext, rfl⟩ | ⟨htext, rfl⟩ := HeaderMatcher.difference?_cases hdifference
  · refine ⟨⟨?_, fun hempty => ?_⟩, fun _ => ⟨rfl, rfl⟩⟩
    · rintro ⟨-, hfirst⟩ hempty
      cases (hfirst [] hempty).1
    · have hnone := (Headers.text_eq_empty_iff.1 htext).resolve_right hempty
      refine ⟨iff_of_true rfl hnone, fun v hv => ?_⟩
      rw [Headers.get?_eq_none_iff.2 hnone] at hv
      cases hv
  · rw [ne_eq, Headers.text_eq_empty_iff, not_or] at htext
    obtain ⟨hsome, hempty⟩ := htext
    have htells : Difference.TellsPresence
        ⟨.header, .mismatch, name, [m.describe], [r.headers.text name]⟩ r := by
      refine ⟨iff_of_false (fun hkind => nomatch hkind) hsome, fun v hv => ⟨rfl, ?_⟩⟩
      rw [Headers.text_of_get? hv]
    exact ⟨iff_of_true htells hempty, fun h => absurd h hempty⟩

/-- A stub that asks for the value of a header. -/
def tenantStub : Stub :=
  { Stub.blank with
    request :=
      { RequestPattern.blank with
        url := some "/", headers := .ofList [("X-Tenant", .exactly "acme")] } }

/-- A request in which the header has these values. -/
def tenantRequest (values : List Bytes) : Request :=
  ⟨"GET", "/", .ofList (values.map fun v => ("X-Tenant", v)), []⟩

/-- A first value that is no text does not make the header absent, even if an empty one follows. -/
theorem tellsPresence_of_damaged_value :
    ∃ d ∈ (tenantStub.verdict (tenantRequest [[0xFF], []])).headerDifferences,
      d.TellsPresence (tenantRequest [[0xFF], []]) := by
  have hd : (⟨.header, .mismatch, "X-Tenant", ["equalTo acme"], ["\uFFFD"]⟩ : Difference) ∈
      (tenantStub.verdict (tenantRequest [[0xFF], []])).headerDifferences := by decide
  exact ⟨_, hd, (tellsPresence_iff hd).1.2 (by decide)⟩

/-- Not every header that is called absent is: it may be there with an empty value. -/
theorem not_forall_tellsPresence :
    ¬ ∀ (s : Stub) (r : Request), ∀ d ∈ (s.verdict r).headerDifferences, d.TellsPresence r := by
  intro h
  have hd : (⟨.header, .absent, "X-Tenant", ["equalTo acme"], []⟩ : Difference) ∈
      (tenantStub.verdict (tenantRequest [[]])).headerDifferences := by decide
  obtain ⟨-, hfirst⟩ := h tenantStub (tenantRequest [[]]) _ hd
  exact absurd (hfirst [] (by decide)).1 (by decide)

end HttpStub
