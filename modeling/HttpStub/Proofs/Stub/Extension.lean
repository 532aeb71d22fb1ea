import HttpStub.Proofs.Stub.Precedence

set_option autoImplicit false

/-!
# Stubs that ask for more

A pattern can be narrowed: its conditions stay, and others are added to them. The narrower pattern
fits fewer requests, and where it fits, it comes before the wider one.

## Main definitions

* `HttpStub.RequestPattern.Narrows` — the pattern has all conditions of another one.

## Main results

* `HttpStub.RequestPattern.Narrows.matched` — what fits the narrower pattern fits the wider one.
* `HttpStub.select_narrower` — with more conditions, the wider one is not chosen where the narrower
  one fits.
-/

namespace HttpStub

/-! ## Patterns with more conditions -/

/-- The pattern asks for the method and the target that the other one asks for, and it has all
conditions of the other one on parameters, headers and body. -/
structure RequestPattern.Narrows (q p : RequestPattern) : Prop where
  method : q.method = p.method
  url : q.url = p.url
  urlPath : q.urlPath = p.urlPath
  urlPattern : q.urlPattern = p.urlPattern
  queryParameters : p.queryParameters.entries ⊆ q.queryParameters.entries
  headers : p.headers.entries ⊆ q.headers.entries
  bodyPatterns : p.bodyPatterns ⊆ q.bodyPatterns

namespace RequestPattern.Narrows

variable {p q : RequestPattern} {r : Request}

/-- A narrower pattern has the same condition on the target. -/
lemma urlMatch_eq (h : q.Narrows p) : q.urlMatch = p.urlMatch := by
  rw [urlMatch, urlMatch, h.url, h.urlPath, h.urlPattern]

/-- It judges the method in the same way. -/
lemma method_verdict_eq (h : q.Narrows p) : (q.verdict r).method = (p.verdict r).method := by
  simp only [verdict, h.method]

/-- It judges the target in the same way. -/
lemma url_verdict_eq (h : q.Narrows p) : (q.verdict r).url = (p.verdict r).url := by
  simp only [verdict, h.urlMatch_eq]

/-- Parameters that fit the narrower pattern fit the wider one. -/
lemma query_verdict (h : q.Narrows p) (hq : (q.verdict r).query = true) :
    (p.verdict r).query = true := by
  rw [query_verdict_iff] at hq ⊢
  intro name m hm
  exact hq name m (h.queryParameters hm)

/-- Headers that fit the narrower pattern fit the wider one. -/
lemma headers_verdict (h : q.Narrows p) (hq : (q.verdict r).headers = true) :
    (p.verdict r).headers = true := by
  rw [headers_verdict_iff] at hq ⊢
  intro name m hm
  exact hq name m (h.headers hm)

/-- A body that fits the narrower pattern fits the wider one. -/
lemma body_verdict (h : q.Narrows p) (hq : (q.verdict r).body = true) :
    (p.verdict r).body = true := by
  rw [body_verdict_iff] at hq ⊢
  intro b hb
  exact hq b (h.bodyPatterns hb)

/-- **What fits the narrower pattern fits the wider one.** -/
lemma matched (h : q.Narrows p) (hq : (q.verdict r).matched = true) :
    (p.verdict r).matched = true := by
  obtain ⟨hmethod, hurl, hquery, hbody, hheaders⟩ := Verdict.matched_iff.1 hq
  apply Verdict.matched_iff.2
  refine ⟨?_, ?_, h.query_verdict hquery, h.body_verdict hbody, h.headers_verdict hheaders⟩
  · rw [← h.method_verdict_eq, hmethod]
  · rw [← h.url_verdict_eq, hurl]

end RequestPattern.Narrows

/-! ## Stubs with more conditions -/

/-- Of two stubs with the same condition on the target, the one with more conditions asks for
more. -/
lemma Stub.specificity_lt_of_urlMatch_eq {s t : Stub}
    (h : s.request.urlMatch = t.request.urlMatch) (hlt : s.conditionCount < t.conditionCount) :
    s.specificity < t.specificity := by
  by_cases hexact : s.AsksExactly
  · have hexact' : t.AsksExactly := by
      obtain ⟨target, htarget⟩ := hexact
      exact ⟨target, h ▸ htarget⟩
    rw [specificity_of_asksExactly hexact, specificity_of_asksExactly hexact']
    omega
  · have hexact' : ¬ t.AsksExactly := by
      rintro ⟨target, htarget⟩
      exact hexact ⟨target, h ▸ htarget⟩
    rw [specificity_of_not_asksExactly hexact, specificity_of_not_asksExactly hexact']
    exact hlt

/-- **A narrower stub fits less and comes first.** Each request that fits the narrower stub fits the
wider one. If the narrower stub has more conditions, then in every list with it, for each request
that fits it, a stub that fits is chosen, its pattern is not that of the wider one, and the wider
one does not stand at the place that is named.

**Proof sketch.** The two stubs agree in the condition on the target, so the narrower one asks for
more. The stub that is chosen asks for as much or more than the narrower one, so it cannot have the
pattern of the wider one. -/
theorem select_narrower {a b : Stub} (h : b.request.Narrows a.request) :
    (∀ r, (b.verdict r).matched = true → (a.verdict r).matched = true) ∧
      (a.conditionCount < b.conditionCount →
        ∀ (r : Request) (stubs : List Stub), b ∈ stubs → (b.verdict r).matched = true →
          (select r stubs).matched = true ∧
          (∃ c ∈ stubs, (select r stubs).stub = some c ∧ (c.verdict r).matched = true ∧
            c.request ≠ a.request) ∧
          ∀ i, (select r stubs).index = some i → stubs[i]? ≠ some a) := by
  refine ⟨fun r hfit => h.matched hfit, fun hlt r stubs hb hfit => ?_⟩
  obtain ⟨c, hc, hmatched, hselect, hcfit, hbest⟩ := exists_select_of_matched hb hfit
  have hmore : a.specificity < c.specificity := by
    have hab := Stub.specificity_lt_of_urlMatch_eq h.urlMatch_eq.symm hlt
    have hbc := hbest b hb hfit
    omega
  have hne : c.request ≠ a.request := by
    intro heq
    have hsame : c.specificity = a.specificity := by rw [Stub.specificity, heq, Stub.specificity]
    omega
  refine ⟨hmatched, ⟨c, hc, hselect, hcfit, hne⟩, fun i hi ha => ?_⟩
  obtain ⟨s, hs, hstub, -⟩ := exists_stub_of_select_index hi
  obtain rfl : c = s := Option.some.inj (hselect.symm.trans hstub)
  obtain rfl : c = a := Option.some.inj (hs.symm.trans ha)
  exact hne rfl

/-! ## A search in two widths -/

/-- A stub for a search that asks for one parameter. -/
def wideSearch : Stub :=
  { Stub.blank with
    request :=
      { RequestPattern.blank with
        urlPath := some "/search", queryParameters := .ofList [("q", .single "a")] } }

/-- The same with another parameter, which may come in any order, a condition on the body and one
on a header that every value satisfies. -/
def narrowSearch : Stub :=
  { Stub.blank with
    request :=
      { RequestPattern.blank with
        urlPath := some "/search",
        queryParameters := .ofList [("q", .single "a"), ("p", .exactly ["1", "2"])],
        bodyPatterns := [.ofJsonText "1"], headers := .ofList [("Accept", .any)] } }

/-- A search that fits both. -/
def searchRequest : Request :=
  ⟨"POST", "/search?p=2&q=a&p=1", .empty, Utf8.encode "1"⟩

/-- The second pattern has all conditions of the first one. -/
lemma narrows_narrowSearch : narrowSearch.request.Narrows wideSearch.request := by
  refine ⟨rfl, rfl, rfl, rfl, ?_, List.nil_subset _, List.nil_subset _⟩
  intro e he
  obtain rfl : e = ("q", .single "a") := List.mem_singleton.1 he
  decide

/-- The narrower stub is chosen over the wider one, although it was added later. -/
theorem select_narrowSearch :
    narrowSearch.request.Narrows wideSearch.request ∧
      wideSearch.conditionCount < narrowSearch.conditionCount ∧
      (narrowSearch.verdict searchRequest).matched = true ∧
      (wideSearch.verdict searchRequest).matched = true ∧
      (select searchRequest [wideSearch, narrowSearch]).stub = some narrowSearch := by
  have hcount : wideSearch.conditionCount < narrowSearch.conditionCount := by decide
  have hfit : (narrowSearch.verdict searchRequest).matched = true := by rfl
  obtain ⟨hwide, hchosen⟩ := select_narrower narrows_narrowSearch
  obtain ⟨-, ⟨c, hc, hselect, -, hne⟩, -⟩ :=
    hchosen hcount searchRequest [wideSearch, narrowSearch] (by simp) hfit
  refine ⟨narrows_narrowSearch, hcount, hfit, hwide searchRequest hfit, ?_⟩
  rcases List.mem_cons.1 hc with rfl | hc
  · exact absurd rfl hne
  · rw [hselect, List.mem_singleton.1 hc]

end HttpStub
