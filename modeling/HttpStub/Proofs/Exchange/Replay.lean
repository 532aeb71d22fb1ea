import HttpStub.Proofs.Exchange.SameRequest
import HttpStub.Proofs.Exchange.Snapshot
import HttpStub.Proofs.Stub.Selection
import Mathlib.Data.List.Perm.Subperm

set_option autoImplicit false

/-!
# Replay of a recording

The stubs of a recording overlap: one that asks for fewer parameters, or for no body, also fits the
requests that others were made from. The choice of the most specific stub still leads every recorded
request to a stub that asks for just this request, because a stub that fits and asks for as much as
the own one asks for the same.

## Main definitions

* `HttpStub.Stub.Repeats` — the stub asks for the request of an exchange.

## Main results

* `HttpStub.Exchange.sameRequest_of_specificity_le` — a stub that fits and asks for as much as the
  own stub of a request was made from the same request.
* `HttpStub.select_snapshot_repeats` — every recorded request is led to a stub that asks for it.
-/

namespace HttpStub

open Json (Value)

namespace Exchange

variable {a b e : Exchange} {o : SnapshotOptions}

/-! ## How much a stub asks for -/

/-- The names of the parameters that the pattern of the exchange asks for. -/
def askedNames (e : Exchange) (o : SnapshotOptions) : List String :=
  (e.requestPattern o).queryParameters.entries.map Prod.fst

/-- A stub asks for a parameter once. -/
lemma nodup_askedNames : (e.askedNames o).Nodup :=
  (e.requestPattern o).queryParameters.nodup_keys

/-- A stub asks for the parameters of its own request. -/
lemma mem_askedNames_iff (he : e.Plain) {name : String} :
    name ∈ e.askedNames o ↔ name ∈ e.query.map Prod.fst := by
  simp only [askedNames, List.mem_map, Prod.exists, exists_and_right, exists_eq_right,
    mem_queryParameters_iff he.query_ne]

/-- How much the stub of a plain request asks for: its parameters, its body, and its target if there
are no parameters. -/
lemma Plain.specificity_toStub (he : e.Plain) :
    (e.toStub o).specificity =
      (e.askedNames o).length + e.canonicalBody?.toList.length +
        if e.query = [] then exactUrlWeight else 0 := by
  have hbody : (e.requestPattern o).bodyPatterns.length = e.canonicalBody?.toList.length := by
    rw [bodyPatterns_requestPattern, canonicalBody?]
    cases Json.parse? e.requestBody <;> rfl
  have hheaders : (e.requestPattern o).headers.size = 0 := by
    rw [headers_requestPattern]
    rfl
  have hnames : (e.requestPattern o).queryParameters.size = (e.askedNames o).length :=
    (List.length_map _).symm
  simp only [Stub.specificity, toStub, urlMatch_requestPattern he.path_ne he.query_ne, hbody,
    hheaders, hnames, Nat.add_zero]
  by_cases hq : e.query = []
  · simp only [if_pos hq]
  · simp only [if_neg hq, Nat.add_zero]

/-- **A stub that fits a request and asks for as much as its own stub** was made from the same
request.

**Proof sketch.** The stub has no more conditions of any kind than the own one: the names that it
asks for are names of the request, and it has a condition on the body only if the body is JSON. As
it asks for as much in total, it has as many conditions of each kind, so the names are all names of
the request, and a body is asked for if there is one. -/
lemma sameRequest_of_specificity_le (ha : a.Plain) (hb : b.Plain) (ho : o.sortArrayMembers = false)
    {headers : Headers} (hfit : ((a.toStub o).verdict (b.requestWith headers)).matched = true)
    (hle : (b.toStub o).specificity ≤ (a.toStub o).specificity) : a.SameRequest b := by
  obtain ⟨hmethod, hpath, hnil, hvalues, hbody⟩ := (ha.matched_requestWith_iff ho).1 hfit
  have hsub : a.askedNames o ⊆ b.askedNames o := by
    intro name hname
    rw [mem_askedNames_iff ha] at hname
    exact (mem_askedNames_iff hb).2 (mem_names_of_perm hname (hvalues name hname))
  have hsubperm := nodup_askedNames.subperm hsub
  have hquery : a.query = [] ↔ b.query = [] := by
    refine ⟨hnil, fun hbq => ?_⟩
    by_contra haq
    obtain ⟨pair, hpair⟩ := List.exists_mem_of_ne_nil _ haq
    have hname := List.mem_map_of_mem (f := Prod.fst) hpair
    have := mem_names_of_perm hname (hvalues _ hname)
    simp [hbq] at this
  rw [ha.specificity_toStub, hb.specificity_toStub] at hle
  have hweight : (if a.query = [] then exactUrlWeight else 0) =
      if b.query = [] then exactUrlWeight else 0 := by simp only [hquery]
  have hnames := hsubperm.length_le
  have hcount : a.canonicalBody?.toList.length ≤ b.canonicalBody?.toList.length := by
    rcases hca : a.canonicalBody? with _ | text
    · simp
    · simp [hbody text hca]
  have hperm := hsubperm.perm_of_length_le (by omega)
  refine ⟨hmethod, hpath, values_perm_of_names hvalues fun name hname => ?_, ?_⟩
  · rw [← mem_askedNames_iff hb (o := o), ← hperm.mem_iff] at hname
    exact (mem_askedNames_iff ha).1 hname
  · rcases hca : a.canonicalBody? with _ | text
    · rcases hcb : b.canonicalBody? with _ | text
      · rfl
      · simp only [hca, hcb, Option.toList_none, Option.toList_some, List.length_nil,
          List.length_singleton] at hle hcount
        omega
    · exact (hbody text hca).symm

end Exchange

/-! ## The stub that a recorded request is led to -/

/-- The stub asks for the request of the exchange as the own stub of the exchange does: for the same
method up to letter case, the same target, the same parameters with the same values up to their
order, and for a body if the own stub does, with the canonical text of the recorded one. -/
structure Stub.Repeats (s : Stub) (o : SnapshotOptions) (e : Exchange) : Prop where
  method : Ascii.sameText s.request.method e.method = true
  url : s.request.url = (e.toStub o).request.url
  urlPath : s.request.urlPath = (e.toStub o).request.urlPath
  names : ∀ name, name ∈ s.request.queryParameters.entries.map Prod.fst ↔
    name ∈ (e.toStub o).request.queryParameters.entries.map Prod.fst
  values : ∀ name m m', (name, m) ∈ s.request.queryParameters.entries →
    (name, m') ∈ (e.toStub o).request.queryParameters.entries → m.expected.Perm m'.expected
  body : s.request.bodyPatterns = [] ∧ (e.toStub o).request.bodyPatterns = [] ∨
    ∃ text own v w, s.request.bodyPatterns = [.ofJsonText text] ∧
      (e.toStub o).request.bodyPatterns = [.ofJsonText own] ∧
      Json.parseString? text = some v ∧ Json.parse? e.requestBody = some w ∧
      v.canonical = w.canonical

namespace Exchange

variable {a b : Exchange} {o : SnapshotOptions}

/-- The target of a pattern is stated by the same member for requests that stubs cannot tell
apart. -/
lemma SameRequest.url_eq (h : a.SameRequest b) (ha : a.Plain) (hb : b.Plain) :
    (a.requestPattern o).url = (b.requestPattern o).url ∧
      (a.requestPattern o).urlPath = (b.requestPattern o).urlPath := by
  rcases requestPattern_cases (o := o) ha.query_ne with ⟨hqa, hpa⟩ | ⟨hqa, q, -, hpa⟩ <;>
    rcases requestPattern_cases (o := o) hb.query_ne with ⟨hqb, hpb⟩ | ⟨hqb, q', -, hpb⟩
  · rw [hpa, hpb, h.path]
    exact ⟨rfl, rfl⟩
  · exact absurd (h.query_eq_nil_iff.1 hqa) hqb
  · exact absurd (h.query_eq_nil_iff.2 hqb) hqa
  · rw [hpa, hpb, h.path]
    exact ⟨rfl, rfl⟩

/-- The stub of a request that stubs cannot tell apart asks for the request. -/
lemma SameRequest.repeats (h : a.SameRequest b) (ha : a.Plain) (hb : b.Plain)
    (ho : o.sortArrayMembers = false) : (a.toStub o).Repeats o b where
  method := by
    rw [toStub, method_requestPattern]
    exact h.method
  url := (h.url_eq ha hb).1
  urlPath := (h.url_eq ha hb).2
  names name := by
    have hnil := h.values_eq_nil_iff name
    rw [valuesOf_eq_nil_iff, valuesOf_eq_nil_iff] at hnil
    exact (mem_askedNames_iff ha).trans ((not_iff_not.1 hnil).trans (mem_askedNames_iff hb).symm)
  values name m m' hm hm' := by
    obtain ⟨-, rfl⟩ := (mem_queryParameters_iff ha.query_ne).1 hm
    obtain ⟨-, rfl⟩ := (mem_queryParameters_iff hb.query_ne).1 hm'
    exact h.values name
  body := by
    have hbody := h.body
    simp only [canonicalBody?] at hbody
    rcases hv : Json.parse? a.requestBody with _ | v <;>
      rcases hw : Json.parse? b.requestBody with _ | w <;>
        simp only [hv, hw, Option.map_none, Option.map_some, reduceCtorEq,
          Option.some.injEq] at hbody
    · left
      simp [toStub, bodyPatterns_requestPattern, hv, hw]
    · right
      refine ⟨(o.normalize v).compact, (o.normalize w).compact, o.normalize v, w,
        by simp [toStub, bodyPatterns_requestPattern, hv],
        by simp [toStub, bodyPatterns_requestPattern, hw],
        parseString?_normalize (ha.floatFree v hv) (Json.fits_of_parse? hv), rfl, ?_⟩
      rw [SnapshotOptions.normalize, ho, Json.Value.canonical_normalize]
      exact hbody

end Exchange

variable {o : SnapshotOptions} {es : List Exchange} {e : Exchange}

/-- **Every recorded request is led to a stub that asks for it.**

**Proof sketch.** The recording has a stub with the key of the own one, hence with its pattern
(`Exchange.requestPattern_eq_of_key_eq`), so it fits and the stub that is chosen asks for at least
as much. The chosen stub was made from a recorded request as well, so it was made from the same
request (`Exchange.sameRequest_of_specificity_le`). -/
theorem select_snapshot_repeats (ho : o.repeatsAsScenarios = false)
    (hsort : o.sortArrayMembers = false) (hes : ∀ e ∈ es, e.Plain) (he : e ∈ es)
    (headers : Headers) :
    (select (e.requestWith headers) (snapshot o es)).matched = true ∧
      ∃ s ∈ snapshot o es, (select (e.requestWith headers) (snapshot o es)).stub = some s ∧
        s.Repeats o e := by
  obtain ⟨own, hown, hkey, hmem⟩ := exists_mem_deduplicated (o := o) he
  have hpattern : own.requestPattern o = e.requestPattern o :=
    Exchange.requestPattern_eq_of_key_eq (hes own hown).method_free (hes own hown).target_free
      (hes e he).method_free (hes e he).target_free hkey
  have hfit : ((own.toStub o).verdict (e.requestWith headers)).matched = true := by
    have hself := ((Exchange.sameRequest_iff_matched (hes e he) (hes e he) hsort headers
      headers).1 (.refl e)).1
    rwa [Stub.verdict, Exchange.toStub, ← hpattern] at hself
  obtain ⟨s, hs, hmatched, hstub, hfits, hmax⟩ :=
    exists_select_of_matched ((mem_snapshot_iff ho).2 hmem) hfit
  obtain ⟨l, c, r, hsplit, rfl, -⟩ := mem_deduplicated_iff.1 ((mem_snapshot_iff ho).1 hs)
  have hc : c ∈ es := by simp [hsplit]
  have hle : (e.toStub o).specificity ≤ (c.toStub o).specificity := by
    have hown := hmax _ ((mem_snapshot_iff ho).2 hmem) hfit
    rwa [Stub.specificity, Exchange.toStub, hpattern] at hown
  have hsame : c.SameRequest e :=
    Exchange.sameRequest_of_specificity_le (hes c hc) (hes e he) hsort hfits hle
  exact ⟨hmatched, _, hs, hstub, hsame.repeats (hes c hc) (hes e he) hsort⟩

/-- Of two requests, one with a parameter more than the other, the longer one is led to a stub that
asks for both parameters. -/
theorem select_longer_query_repeats :
    (select ((Exchange.unanswered "GET" "/list?a=1&b=2" []).requestWith .empty)
        (snapshot .off [.unanswered "GET" "/list?a=1&b=2" [],
          .unanswered "GET" "/list?a=1" []])).matched = true ∧
      ∃ s ∈ snapshot .off [.unanswered "GET" "/list?a=1&b=2" [], .unanswered "GET" "/list?a=1" []],
        (select ((Exchange.unanswered "GET" "/list?a=1&b=2" []).requestWith .empty)
          (snapshot .off [.unanswered "GET" "/list?a=1&b=2" [],
            .unanswered "GET" "/list?a=1" []])).stub = some s ∧
        s.Repeats .off (.unanswered "GET" "/list?a=1&b=2" []) := by
  refine select_snapshot_repeats rfl rfl ?_ List.mem_cons_self .empty
  rw [List.forall_mem_cons, List.forall_mem_singleton]
  exact ⟨Exchange.plain_unanswered (by decide) (by decide) (by decide) (by decide) (by decide),
    Exchange.plain_unanswered (by decide) (by decide) (by decide) (by decide) (by decide)⟩

end HttpStub
