import HttpStub.Proofs.Exchange.Key
import HttpStub.Proofs.Json.Canonical

set_option autoImplicit false

/-!
# Requests that stubs cannot tell apart

Two recorded requests are the same for stubs when each fits the stub that was made from the other
one. Keys tell more requests apart: they also see the spelling of the method, the order of the
values of a parameter, and the order of members if that is kept.

## Main definitions

* `HttpStub.Exchange.canonicalBody?` — the canonical text of a body.
* `HttpStub.Exchange.SameRequest` — requests that stubs cannot tell apart.

## Main results

* `HttpStub.Exchange.sameRequest_iff_matched` — these are the requests that fit each other's stub.
* `HttpStub.Exchange.key_eq_iff_matched` — what keys tell apart besides.
-/

namespace HttpStub.Exchange

open Json (Value)

/-! ## Requests that stubs cannot tell apart -/

/-- The canonical text of the recorded body, if that is JSON. -/
def canonicalBody? (e : Exchange) : Option String :=
  (Json.parse? e.requestBody).map Value.canonical

/-- The requests agree in their methods up to letter case, in their paths, in the values of each
parameter up to their order, and in the canonical text of their bodies, where all bodies that are no
JSON count as one. -/
structure SameRequest (a b : Exchange) : Prop where
  method : Ascii.sameText a.method b.method = true
  path : a.path = b.path
  values : ∀ name, (valuesOf name a.query).Perm (valuesOf name b.query)
  body : a.canonicalBody? = b.canonicalBody?

variable {a b : Exchange} {o : SnapshotOptions}

/-- A request without parameters is one where no parameter has a value. -/
lemma query_eq_nil_iff_values {e : Exchange} :
    e.query = [] ↔ ∀ name, valuesOf name e.query = [] := by
  simp only [valuesOf_eq_nil_iff]
  constructor
  · intro h
    simp [h]
  · intro h
    refine List.eq_nil_iff_forall_not_mem.2 fun pair hpair => ?_
    exact h pair.1 (List.mem_map_of_mem hpair)

/-- The same request has values for the same parameters. -/
lemma SameRequest.values_eq_nil_iff (h : a.SameRequest b) (name : String) :
    valuesOf name a.query = [] ↔ valuesOf name b.query = [] :=
  ⟨fun hn => List.perm_nil.1 (hn ▸ h.values name).symm,
    fun hn => List.perm_nil.1 (hn ▸ h.values name)⟩

/-- The same request has parameters or has none. -/
lemma SameRequest.query_eq_nil_iff (h : a.SameRequest b) : a.query = [] ↔ b.query = [] := by
  simp only [query_eq_nil_iff_values]
  exact forall_congr' h.values_eq_nil_iff

/-- A request cannot be told apart from itself. -/
lemma SameRequest.refl (a : Exchange) : a.SameRequest a :=
  ⟨Ascii.sameText_self _, rfl, fun _ => .refl _, rfl⟩

/-- **The recorded requests that a stub fits**, while arrays stay in order. -/
lemma Plain.matched_requestWith_iff (ha : a.Plain) (ho : o.sortArrayMembers = false)
    {headers : Headers} :
    ((a.toStub o).verdict (b.requestWith headers)).matched = true ↔
      Ascii.sameText a.method b.method = true ∧
      a.path = b.path ∧ (a.query = [] → b.query = []) ∧
      (∀ name ∈ a.query.map Prod.fst, (valuesOf name a.query).Perm (valuesOf name b.query)) ∧
      ∀ text, a.canonicalBody? = some text → b.canonicalBody? = some text := by
  have hbody : (∀ v, Json.parse? a.requestBody = some v →
      ∃ w, Json.parse? b.requestBody = some w ∧ (o.normalize v).canonical = w.canonical) ↔
      ∀ text, a.canonicalBody? = some text → b.canonicalBody? = some text := by
    have hnormal : ∀ v, (o.normalize v).canonical = v.canonical := fun v => by
      rw [SnapshotOptions.normalize, ho, Json.Value.canonical_normalize]
      rfl
    simp only [hnormal, canonicalBody?, Option.map_eq_some_iff]
    constructor
    · rintro h text ⟨v, hv, rfl⟩
      obtain ⟨w, hw, heq⟩ := h v hv
      exact ⟨w, hw, heq.symm⟩
    · intro h v hv
      obtain ⟨w, hw, heq⟩ := h v.canonical ⟨v, hv, rfl⟩
      exact ⟨w, hw, heq.symm⟩
  rw [ha.matched_iff]
  exact and_congr Iff.rfl (and_congr Iff.rfl (and_congr Iff.rfl (and_congr Iff.rfl hbody)))

/-- If all recorded parameters keep their values and the names that are there are recorded, all
parameters agree. -/
lemma values_perm_of_names (hvalues : ∀ name ∈ a.query.map Prod.fst,
      (valuesOf name a.query).Perm (valuesOf name b.query))
    (hnames : ∀ name ∈ b.query.map Prod.fst, name ∈ a.query.map Prod.fst) (name : String) :
    (valuesOf name a.query).Perm (valuesOf name b.query) := by
  by_cases hname : name ∈ a.query.map Prod.fst
  · exact hvalues name hname
  · rw [valuesOf_eq_nil_iff.2 hname, valuesOf_eq_nil_iff.2 fun h => hname (hnames name h)]

/-- A parameter that keeps its values is there. -/
lemma mem_names_of_perm {name : String} (hname : name ∈ a.query.map Prod.fst)
    (h : (valuesOf name a.query).Perm (valuesOf name b.query)) : name ∈ b.query.map Prod.fst := by
  by_contra hno
  rw [valuesOf_eq_nil_iff.2 hno, List.perm_nil, valuesOf_eq_nil_iff] at h
  exact h hname

/-- **Stubs cannot tell requests apart** exactly when each fits the stub of the other one. -/
lemma sameRequest_iff_matched (ha : a.Plain) (hb : b.Plain) (ho : o.sortArrayMembers = false)
    (headers headers' : Headers) :
    a.SameRequest b ↔
      ((a.toStub o).verdict (b.requestWith headers)).matched = true ∧
        ((b.toStub o).verdict (a.requestWith headers')).matched = true := by
  rw [ha.matched_requestWith_iff ho, hb.matched_requestWith_iff ho]
  constructor
  · intro h
    have hnil := h.query_eq_nil_iff
    exact ⟨⟨h.method, h.path, hnil.1, fun name _ => h.values name, fun t ht => h.body ▸ ht⟩,
      Ascii.sameText_comm.1 h.method, h.path.symm, hnil.2, fun name _ => (h.values name).symm,
      fun t ht => h.body.symm ▸ ht⟩
  · rintro ⟨⟨hmethod, hpath, -, hvalues, hbody⟩, -, -, -, hvalues', hbody'⟩
    refine ⟨hmethod, hpath, values_perm_of_names hvalues fun name hname =>
      mem_names_of_perm hname (hvalues' name hname), Option.ext fun t => ⟨hbody t, hbody' t⟩⟩

/-! ## Requests that keys cannot tell apart -/

/-- Recorded requests have the same conditions on parameters when each parameter has the same values
in the same order. -/
lemma queryParameters_eq_iff (ha : a.Plain) (hb : b.Plain) :
    (a.requestPattern o).queryParameters = (b.requestPattern o).queryParameters ↔
      ∀ name, valuesOf name a.query = valuesOf name b.query := by
  constructor
  · intro h name
    have hiff : ∀ m : QueryMatcher,
        (name ∈ a.query.map Prod.fst ∧ m = .exactly (valuesOf name a.query)) ↔
          (name ∈ b.query.map Prod.fst ∧ m = .exactly (valuesOf name b.query)) := fun m => by
      rw [← mem_queryParameters_iff (o := o) ha.query_ne, h, mem_queryParameters_iff hb.query_ne]
    by_cases hname : name ∈ a.query.map Prod.fst
    · obtain ⟨-, hvalues⟩ := (hiff _).1 ⟨hname, rfl⟩
      exact congrArg QueryMatcher.hasExactly hvalues
    · have hname' : name ∉ b.query.map Prod.fst := fun h => hname ((hiff _).2 ⟨h, rfl⟩).1
      rw [valuesOf_eq_nil_iff.2 hname, valuesOf_eq_nil_iff.2 hname']
  · intro h
    refine Dict.ext_mem fun ⟨name, m⟩ => ?_
    rw [mem_queryParameters_iff ha.query_ne, mem_queryParameters_iff hb.query_ne, h name]
    refine and_congr_left fun _ => not_iff_not.1 ?_
    rw [← valuesOf_eq_nil_iff, ← valuesOf_eq_nil_iff, h name]

/-- Recorded requests have the same conditions on the body when their bodies have the same canonical
text, or are equal if the order of members is kept. -/
lemma bodyPatterns_eq_iff (ha : a.Plain) (hb : b.Plain) (ho : o.sortArrayMembers = false) :
    (a.requestPattern o).bodyPatterns = (b.requestPattern o).bodyPatterns ↔
      a.canonicalBody? = b.canonicalBody? ∧
        (o.preserveKeyOrder = true →
          Json.parse? a.requestBody = Json.parse? b.requestBody) := by
  rw [bodyPatterns_requestPattern, bodyPatterns_requestPattern, canonicalBody?, canonicalBody?]
  rcases hv : Json.parse? a.requestBody with _ | v <;>
    rcases hw : Json.parse? b.requestBody with _ | w
  · simp
  · simp
  · simp
  · have hiff := Json.Value.compact_normalize_eq_iff o.preserveKeyOrder
      ((Json.fits_of_parse? hv).legible (ha.floatFree v hv))
      ((Json.fits_of_parse? hw).legible (hb.floatFree w hw))
    simpa [SnapshotOptions.normalize, ho, BodyPattern.ofJsonText] using hiff

/-- **Recorded requests have the same key** exactly when they have the same method and path, the
same conditions on parameters and the same conditions on the body. -/
lemma Plain.key_eq_iff (ha : a.Plain) (hb : b.Plain) :
    (a.toStub o).key = (b.toStub o).key ↔
      a.method = b.method ∧ a.path = b.path ∧
        (a.requestPattern o).queryParameters = (b.requestPattern o).queryParameters ∧
        (a.requestPattern o).bodyPatterns = (b.requestPattern o).bodyPatterns := by
  constructor
  · intro h
    have hpattern := requestPattern_eq_of_key_eq ha.method_free ha.target_free hb.method_free
      hb.target_free h
    refine ⟨?_, ?_, by rw [hpattern], by rw [hpattern]⟩
    · rw [← method_requestPattern (e := a) (o := o), hpattern, method_requestPattern]
    · rw [← keyUrl_requestPattern (e := a) (o := o), hpattern, keyUrl_requestPattern]
  · rintro ⟨hmethod, hpath, hquery, hbody⟩
    have hkey : (a.requestPattern o).key.toList = (b.requestPattern o).key.toList := by
      simp only [RequestPattern.toList_key, RequestPattern.queryJson, RequestPattern.bodyJson,
        method_requestPattern, keyUrl_requestPattern, hmethod, hpath, hquery, hbody]
    exact String.toList_injective hkey

/-- **What keys tell apart**: recorded requests have the same key exactly when each fits the stub
that was made from the other one, and they agree as well in the spelling of the method, in the order
of the values of each parameter and, if the order of members is kept, in this order. -/
theorem key_eq_iff_matched (ha : a.Plain) (hb : b.Plain) (ho : o.sortArrayMembers = false)
    (headers headers' : Headers) :
    (a.toStub o).key = (b.toStub o).key ↔
      (((a.toStub o).verdict (b.requestWith headers)).matched = true ∧
        ((b.toStub o).verdict (a.requestWith headers')).matched = true) ∧
      a.method = b.method ∧
      (∀ name, valuesOf name a.query = valuesOf name b.query) ∧
      (o.preserveKeyOrder = true →
        Json.parse? a.requestBody = Json.parse? b.requestBody) := by
  rw [ha.key_eq_iff hb, queryParameters_eq_iff ha hb, bodyPatterns_eq_iff ha hb ho,
    ← sameRequest_iff_matched ha hb ho headers headers']
  constructor
  · rintro ⟨hmethod, hpath, hvalues, hbody, horder⟩
    refine ⟨⟨?_, hpath, fun name => ?_, hbody⟩, hmethod, hvalues, horder⟩
    · rw [hmethod, Ascii.sameText_self]
    · rw [hvalues name]
  · rintro ⟨h, hmethod, hvalues, horder⟩
    exact ⟨hmethod, h.path, hvalues, h.body, horder⟩

/-- Two parameters in either order give the same key. -/
theorem key_eq_of_swapped_parameters :
    ((unanswered "GET" "/s?q=a&p=1" []).toStub .off).key =
      ((unanswered "GET" "/s?p=1&q=a" []).toStub .off).key := by
  have hvalues : ∀ name, valuesOf name (unanswered "GET" "/s?q=a&p=1" []).query =
      valuesOf name (unanswered "GET" "/s?p=1&q=a" []).query := by
    intro name
    rw [show (unanswered "GET" "/s?q=a&p=1" []).query = [("q", "a"), ("p", "1")] by decide,
      show (unanswered "GET" "/s?p=1&q=a" []).query = [("p", "1"), ("q", "a")] by decide]
    by_cases hq : "q" = name
    · subst hq
      decide
    · simp [valuesOf, List.filter_cons, hq]
  exact (key_eq_iff_matched
    (plain_unanswered (by decide) (by decide) (by decide) (by decide) (by decide))
    (plain_unanswered (by decide) (by decide) (by decide) (by decide) (by decide)) rfl
    .empty .empty).2
    ⟨⟨by decide, by decide⟩, rfl, hvalues, fun h => absurd h (by decide)⟩

/-- Keys tell more requests apart than stubs do: the values of a parameter may come in another
order. -/
theorem not_forall_key_eq_iff_matched :
    ¬ ∀ (a b : Exchange) (o : SnapshotOptions), a.Plain → b.Plain → o.sortArrayMembers = false →
      ((a.toStub o).key = (b.toStub o).key ↔
        ((a.toStub o).verdict (b.requestWith .empty)).matched = true ∧
          ((b.toStub o).verdict (a.requestWith .empty)).matched = true) := by
  intro h
  have ha : (unanswered "GET" "/s?q=1&q=2" []).Plain :=
    plain_unanswered (by decide) (by decide) (by decide) (by decide) (by decide)
  have hb : (unanswered "GET" "/s?q=2&q=1" []).Plain :=
    plain_unanswered (by decide) (by decide) (by decide) (by decide) (by decide)
  have hkey := (h _ _ .off ha hb rfl).2 ⟨by decide, by decide⟩
  obtain ⟨-, -, hquery, -⟩ := (ha.key_eq_iff hb).1 hkey
  have hvalues := (queryParameters_eq_iff ha hb).1 hquery "q"
  exact absurd hvalues (by decide)

end HttpStub.Exchange
