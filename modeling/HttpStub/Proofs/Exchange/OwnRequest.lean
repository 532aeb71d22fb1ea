import HttpStub.Proofs.Exchange.Pattern
import HttpStub.Proofs.Json.Canonical

set_option autoImplicit false

/-!
# A stub and the request that it was made from

A stub is of use only if the request that it was made from comes back to it. Two choices stand
against this. An empty query counts as none, and the pattern then asks for the path as the whole
target. And the arrays of a body may be sorted, although they are compared in order.

## Main results

* `HttpStub.Exchange.own_target_fits_iff` — when a stub fits the target that it was made from.
* `HttpStub.Exchange.own_body_fits_iff` — when a stub fits the body that it was made from.
-/

namespace HttpStub.Exchange

open Json (Value)

variable {e : Exchange} {o : SnapshotOptions} {r : Request}

/-! ## The target -/

/-- Without a query, and with an empty one, there are no conditions on parameters. -/
lemma query_verdict_of_no_query (h : nonEmpty? (splitTarget e.target).2 = none) :
    ((e.requestPattern o).verdict r).query = true := by
  rw [RequestPattern.query_verdict_iff, requestPattern_of_no_query h]
  simp [RequestPattern.blank, Dict.empty]

/-- The path before an empty query is not the whole target. -/
lemma url_verdict_of_empty_query (hpath : e.path ≠ "")
    (h : (splitTarget e.target).2 = some "") (hr : r.target = e.target) :
    ((e.requestPattern o).verdict r).url = false := by
  have htarget : e.target = e.path ++ "?" ++ "" := eq_append_of_splitTarget (Prod.ext rfl h)
  have hne : e.path ≠ e.target := by
    intro heq
    have hlen := congrArg String.length (heq.trans htarget)
    simp at hlen
  simp only [RequestPattern.verdict, urlMatch_of_no_query hpath (by rw [h]; rfl), UrlMatch.admits,
    hr, beq_eq_false_iff_ne]
  exact hne

/-- **A stub fits the target that it was made from**, unless this target ends in an empty query;
its conditions on parameters always hold. -/
theorem own_target_fits_iff (hpath : e.path ≠ "") (hr : r.target = e.target) :
    ((e.toStub o).verdict r).query = true ∧
      (((e.toStub o).verdict r).url = true ↔ (splitTarget e.target).2 ≠ some "") := by
  by_cases h : (splitTarget e.target).2 = some ""
  · refine ⟨query_verdict_of_no_query (by rw [h]; rfl), ?_⟩
    simp [Stub.verdict, toStub, url_verdict_of_empty_query hpath h hr, h]
  · refine ⟨(query_verdict_iff h).2 fun name _ => ?_, iff_of_true ?_ h⟩
    · rw [Request.queryValues, query_of_target_eq hr]
    · exact (url_verdict_iff hpath h).2
        ⟨(path_of_target_eq hr).symm, fun hq => (query_of_target_eq hr).trans hq⟩

/-- A search comes back to its own stub. -/
theorem own_search_fits :
    (((unanswered "GET" "/search?tag=b&q=&tag=a" []).toStub .off).verdict
      (.ofTarget "GET" "/search?tag=b&q=&tag=a")).url = true :=
  (own_target_fits_iff (by decide) rfl).2.2 (by decide)

/-- Not every target comes back to the stub that was made from it: an empty query is not asked
for. -/
theorem not_forall_own_target_fits :
    ¬ ∀ (e : Exchange) (o : SnapshotOptions), e.path ≠ "" →
      ((e.toStub o).verdict (.ofTarget e.method e.target)).url = true ∧
        ((e.toStub o).verdict (.ofTarget e.method e.target)).query = true := by
  intro h
  have hurl := (h (unanswered "GET" "/api/users?" []) .off (by decide)).1
  exact absurd hurl (by decide)

/-! ## The body -/

/-- The recorded body fits if its normal form has its canonical text. -/
lemma body_verdict_own_iff {v : Value} (hv : Json.parse? e.requestBody = some v)
    (hf : v.floatFree = true) (hr : r.body = e.requestBody) :
    ((e.requestPattern o).verdict r).body = true ↔
      (o.normalize v).canonical = v.canonical := by
  have hfree : ∀ w, Json.parse? e.requestBody = some w → w.floatFree = true := by
    intro w hw
    obtain rfl : v = w := Option.some.inj (hv.symm.trans hw)
    exact hf
  rw [body_verdict_iff hfree, hr, hv]
  simp

/-- **A stub fits the body that it was made from**, unless arrays are sorted and those of the body
were not. -/
theorem own_body_fits_iff {v : Value} (hv : Json.parse? e.requestBody = some v)
    (hf : v.floatFree = true) (hr : r.body = e.requestBody) :
    ((e.toStub o).verdict r).body = true ↔ (o.sortArrayMembers = true → v.ArraysSorted) := by
  rw [Stub.verdict, toStub, body_verdict_own_iff hv hf hr, SnapshotOptions.normalize,
    Json.Value.canonical_normalize]
  cases o.sortArrayMembers with
  | false => simp
  | true =>
    simp only [if_true, forall_const]
    exact Json.Value.canonical_sortArrays_eq_iff ((Json.fits_of_parse? hv).legible hf)

/-- The body `[2,1]`, as octets. -/
def unsortedBody : Bytes :=
  [0x5B, 0x32, 0x2C, 0x31, 0x5D]

/-- The value of the body `[2,1]`. -/
def unsortedValue : Value :=
  .array [.number (.ofNat 2), .number (.ofNat 1)]

/-- The value that the body `[2,1]` is read as. -/
lemma parse?_unsortedBody : Json.parse? unsortedBody = some unsortedValue := by
  rfl

/-- Its items are not in the order of their canonical texts. -/
lemma not_arraysSorted_unsortedValue : ¬ unsortedValue.ArraysSorted := by
  rintro ⟨hsorted, -⟩
  have hle := (List.pairwise_cons.1 hsorted).1 _ List.mem_cons_self
  exact absurd hle (by decide)

/-- A body comes back to its own stub while its arrays stay in order. -/
theorem own_unsorted_body_fits :
    (((unanswered "POST" "/api" unsortedBody).toStub .off).verdict
      ⟨"POST", "/api", .empty, unsortedBody⟩).body = true :=
  (own_body_fits_iff parse?_unsortedBody (by decide) rfl).2 fun hsort => absurd hsort (by decide)

/-- Not every body comes back to the stub that was made from it: arrays may be sorted. -/
theorem not_forall_own_body_fits :
    ¬ ∀ (e : Exchange) (o : SnapshotOptions) (v : Value), e.requestBody ≠ [] →
      Json.parse? e.requestBody = some v → v.floatFree = true →
        ((e.toStub o).verdict (e.requestWith .empty)).body = true := by
  intro h
  have hbody := h (unanswered "POST" "/api" unsortedBody)
    { SnapshotOptions.off with sortArrayMembers := true } unsortedValue (by decide)
    parse?_unsortedBody (by decide)
  have hcanonical := (body_verdict_own_iff parse?_unsortedBody (by decide) rfl).1 hbody
  rw [SnapshotOptions.normalize, Json.Value.canonical_normalize] at hcanonical
  exact not_arraysSorted_unsortedValue
    ((Json.Value.canonical_sortArrays_eq_iff
      ((Json.fits_of_parse? parse?_unsortedBody).legible (by decide))).1 hcanonical)

end HttpStub.Exchange
