import HttpStub.Http.Request
import HttpStub.Proofs.Text.Split

set_option autoImplicit false

/-!
# Targets and their parts

## Main results

* `HttpStub.eq_path_of_splitTarget`, `HttpStub.eq_append_of_splitTarget` — a target from its parts.
* `HttpStub.splitTarget_append` — the parts of a target that is made of a path and a query.
* `HttpStub.Request.query_eq_nil_iff` — the requests without parameters.
* `HttpStub.valuesOf_eq_nil_iff` — the parameters that have no values.
* `HttpStub.valuesOf_perm` — the order of other parameters does not matter to a parameter.
-/

namespace HttpStub

/-! ## Path and query -/

section SplitTarget

variable {target path query : String}

/-- A target without a query is its path. -/
lemma eq_path_of_splitTarget (h : splitTarget target = (path, none)) : target = path := by
  unfold splitTarget at h
  split at h
  · simp at h
  · simpa using h

/-- A target with a query is its path and its query, with a question mark between them. -/
lemma eq_append_of_splitTarget (h : splitTarget target = (path, some query)) :
    target = path ++ "?" ++ query := by
  unfold splitTarget at h
  split at h
  · next before after hcut =>
    simp only [Prod.mk.injEq, Option.some.injEq] at h
    obtain ⟨rfl, rfl⟩ := h
    obtain ⟨htarget, -⟩ := Text.cut?_eq_some_iff.1 hcut
    apply String.toList_injective
    simp [htarget]
  · simp at h

/-- A path without a question mark, and what follows it after one, are the parts of the target. -/
lemma splitTarget_append (h : '?' ∉ path.toList) :
    splitTarget (path ++ "?" ++ query) = (path, some query) := by
  have hcut : Text.cut? '?' (path ++ "?" ++ query).toList = some (path.toList, query.toList) := by
    apply Text.cut?_eq_some_iff.2
    exact ⟨by simp, h⟩
  simp only [splitTarget, hcut, String.ofList_toList]

/-- The characters of the path are characters of the target. -/
lemma mem_of_mem_path {c : Char} (h : c ∈ (splitTarget target).1.toList) : c ∈ target.toList := by
  rcases hs : splitTarget target with ⟨path, _ | query⟩
  · rw [eq_path_of_splitTarget hs]
    simpa [hs] using h
  · rw [eq_append_of_splitTarget hs]
    have hmem : c ∈ path.toList := by simpa [hs] using h
    simp [hmem]

end SplitTarget

/-! ## Parameters -/

/-- A query has a parameter, whatever its text. -/
lemma queryPairs_ne_nil (query : String) : queryPairs query ≠ [] := by
  simp [queryPairs, Text.pieces_ne_nil]

/-- **The requests without parameters** are those without a question mark in the target. -/
lemma Request.query_eq_nil_iff {r : Request} : r.query = [] ↔ (splitTarget r.target).2 = none := by
  unfold Request.query
  rcases (splitTarget r.target).2 with _ | q
  · simp
  · simpa using queryPairs_ne_nil q

/-- Without parameters the path is the whole target. -/
lemma Request.target_eq_path {r : Request} (h : r.query = []) : r.target = r.path :=
  eq_path_of_splitTarget (Prod.ext rfl (query_eq_nil_iff.1 h))

/-- A parameter has no values where no pair has its name. -/
lemma valuesOf_eq_nil_iff {name : String} {pairs : List (String × String)} :
    valuesOf name pairs = [] ↔ name ∉ pairs.map Prod.fst := by
  simp only [valuesOf, List.map_eq_nil_iff, List.filter_eq_nil_iff, beq_iff_eq, List.mem_map,
    not_exists, not_and]

/-- The values of a parameter in two lists of pairs, one after the other. -/
lemma valuesOf_append (name : String) (pairs pairs' : List (String × String)) :
    valuesOf name (pairs ++ pairs') = valuesOf name pairs ++ valuesOf name pairs' := by
  rw [valuesOf, List.filter_append, List.map_append, valuesOf, valuesOf]

/-- Parameters in another order have the same values up to their order. -/
lemma valuesOf_perm {pairs pairs' : List (String × String)} (h : pairs.Perm pairs')
    (name : String) : (valuesOf name pairs).Perm (valuesOf name pairs') :=
  (h.filter _).map _

end HttpStub
