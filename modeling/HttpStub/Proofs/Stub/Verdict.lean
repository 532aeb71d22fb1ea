import HttpStub.Stub.Verdict
import Mathlib.Data.List.Basic

set_option autoImplicit false

/-!
# What a verdict says

Each condition of a verdict, as a statement on the pattern and the request.

## Main results

* `HttpStub.jsonEqual_iff` — when a body is JSON equal to an expected value.
* `HttpStub.RequestPattern.query_verdict_iff`, `HttpStub.RequestPattern.headers_verdict_iff`,
  `HttpStub.RequestPattern.body_verdict_iff` — when the conditions on parameters, headers and body
  hold.
* `HttpStub.Verdict.matched_iff` — when a stub fits.
-/

namespace HttpStub

/-! ## Texts that are given -/

/-- A text that is not empty is given. -/
lemma nonEmpty?_some {s : String} (h : s ≠ "") : nonEmpty? (some s) = some s :=
  if_neg (by simpa using h)

/-! ## Methods -/

/-- Being the same up to letter case is symmetric. -/
lemma Ascii.sameText_comm {a b : String} : sameText a b = true ↔ sameText b a = true := by
  rw [sameText_iff, sameText_iff]
  exact eq_comm

/-- A method that is not the one for all methods admits those that differ in letter case. -/
lemma methodMatches_iff {expected actual : String}
    (h : Ascii.sameText expected anyMethod = false) :
    methodMatches expected actual = true ↔ Ascii.sameText expected actual = true := by
  rw [methodMatches, h, Bool.or_false]

/-! ## Bodies -/

/-- **A body is JSON equal** to an expected value when both are values with the same canonical
text. -/
lemma jsonEqual_iff {expected : Json.Value} {body : Bytes} :
    jsonEqual expected body = true ↔
      ∃ v w, expectedJson? expected = some v ∧ Json.parse? body = some w ∧
        v.canonical = w.canonical := by
  unfold jsonEqual
  split
  · next v w hv hw =>
    rw [Json.Value.same, beq_iff_eq]
    constructor
    · exact fun h => ⟨v, w, hv, hw, h⟩
    · rintro ⟨v', w', hv', hw', h⟩
      obtain rfl : v = v' := Option.some.inj (hv ▸ hv')
      obtain rfl : w = w' := Option.some.inj (hw ▸ hw')
      exact h
  · next hno =>
    simp only [Bool.false_eq_true, false_iff, not_exists, not_and]
    exact fun v w hv hw => absurd hw (hno v w hv)

/-- A body satisfies the condition that a JSON text states when both are values with the same
canonical text. -/
lemma admits_ofJsonText_iff {text : String} {body : Bytes} :
    (BodyPattern.ofJsonText text).admits body = true ↔
      ∃ v w, Json.parseString? text = some v ∧ Json.parse? body = some w ∧
        v.canonical = w.canonical :=
  jsonEqual_iff

/-! ## Parameters and headers -/

/-- A condition on a parameter admits the expected values in any order. -/
lemma QueryMatcher.admits_iff {m : QueryMatcher} {actual : List String} :
    m.admits actual = true ↔ m.expected.Perm actual :=
  List.isPerm_iff

/-- There is no difference in a parameter exactly if its values are admitted. -/
lemma QueryMatcher.difference?_eq_none_iff {r : Request} {name : String} {m : QueryMatcher} :
    m.difference? r name = none ↔ m.admits (r.queryValues name) = true := by
  simp [difference?]

/-- There is no difference in a header exactly if its text is admitted. -/
lemma HeaderMatcher.difference?_eq_none_iff {r : Request} {name : String} {m : HeaderMatcher} :
    m.difference? r name = none ↔ m.admits (r.headers.text name) = true := by
  unfold difference?
  dsimp only
  by_cases h : m.admits (r.headers.text name) = true
  · simp [h]
  · rw [if_neg h]
    by_cases hempty : (r.headers.text name).isEmpty = true <;> simp [h, hempty]

namespace RequestPattern

variable {p : RequestPattern} {r : Request}

/-- **The conditions on parameters hold** when each parameter has its expected values in some
order. -/
lemma query_verdict_iff :
    (p.verdict r).query = true ↔
      ∀ name m, (name, m) ∈ p.queryParameters.entries →
        m.expected.Perm (r.queryValues name) := by
  simp only [verdict, queryDifferences, List.isEmpty_iff, List.filterMap_eq_nil_iff, Prod.forall,
    QueryMatcher.difference?_eq_none_iff, QueryMatcher.admits_iff]

/-- **The conditions on headers hold** when the first value of each header satisfies its
condition. -/
lemma headers_verdict_iff :
    (p.verdict r).headers = true ↔
      ∀ name m, (name, m) ∈ p.headers.entries → m.admits (r.headers.text name) = true := by
  simp only [verdict, headerDifferences, List.isEmpty_iff, List.filterMap_eq_nil_iff, Prod.forall,
    HeaderMatcher.difference?_eq_none_iff]

/-- Without conditions on headers there is nothing that could fail. -/
lemma headers_verdict_of_isEmpty (h : p.headers.entries = []) :
    (p.verdict r).headers = true := by
  simp [verdict, headerDifferences, h]

/-- A body fits if each condition admits it. -/
lemma body_verdict_iff :
    (p.verdict r).body = true ↔ ∀ b ∈ p.bodyPatterns, b.admits r.body = true := by
  simp [verdict]

end RequestPattern

/-- **A stub fits** when all five conditions hold. -/
lemma Verdict.matched_iff {v : Verdict} :
    v.matched = true ↔
      v.method = true ∧ v.url = true ∧ v.query = true ∧ v.body = true ∧ v.headers = true := by
  simp [matched, and_assoc]

end HttpStub
