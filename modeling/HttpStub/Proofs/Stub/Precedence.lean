import HttpStub.Proofs.Stub.Selection
import HttpStub.Proofs.Stub.Verdict

set_option autoImplicit false

/-!
# Stubs for one target before stubs for many

A condition on the whole target is worth a fixed number of other conditions. So a stub with such a
condition comes before stubs for many targets, as long as these do not ask for as much besides.

## Main definitions

* `HttpStub.Stub.AsksExactly` — the condition on the target is one on the whole target.
* `HttpStub.Stub.conditionCount` — how many conditions there are on parameters, body and headers.
* `HttpStub.Stub.Outranks` — a stub for one target comes before a stub for many.
* `HttpStub.IsFirstBest` — what the stub that is chosen has over the others that fit.

## Main results

* `HttpStub.exists_isFirstBest_of_fit` — the stub that is chosen, and its place.
* `HttpStub.IsFirstBest.outranks`, `HttpStub.IsFirstBest.asksExactly` — the stub that is chosen asks
  for the whole target, or nothing outranks it that does.
* `HttpStub.asksExactly_select_iff` — when the stub that is chosen asks for the whole target.
-/

namespace HttpStub

namespace Stub

/-- The stub asks for one target, path and query as they are spelled. -/
def AsksExactly (s : Stub) : Prop :=
  ∃ target, s.request.urlMatch = .exact target

/-- How many conditions the stub has on parameters, body and headers. -/
def conditionCount (s : Stub) : Nat :=
  s.request.queryParameters.size + s.request.bodyPatterns.length + s.request.headers.size

/-- A stub for one target at place `i` comes before a stub for many at place `j`: the other one has
fewer conditions than it has with the weight of the target, or just as many and a later place. -/
def Outranks (s : Stub) (i : Nat) (t : Stub) (j : Nat) : Prop :=
  t.conditionCount < s.conditionCount + exactUrlWeight ∨
    t.conditionCount = s.conditionCount + exactUrlWeight ∧ i < j

variable {s : Stub}

/-- A stub for one target is as specific as it has conditions, and by the weight of the target more.
-/
lemma specificity_of_asksExactly (h : s.AsksExactly) :
    s.specificity = s.conditionCount + exactUrlWeight := by
  obtain ⟨target, htarget⟩ := h
  simp only [specificity, htarget, conditionCount]

/-- A stub for many targets is as specific as it has conditions. -/
lemma specificity_of_not_asksExactly (h : ¬ s.AsksExactly) :
    s.specificity = s.conditionCount := by
  simp only [specificity, conditionCount]
  split
  · next target htarget => exact absurd ⟨target, htarget⟩ h
  · rfl

end Stub

/-! ## The first of the best stubs -/

/-- The stub at this place is the first of those that fit and ask for the most. -/
structure IsFirstBest (r : Request) (stubs : List Stub) (k : Nat) (b : Stub) : Prop where
  place : stubs[k]? = some b
  fits : (b.verdict r).matched = true
  best : ∀ t ∈ stubs, (t.verdict r).matched = true → t.specificity ≤ b.specificity
  first : ∀ (i : Nat) (s : Stub), stubs[i]? = some s → (s.verdict r).matched = true →
    s.specificity = b.specificity → k ≤ i

section IsFirstBest

variable {r : Request} {stubs : List Stub} {k : Nat} {b : Stub}

/-- **The stub that is chosen** where some stub fits. -/
lemma exists_isFirstBest_of_fit (h : ∃ s ∈ stubs, (s.verdict r).matched = true) :
    ∃ k b, IsFirstBest r stubs k b ∧ (select r stubs).stub = some b := by
  obtain ⟨c, hc, hselect⟩ := exists_select_of_fit h
  have hleast : IsLeast (bestPlaces (fun s => (s.verdict r).matched = true) Stub.specificity stubs)
      c.index := by
    refine isLeast_bestPlaces_of_firstBest (fun d hd n => ?_) hc
    rw [fitScore_eq_some_iff, (mem_candidates_iff.1 hd).2]
  obtain ⟨⟨b, hb, hfit, hbest⟩, hmin⟩ := hleast
  have hstub : c.stub = b := by
    have hplace := (mem_candidates_iff.1 (firstBest_greatest hc).1).1
    exact Option.some.inj (hplace.symm.trans hb)
  refine ⟨c.index, b, ⟨hb, hfit, hbest, fun i s hs hsfit heq => ?_⟩, ?_⟩
  · apply hmin
    refine ⟨s, hs, hsfit, fun t ht htfit => ?_⟩
    rw [heq]
    exact hbest t ht htfit
  · rw [hselect, ← hstub]
    rfl

/-- If the stub that is chosen asks for the whole target, it outranks all that fit and do not. -/
lemma IsFirstBest.outranks (hb : IsFirstBest r stubs k b) (hexact : b.AsksExactly) {j : Nat}
    {t : Stub} (ht : stubs[j]? = some t) (hfit : (t.verdict r).matched = true)
    (hmany : ¬ t.AsksExactly) : b.Outranks k t j := by
  have hle : t.specificity ≤ b.specificity := hb.best t (List.mem_of_getElem? ht) hfit
  rw [Stub.specificity_of_not_asksExactly hmany, Stub.specificity_of_asksExactly hexact] at hle
  rcases Nat.lt_or_eq_of_le hle with hlt | heq
  · exact .inl hlt
  · -- just as good, so not before it; and not at its place either, being another stub
    have hkj : k ≤ j := by
      apply hb.first j t ht hfit
      rw [Stub.specificity_of_not_asksExactly hmany, Stub.specificity_of_asksExactly hexact, heq]
    have hne : k ≠ j := by
      rintro rfl
      have hsame : b = t := Option.some.inj (hb.place.symm.trans ht)
      exact hmany (hsame ▸ hexact)
    exact .inr ⟨heq, by omega⟩

/-- If some stub that fits and asks for the whole target outranks each one that fits and does not,
then the stub that is chosen asks for the whole target. -/
lemma IsFirstBest.asksExactly (hb : IsFirstBest r stubs k b)
    (h : ∀ (j : Nat) (t : Stub), stubs[j]? = some t → (t.verdict r).matched = true →
      ¬ t.AsksExactly → ∃ (i : Nat) (s : Stub), stubs[i]? = some s ∧
        (s.verdict r).matched = true ∧ s.AsksExactly ∧ s.Outranks i t j) : b.AsksExactly := by
  by_contra hmany
  obtain ⟨i, s, hs, hfit, hexact, hrank⟩ := h k b hb.place hb.fits hmany
  have hle : s.specificity ≤ b.specificity := hb.best s (List.mem_of_getElem? hs) hfit
  rw [Stub.specificity_of_not_asksExactly hmany, Stub.specificity_of_asksExactly hexact] at hle
  rcases hrank with hlt | ⟨heq, hik⟩
  · omega
  · have hki : k ≤ i := by
      apply hb.first i s hs hfit
      rw [Stub.specificity_of_not_asksExactly hmany, Stub.specificity_of_asksExactly hexact, heq]
    omega

end IsFirstBest

/-- **Stubs for one target come first, up to a point.** Where a stub that fits asks for the whole
target, a stub is chosen that fits. It asks for the whole target exactly if each stub that fits and
does not is outranked by one that fits and does. In particular it does if none of these has as many
conditions as a whole target is worth.

**Proof sketch.** The stub that is chosen is the first of those that fit and ask for the most. If it
asks for the whole target, it outranks the others itself. If it does not, then no stub outranks it:
one that asks for more would be chosen in its place, and so would one before it that asks for as
much. -/
theorem asksExactly_select_iff {r : Request} {stubs : List Stub}
    (h : ∃ s ∈ stubs, (s.verdict r).matched = true ∧ s.AsksExactly) :
    ∃ b ∈ stubs, (select r stubs).stub = some b ∧ (b.verdict r).matched = true ∧
      (b.AsksExactly ↔
        ∀ (j : Nat) (t : Stub), stubs[j]? = some t → (t.verdict r).matched = true →
          ¬ t.AsksExactly → ∃ (i : Nat) (s : Stub), stubs[i]? = some s ∧
            (s.verdict r).matched = true ∧ s.AsksExactly ∧ s.Outranks i t j) ∧
      ((∀ t ∈ stubs, (t.verdict r).matched = true → ¬ t.AsksExactly →
        t.conditionCount < exactUrlWeight) → b.AsksExactly) := by
  obtain ⟨e, he, hfit, hexact⟩ := h
  obtain ⟨k, b, hb, hselect⟩ := exists_isFirstBest_of_fit ⟨e, he, hfit⟩
  refine ⟨b, List.mem_of_getElem? hb.place, hselect, hb.fits, ⟨?_, hb.asksExactly⟩, fun hfew => ?_⟩
  · intro hbexact j t ht htfit hmany
    exact ⟨k, b, hb.place, hb.fits, hbexact, hb.outranks hbexact ht htfit hmany⟩
  · obtain ⟨i, hi⟩ := List.mem_iff_getElem?.1 he
    apply hb.asksExactly
    intro j t ht htfit hmany
    have hlt := hfew t (List.mem_of_getElem? ht) htfit hmany
    exact ⟨i, e, hi, hfit, hexact, .inl (by omega)⟩

/-! ## Stubs with many conditions -/

/-- A stub for the target `/a`. -/
def exactStub : Stub :=
  { Stub.blank with request := { RequestPattern.blank with url := some "/a" } }

/-- A stub for the path `/a` with this number of conditions on the body. -/
def pathStub (n : Nat) : Stub :=
  { Stub.blank with
    request :=
      { RequestPattern.blank with
        urlPath := some "/a", bodyPatterns := List.replicate n (.ofJsonText "1") } }

/-- A request that fits all of them. -/
def requestOne : Request :=
  ⟨"GET", "/a", .empty, Utf8.encode "1"⟩

/-- The first stub asks for one target. -/
lemma asksExactly_exactStub : exactStub.AsksExactly :=
  ⟨"/a", rfl⟩

/-- The second stub asks for a path, whatever follows it. -/
lemma not_asksExactly_pathStub (n : Nat) : ¬ (pathStub n).AsksExactly := by
  rintro ⟨target, htarget⟩
  have hpath : (pathStub n).request.urlMatch = .path "/a" := rfl
  rw [hpath] at htarget
  cases htarget

/-- It has this number of conditions. -/
lemma conditionCount_pathStub (n : Nat) : (pathStub n).conditionCount = n := by
  simp [Stub.conditionCount, pathStub, RequestPattern.blank, Dict.size, Dict.empty]

/-- The first stub fits the request. -/
lemma matched_exactStub : (exactStub.verdict requestOne).matched = true := by
  rfl

/-- So does the second one, with any number of conditions. -/
lemma matched_pathStub (n : Nat) : ((pathStub n).verdict requestOne).matched = true := by
  have hone : (BodyPattern.ofJsonText "1").admits requestOne.body = true := by
    rfl
  have hbody : ((pathStub n).verdict requestOne).body = true := by
    refine RequestPattern.body_verdict_iff.2 fun p hp => ?_
    rw [List.eq_of_mem_replicate hp]
    exact hone
  have hmethod : ((pathStub n).verdict requestOne).method = true := by
    have hany : (pathStub n).request.method = anyMethod := rfl
    simp only [Stub.verdict, RequestPattern.verdict, hany]
    decide
  exact Verdict.matched_iff.2 ⟨hmethod, by rfl, by rfl, hbody, by rfl⟩

/-- A stub for the whole target comes before one with ninety-nine conditions. -/
theorem asksExactly_select_pathStub :
    (∃ s ∈ [pathStub 99, exactStub], (s.verdict requestOne).matched = true ∧ s.AsksExactly) ∧
      ∃ b, (select requestOne [pathStub 99, exactStub]).stub = some b ∧ b.AsksExactly := by
  have hexact : ∃ s ∈ [pathStub 99, exactStub],
      (s.verdict requestOne).matched = true ∧ s.AsksExactly :=
    ⟨exactStub, by simp, matched_exactStub, asksExactly_exactStub⟩
  obtain ⟨b, -, hselect, -, -, hfew⟩ := asksExactly_select_iff hexact
  refine ⟨hexact, b, hselect, hfew fun t ht _ hmany => ?_⟩
  rcases List.mem_cons.1 ht with rfl | ht
  · rw [conditionCount_pathStub]
    decide
  · rw [List.mem_singleton.1 ht] at hmany
    exact absurd asksExactly_exactStub hmany

/-- A stub for the whole target does not always come before the others: one with a hundred and one
conditions asks for more. -/
theorem not_forall_asksExactly_select :
    ¬ ∀ (r : Request) (stubs : List Stub),
      (∃ s ∈ stubs, (s.verdict r).matched = true ∧ s.AsksExactly) →
        ∃ b, (select r stubs).stub = some b ∧ b.AsksExactly := by
  intro h
  obtain ⟨b, hb, hexact⟩ := h requestOne [exactStub, pathStub 101]
    ⟨exactStub, List.mem_cons_self, matched_exactStub, asksExactly_exactStub⟩
  have hfits : ∃ s ∈ [exactStub, pathStub 101], (s.verdict requestOne).matched = true :=
    ⟨exactStub, List.mem_cons_self, matched_exactStub⟩
  obtain ⟨k, c, hc, hselect⟩ := exists_isFirstBest_of_fit hfits
  obtain rfl : c = b := Option.some.inj (hselect.symm.trans hb)
  have hle : (pathStub 101).specificity ≤ c.specificity :=
    hc.best _ (by simp) (matched_pathStub 101)
  rw [Stub.specificity_of_not_asksExactly (not_asksExactly_pathStub 101),
    conditionCount_pathStub] at hle
  have hmem : c ∈ [exactStub, pathStub 101] := List.mem_of_getElem? hc.place
  rcases List.mem_cons.1 hmem with rfl | hmem
  · exact absurd hle (by decide)
  · rw [List.mem_singleton.1 hmem] at hexact
    exact not_asksExactly_pathStub 101 hexact

end HttpStub
