import HttpStub.Stub.Selection
import Mathlib.Data.List.Basic
import Mathlib.Order.Bounds.Defs

set_option autoImplicit false

/-!
# The stub that is chosen

The choice is a first maximum: what it is among is described once, for every score, and then read
off for the stubs that fit and for those that do not.

## Main definitions

* `HttpStub.bestPlaces` — the places of the stubs of a kind that none of the kind exceeds in a
  score.

## Main results

* `HttpStub.exists_split_of_firstBest` — what stands before and after the first best candidate.
* `HttpStub.mem_candidates_iff` — the candidates are the stubs at their places with their verdicts.
* `HttpStub.exists_select_of_matched` — if a stub fits, one that fits is chosen, and none that fits
  asks for more.
* `HttpStub.select_names_least_best_place` — which stub is named, and at which place.
-/

namespace HttpStub

/-! ## The first maximum of a score -/

section FirstBest

variable {score : Candidate → Option Nat} {cs : List Candidate} {c : Candidate}

/-- Nothing is chosen exactly where nothing has a score. -/
lemma firstBest_eq_none_iff : firstBest score cs = none ↔ ∀ d ∈ cs, score d = none := by
  induction cs with
  | nil => simp [firstBest]
  | cons d ds ih =>
    rw [List.forall_mem_cons, ← ih]
    simp only [firstBest]
    rcases score d with _ | n
    · simp
    · rcases firstBest score ds with _ | b
      · simp
      · simp only [reduceCtorEq, false_and, iff_false]
        split <;> simp

/-- **The first best candidate**: its score is greater than all before it, and none after it has a
greater one.

**Proof sketch.** Induction on the list, along the cases of the definition. The head is kept when
the best of the rest does not exceed it, and what the rest is bounded by then bounds it too. -/
lemma exists_split_of_firstBest (h : firstBest score cs = some c) :
    ∃ l r n, cs = l ++ c :: r ∧ score c = some n ∧
      (∀ d ∈ l, ∀ m, score d = some m → m < n) ∧ ∀ d ∈ r, ∀ m, score d = some m → m ≤ n := by
  induction cs generalizing c with
  | nil => simp [firstBest] at h
  | cons d ds ih =>
    simp only [firstBest] at h
    rcases hd : score d with _ | k
    · -- a head without a score changes nothing
      simp only [hd] at h
      obtain ⟨l, r, n, rfl, hn, hl, hr⟩ := ih h
      refine ⟨d :: l, r, n, rfl, hn, List.forall_mem_cons.2 ⟨?_, hl⟩, hr⟩
      simp [hd]
    · rcases hb : firstBest score ds with _ | b
      · simp only [hd, hb, Option.some.injEq] at h
        subst h
        have hnone := firstBest_eq_none_iff.1 hb
        exact ⟨[], ds, k, rfl, hd, by simp, fun e he m hm => by simp [hnone e he] at hm⟩
      · obtain ⟨l, r, n, rfl, hn, hl, hr⟩ := ih hb
        simp only [hd, hb, hn, Option.any_some, decide_eq_true_eq] at h
        split at h
        · next hlt =>
          obtain rfl : b = c := Option.some.inj h
          refine ⟨d :: l, r, n, rfl, hn, List.forall_mem_cons.2 ⟨?_, hl⟩, hr⟩
          intro m hm
          rw [hd, Option.some.injEq] at hm
          omega
        · next hge =>
          obtain rfl : d = c := Option.some.inj h
          refine ⟨[], l ++ b :: r, k, rfl, hd, by simp, fun e he m hm => ?_⟩
          rcases List.mem_append.1 he with he | he
          · have := hl e he m hm
            omega
          · rcases List.mem_cons.1 he with rfl | he
            · rw [hn, Option.some.injEq] at hm
              omega
            · have := hr e he m hm
              omega

/-- The first best candidate is one of the list, and its score is a greatest one. -/
lemma firstBest_greatest (h : firstBest score cs = some c) :
    c ∈ cs ∧ ∃ n, score c = some n ∧ ∀ d ∈ cs, ∀ m, score d = some m → m ≤ n := by
  obtain ⟨l, r, n, rfl, hn, hl, hr⟩ := exists_split_of_firstBest h
  refine ⟨by simp, n, hn, fun d hd m hm => ?_⟩
  rcases List.mem_append.1 hd with hd | hd
  · exact Nat.le_of_lt (hl d hd m hm)
  · rcases List.mem_cons.1 hd with rfl | hd
    · rw [hn, Option.some.injEq] at hm
      exact Nat.le_of_eq hm.symm
    · exact hr d hd m hm

end FirstBest

/-! ## The stubs that are held against a request -/

variable {r : Request} {stubs : List Stub}

/-- The candidates are the stubs with their verdicts, numbered from `i` on: this is the form in
which the induction goes through. -/
lemma mem_candidatesFrom_iff {i : Nat} {c : Candidate} :
    c ∈ candidatesFrom r i stubs ↔
      i ≤ c.index ∧ stubs[c.index - i]? = some c.stub ∧ c.verdict = c.stub.verdict r := by
  induction stubs generalizing i with
  | nil => simp [candidatesFrom]
  | cons s ss ih =>
    simp only [candidatesFrom, List.mem_cons, ih]
    constructor
    · rintro (rfl | ⟨hi, hs, hv⟩)
      · simp
      · refine ⟨by omega, ?_, hv⟩
        rwa [show c.index - i = c.index - (i + 1) + 1 by omega, List.getElem?_cons_succ]
    · rintro ⟨hi, hs, hv⟩
      rcases Nat.eq_or_lt_of_le hi with rfl | hlt
      · left
        obtain ⟨index, stub, verdict⟩ := c
        obtain rfl : s = stub := by simpa using hs
        simpa using hv
      · right
        refine ⟨hlt, ?_, hv⟩
        rwa [show c.index - i = c.index - (i + 1) + 1 by omega, List.getElem?_cons_succ] at hs

/-- **The candidates** are the stubs at their places, each with the verdict on it. -/
lemma mem_candidates_iff {c : Candidate} :
    c ∈ candidates r stubs ↔ stubs[c.index]? = some c.stub ∧ c.verdict = c.stub.verdict r := by
  simp [candidates, mem_candidatesFrom_iff]

/-- The places of the candidates increase. -/
lemma pairwise_candidatesFrom (r : Request) (stubs : List Stub) (i : Nat) :
    (candidatesFrom r i stubs).Pairwise fun c d => c.index < d.index := by
  induction stubs generalizing i with
  | nil => exact List.Pairwise.nil
  | cons s ss ih =>
    refine List.pairwise_cons.2 ⟨fun c hc => ?_, ih (i + 1)⟩
    exact (mem_candidatesFrom_iff.1 hc).1

/-- Each stub is a candidate at its place. -/
lemma mem_candidates_of_getElem? {i : Nat} {s : Stub} (h : stubs[i]? = some s) :
    ⟨i, s, s.verdict r⟩ ∈ candidates r stubs :=
  mem_candidates_iff.2 ⟨h, rfl⟩

/-- The score of a stub that fits is how much it asks for. -/
lemma fitScore_eq_some_iff {c : Candidate} {n : Nat} :
    c.fitScore = some n ↔ c.verdict.matched = true ∧ c.stub.specificity = n := by
  simp [Candidate.fitScore]

/-- The score of a stub that does not fit is how close it is, unless that is nothing. -/
lemma nearScore_eq_some_iff {c : Candidate} {n : Nat} :
    c.nearScore = some n ↔
      (c.verdict.matched = false ∧ 0 < c.verdict.closeness) ∧ c.verdict.closeness = n := by
  simp [Candidate.nearScore]

/-- Where some stub fits, the choice is the first best of the stubs that fit. -/
lemma exists_select_of_fit (h : ∃ s ∈ stubs, (s.verdict r).matched = true) :
    ∃ c, firstBest Candidate.fitScore (candidates r stubs) = some c ∧
      select r stubs = c.toSelection := by
  obtain ⟨s, hs, hfit⟩ := h
  obtain ⟨i, hi⟩ := List.mem_iff_getElem?.1 hs
  obtain ⟨c, hc⟩ : ∃ c, firstBest Candidate.fitScore (candidates r stubs) = some c := by
    refine Option.ne_none_iff_exists'.1 fun hnone => ?_
    have hscore := firstBest_eq_none_iff.1 hnone _ (mem_candidates_of_getElem? hi)
    simp [Candidate.fitScore, hfit] at hscore
  exact ⟨c, hc, by simp only [select, hc]⟩

/-- **If a stub fits**, one that fits is chosen, and no other one that fits asks for more. -/
lemma exists_select_of_matched {s : Stub} (hs : s ∈ stubs) (hfit : (s.verdict r).matched = true) :
    ∃ b ∈ stubs, (select r stubs).matched = true ∧ (select r stubs).stub = some b ∧
      (b.verdict r).matched = true ∧
      ∀ t ∈ stubs, (t.verdict r).matched = true → t.specificity ≤ b.specificity := by
  obtain ⟨c, hc, hselect⟩ := exists_select_of_fit ⟨s, hs, hfit⟩
  obtain ⟨hmem, n, hn, hmax⟩ := firstBest_greatest hc
  obtain ⟨hstub, hverdict⟩ := mem_candidates_iff.1 hmem
  obtain ⟨hmatched, rfl⟩ := fitScore_eq_some_iff.1 hn
  refine ⟨c.stub, List.mem_of_getElem? hstub, ?_, ?_, hverdict ▸ hmatched, fun t ht hfit => ?_⟩
  · rw [hselect]
    exact hmatched
  · rw [hselect]
    rfl
  · obtain ⟨j, hj⟩ := List.mem_iff_getElem?.1 ht
    have hd := mem_candidates_of_getElem? (r := r) hj
    exact hmax _ hd _ (fitScore_eq_some_iff (c := ⟨j, t, t.verdict r⟩).2 ⟨hfit, rfl⟩)

/-! ## The place of the stub that is chosen -/

/-- The places of the stubs of a kind whose score no other stub of the kind exceeds. -/
def bestPlaces (kind : Stub → Prop) (score : Stub → Nat) (stubs : List Stub) : Set Nat :=
  {i | ∃ s, stubs[i]? = some s ∧ kind s ∧ ∀ t ∈ stubs, kind t → score t ≤ score s}

/-- Where some score is positive, the stubs without a score play no part in which places are
best. -/
lemma bestPlaces_pos {value : Stub → Nat} (h : ∃ s ∈ stubs, 0 < value s) :
    bestPlaces (fun s => 0 < value s) value stubs = bestPlaces (fun _ => True) value stubs := by
  obtain ⟨t, ht, hpos⟩ := h
  ext i
  constructor
  · rintro ⟨s, hs, hspos, hbest⟩
    refine ⟨s, hs, trivial, fun u hu _ => ?_⟩
    rcases Nat.eq_zero_or_pos (value u) with hzero | hupos
    · omega
    · exact hbest u hu hupos
  · rintro ⟨s, hs, -, hbest⟩
    have hle := hbest t ht trivial
    exact ⟨s, hs, by omega, fun u hu _ => hbest u hu trivial⟩

/-- **The first best candidate stands at the least of the best places**, if the candidates with a
score are the stubs of the kind.

**Proof sketch.** Its score is a greatest one, so its place is among the best. A candidate before it
has a smaller score, so none of them stands at a best place, and the places of those after it are
greater. -/
lemma isLeast_bestPlaces_of_firstBest {score : Candidate → Option Nat} {kind : Stub → Prop}
    {value : Stub → Nat} {c : Candidate}
    (hscore : ∀ d ∈ candidates r stubs, ∀ n,
      score d = some n ↔ kind d.stub ∧ value d.stub = n)
    (h : firstBest score (candidates r stubs) = some c) :
    IsLeast (bestPlaces kind value stubs) c.index := by
  obtain ⟨hmem, n, hn, hmax⟩ := firstBest_greatest h
  obtain ⟨hkind, rfl⟩ := (hscore c hmem n).1 hn
  constructor
  · refine ⟨c.stub, (mem_candidates_iff.1 hmem).1, hkind, fun t ht hkt => ?_⟩
    obtain ⟨j, hj⟩ := List.mem_iff_getElem?.1 ht
    have hd := mem_candidates_of_getElem? (r := r) hj
    exact hmax _ hd _ ((hscore _ hd _).2 ⟨hkt, rfl⟩)
  · rintro i ⟨s, hs, hks, hbest⟩
    obtain ⟨before, after, m, hsplit, hm, hbefore, -⟩ := exists_split_of_firstBest h
    obtain rfl : m = value c.stub := Option.some.inj (hm.symm.trans hn)
    have hd := mem_candidates_of_getElem? (r := r) hs
    have hds := (hscore _ hd _).2 ⟨hks, rfl⟩
    have hle := hbest c.stub (List.mem_of_getElem? (mem_candidates_iff.1 hmem).1) hkind
    have hplaces := pairwise_candidatesFrom r stubs 0
    rw [← candidates, hsplit] at hplaces
    rw [hsplit] at hd
    rcases List.mem_append.1 hd with hd | hd
    · exact absurd (hbefore _ hd _ hds) (Nat.not_lt.2 hle)
    · rcases List.mem_cons.1 hd with rfl | hd
      · exact Nat.le_refl _
      · exact Nat.le_of_lt ((List.pairwise_cons.1 (List.pairwise_append.1 hplaces).2.1).1 _ hd)

/-- Where no stub fits, the choice is left to the closeness of the stubs. -/
lemma select_of_no_fit (h : ∀ s ∈ stubs, (s.verdict r).matched = false) :
    select r stubs =
      ((firstBest Candidate.nearScore (candidates r stubs)).map Candidate.toSelection).getD
        .nothing := by
  have hnone : firstBest Candidate.fitScore (candidates r stubs) = none := by
    refine firstBest_eq_none_iff.2 fun d hd => ?_
    obtain ⟨hstub, hverdict⟩ := mem_candidates_iff.1 hd
    simp [Candidate.fitScore, hverdict, h d.stub (List.mem_of_getElem? hstub)]
  simp only [select, hnone]
  cases firstBest Candidate.nearScore (candidates r stubs) <;> rfl

/-- A candidate has a score for its closeness exactly where the stub is close at all, if no stub
fits. -/
lemma nearScore_eq_some_iff_of_no_fit (h : ∀ s ∈ stubs, (s.verdict r).matched = false)
    {d : Candidate} (hd : d ∈ candidates r stubs) {n : Nat} :
    d.nearScore = some n ↔
      0 < (d.stub.verdict r).closeness ∧ (d.stub.verdict r).closeness = n := by
  obtain ⟨hstub, hverdict⟩ := mem_candidates_iff.1 hd
  rw [nearScore_eq_some_iff, hverdict, h d.stub (List.mem_of_getElem? hstub)]
  simp

/-- Where no stub fits and some stub is close, a closest one is chosen. -/
lemma exists_firstBest_nearScore (h : ∀ s ∈ stubs, (s.verdict r).matched = false)
    (hclose : ∃ s ∈ stubs, 0 < (s.verdict r).closeness) :
    ∃ c, firstBest Candidate.nearScore (candidates r stubs) = some c := by
  obtain ⟨s, hs, hpos⟩ := hclose
  obtain ⟨i, hi⟩ := List.mem_iff_getElem?.1 hs
  have hmem := mem_candidates_of_getElem? (r := r) hi
  refine Option.ne_none_iff_exists'.1 fun hnone => ?_
  have hscore := (nearScore_eq_some_iff_of_no_fit h hmem).2 ⟨hpos, rfl⟩
  rw [firstBest_eq_none_iff.1 hnone _ hmem] at hscore
  exact Option.some_ne_none _ hscore.symm

/-- A stub that is named stands at the place that is named, and the verdict is the one on it. -/
lemma exists_stub_of_select_index {i : Nat} (h : (select r stubs).index = some i) :
    ∃ s, stubs[i]? = some s ∧ (select r stubs).stub = some s ∧
      (select r stubs).verdict = s.verdict r := by
  have hcandidate : ∀ score c, firstBest score (candidates r stubs) = some c →
      select r stubs = c.toSelection → ∃ s, stubs[i]? = some s ∧
        (select r stubs).stub = some s ∧ (select r stubs).verdict = s.verdict r := by
    intro score c hc hselect
    obtain ⟨hstub, hverdict⟩ := mem_candidates_iff.1 (firstBest_greatest hc).1
    rw [hselect] at h ⊢
    obtain rfl : c.index = i := Option.some.inj h
    exact ⟨c.stub, hstub, rfl, hverdict⟩
  by_cases hfit : ∃ s ∈ stubs, (s.verdict r).matched = true
  · obtain ⟨c, hc, hselect⟩ := exists_select_of_fit hfit
    exact hcandidate _ c hc hselect
  · have hall : ∀ s ∈ stubs, (s.verdict r).matched = false := by simpa using hfit
    have hno := select_of_no_fit hall
    rcases hc : firstBest Candidate.nearScore (candidates r stubs) with _ | c
    · rw [hno, hc] at h
      exact absurd h (Option.some_ne_none i).symm
    · exact hcandidate _ c hc (by rw [hno, hc]; rfl)

/-- **A request fits the choice exactly where it fits some stub.** -/
lemma matched_select_iff :
    (select r stubs).matched = true ↔ ∃ s ∈ stubs, (s.verdict r).matched = true := by
  constructor
  · intro h
    by_contra hfit
    have hno : ∀ s ∈ stubs, (s.verdict r).matched = false := by simpa using hfit
    rw [select_of_no_fit hno] at h
    rcases hc : firstBest Candidate.nearScore (candidates r stubs) with _ | c
    · rw [hc] at h
      exact Bool.false_ne_true h
    · rw [hc] at h
      obtain ⟨hstub, hverdict⟩ := mem_candidates_iff.1 (firstBest_greatest hc).1
      have hm : c.verdict.matched = true := h
      rw [hverdict, hno c.stub (List.mem_of_getElem? hstub)] at hm
      exact Bool.false_ne_true hm
  · rintro ⟨s, hs, hfit⟩
    obtain ⟨-, -, hmatched, -⟩ := exists_select_of_matched hs hfit
    exact hmatched

/-- **The stub that is chosen.** Where some stub fits, it is the first of those that fit and ask for
the most among them; otherwise it is the first of the closest ones, and nothing is named if no stub
is close at all. What is named is the stub at its place with the verdict on it. -/
theorem select_names_least_best_place (r : Request) (stubs : List Stub) :
    ((select r stubs).matched = true ↔ ∃ s ∈ stubs, (s.verdict r).matched = true) ∧
    ((∃ s ∈ stubs, (s.verdict r).matched = true) →
      ∃ i, (select r stubs).index = some i ∧
        IsLeast (bestPlaces (fun s => (s.verdict r).matched = true) Stub.specificity stubs) i) ∧
    ((∀ s ∈ stubs, (s.verdict r).matched = false) →
      ((∃ s ∈ stubs, 0 < (s.verdict r).closeness) →
        ∃ i, (select r stubs).index = some i ∧
          IsLeast (bestPlaces (fun _ => True) (fun s => (s.verdict r).closeness) stubs) i) ∧
      ((∀ s ∈ stubs, (s.verdict r).closeness = 0) → select r stubs = .nothing)) ∧
    ∀ i, (select r stubs).index = some i →
      ∃ s, stubs[i]? = some s ∧ (select r stubs).stub = some s ∧
        (select r stubs).verdict = s.verdict r := by
  refine ⟨matched_select_iff, fun hfit => ?_, fun hno => ⟨fun hclose => ?_, fun hfar => ?_⟩,
    fun i hi => exists_stub_of_select_index hi⟩
  · obtain ⟨c, hc, hselect⟩ := exists_select_of_fit hfit
    refine ⟨c.index, by rw [hselect]; rfl, isLeast_bestPlaces_of_firstBest ?_ hc⟩
    intro d hd n
    rw [fitScore_eq_some_iff, (mem_candidates_iff.1 hd).2]
  · obtain ⟨c, hc⟩ := exists_firstBest_nearScore hno hclose
    refine ⟨c.index, by rw [select_of_no_fit hno, hc]; rfl, ?_⟩
    rw [← bestPlaces_pos hclose]
    exact isLeast_bestPlaces_of_firstBest
      (fun d hd n => nearScore_eq_some_iff_of_no_fit hno hd) hc
  · have hnone : firstBest Candidate.nearScore (candidates r stubs) = none := by
      refine firstBest_eq_none_iff.2 fun d hd => ?_
      have hfard := hfar d.stub (List.mem_of_getElem? (mem_candidates_iff.1 hd).1)
      refine Option.eq_none_iff_forall_ne_some.2 fun n hn => ?_
      exact absurd ((nearScore_eq_some_iff_of_no_fit hno hd).1 hn).1 (by omega)
    rw [select_of_no_fit hno, hnone]
    rfl

end HttpStub
