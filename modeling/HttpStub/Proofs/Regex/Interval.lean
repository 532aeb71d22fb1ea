import HttpStub.Proofs.Text.Octets
import HttpStub.Regex.Interval
import Mathlib.Data.List.Basic
import Mathlib.Tactic.Common

set_option autoImplicit false

/-!
# Sets of characters as intervals

The room that an automaton takes is computed from intervals, while matching asks whether a character
belongs to a set. The operations on lists of intervals are those on the code points that the lists
cover.

## Main definitions

* `HttpStub.Regex.Interval.Separate` — intervals in ascending order with gaps between them.
* `HttpStub.Regex.CharSet.Exact` — a set with regard to letter case.

## Main results

* `HttpStub.Regex.Interval.covers_normalize`, `HttpStub.Regex.Interval.separate_normalize` — a
  sorted and merged list covers the same code points, with gaps between its intervals.
* `HttpStub.Regex.Interval.covers_complement`, `HttpStub.Regex.Interval.covers_union`,
  `HttpStub.Regex.Interval.covers_inter` — the set operations.
* `HttpStub.Regex.CharSet.separate_intervals`, `HttpStub.Regex.CharSet.covers_intervals` — the
  intervals of a set are apart from each other and cover its characters.
-/

namespace HttpStub.Regex

namespace Interval

variable {is js : List Interval} {n : Nat}

/-! ## Order -/

/-- Intervals in ascending order with gaps between them, each with at least one code point. -/
structure Separate (is : List Interval) : Prop where
  nonempty : ∀ i ∈ is, i.low ≤ i.high
  gaps : is.Pairwise fun i j => i.high + 1 < j.low

/-- A code point is covered by an interval or by those after it. -/
lemma covers_cons (i : Interval) (is : List Interval) (n : Nat) :
    covers (i :: is) n = true ↔ i.low ≤ n ∧ n ≤ i.high ∨ covers is n = true := by
  simp [covers]

/-- A code point is covered by one list or by the one after it. -/
lemma covers_append (is js : List Interval) (n : Nat) :
    covers (is ++ js) n = true ↔ covers is n = true ∨ covers js n = true := by
  simp [covers]

/-- The same intervals in another order cover the same code points. -/
lemma covers_perm (h : is.Perm js) (n : Nat) : covers is n = covers js n := by
  rw [Bool.eq_iff_iff, covers, covers, List.any_eq_true, List.any_eq_true]
  simp only [h.mem_iff]

/-- What comes before all intervals is not covered. -/
lemma covers_eq_false_of_lt (h : ∀ i ∈ is, n < i.low) : covers is n = false := by
  rw [covers, List.any_eq_false]
  intro i hi
  have := h i hi
  simp only [Bool.and_eq_true, decide_eq_true_eq]
  omega

/-- Without intervals there are none that meet. -/
lemma separate_nil : Separate [] :=
  ⟨fun _ hi => absurd hi List.not_mem_nil, .nil⟩

/-- There are gaps between intervals if there is one after the first of them, and between the
others. -/
lemma separate_cons {i : Interval} :
    Separate (i :: is) ↔ i.low ≤ i.high ∧ (∀ j ∈ is, i.high + 1 < j.low) ∧ Separate is := by
  constructor
  · rintro ⟨hnonempty, hgaps⟩
    obtain ⟨hi, his⟩ := List.forall_mem_cons.1 hnonempty
    obtain ⟨hgap, hgaps⟩ := List.pairwise_cons.1 hgaps
    exact ⟨hi, hgap, his, hgaps⟩
  · rintro ⟨hi, hgap, his, hgaps⟩
    exact ⟨List.forall_mem_cons.2 ⟨hi, his⟩, List.pairwise_cons.2 ⟨hgap, hgaps⟩⟩

/-- A single interval meets no other one. -/
lemma separate_singleton {i : Interval} (h : i.low ≤ i.high) : Separate [i] :=
  separate_cons.2 ⟨h, fun _ hj => absurd hj List.not_mem_nil, separate_nil⟩

/-! ## Merging -/

/-- The intervals come in the order of their lower ends. -/
def Ascending (is : List Interval) : Prop :=
  is.Pairwise fun i j => i.low ≤ j.low

/-- **Merging covers the same code points**: an interval that starts within another one, or right
after it, fills no gap. -/
lemma covers_mergeFrom {i : Interval} (h : Ascending (i :: is)) :
    covers (mergeFrom i is) n = true ↔ covers (i :: is) n = true := by
  induction is generalizing i with
  | nil => rfl
  | cons j js ih =>
    obtain ⟨hlow, hi, hj⟩ := List.pairwise_cons_cons.1 h
    rw [mergeFrom]
    split_ifs with htouch
    · have hmerged : Ascending (⟨i.low, max i.high j.high⟩ :: js) :=
        List.pairwise_cons.2 (List.pairwise_cons.1 hi)
      rw [ih hmerged]
      simp only [covers_cons]
      constructor
      · rintro (hn | hn)
        · by_cases hin : n ≤ i.high
          · exact .inl ⟨hn.1, hin⟩
          · exact .inr (.inl ⟨by omega, by omega⟩)
        · exact .inr (.inr hn)
      · rintro (hn | hn | hn)
        · exact .inl ⟨hn.1, by omega⟩
        · exact .inl ⟨by omega, by omega⟩
        · exact .inr hn
    · rw [covers_cons, ih hj, covers_cons i]

/-- **Merging leaves gaps**, and starts where the first interval does. -/
lemma separate_mergeFrom {i : Interval} (h : Ascending (i :: is))
    (hnonempty : ∀ j ∈ i :: is, j.low ≤ j.high) :
    Separate (mergeFrom i is) ∧ ∀ j ∈ mergeFrom i is, i.low ≤ j.low := by
  induction is generalizing i with
  | nil =>
    rw [mergeFrom, List.forall_mem_singleton]
    exact ⟨separate_singleton (hnonempty i List.mem_cons_self), Nat.le_refl _⟩
  | cons j js ih =>
    obtain ⟨hlow, hi, hj⟩ := List.pairwise_cons_cons.1 h
    obtain ⟨hni, hnj⟩ := List.forall_mem_cons.1 hnonempty
    rw [mergeFrom]
    split_ifs with htouch
    · have hmerged : i.low ≤ max i.high j.high := Nat.le_trans hni (Nat.le_max_left _ _)
      exact ih (List.pairwise_cons.2 (List.pairwise_cons.1 hi))
        (List.forall_mem_cons.2 ⟨hmerged, (List.forall_mem_cons.1 hnj).2⟩)
    · obtain ⟨hseparate, hfrom⟩ := ih hj hnj
      refine ⟨separate_cons.2 ⟨hni, fun k hk => ?_, hseparate⟩, List.forall_mem_cons.2
        ⟨Nat.le_refl _, fun k hk => Nat.le_trans hlow (hfrom k hk)⟩⟩
      have := hfrom k hk
      omega

/-- The order in which intervals are merged: by the lower end, then by the upper one. -/
lemma ascending_mergeSort (is : List Interval) :
    Ascending (is.mergeSort fun i j => i.low < j.low || (i.low == j.low && i.high ≤ j.high)) := by
  refine (List.pairwise_mergeSort (fun i j k hij hjk => ?_) (fun i j => ?_) is).imp fun hij => ?_
  · simp only [Bool.or_eq_true, Bool.and_eq_true, decide_eq_true_eq, beq_iff_eq] at *
    omega
  · simp only [Bool.or_eq_true, Bool.and_eq_true, decide_eq_true_eq, beq_iff_eq] at *
    omega
  · simp only [Bool.or_eq_true, Bool.and_eq_true, decide_eq_true_eq, beq_iff_eq] at hij
    omega

/-- **A sorted and merged list** covers the same code points. -/
lemma covers_normalize (is : List Interval) (n : Nat) : covers (normalize is) n = covers is n := by
  have hsorted := ascending_mergeSort is
  rw [← covers_perm (List.mergeSort_perm is _) n, normalize]
  cases hmerge : is.mergeSort _ with
  | nil => rfl
  | cons i js => exact Bool.eq_iff_iff.2 (covers_mergeFrom (hmerge ▸ hsorted))

/-- There are gaps between the intervals of a sorted and merged list. -/
lemma separate_normalize (h : ∀ i ∈ is, i.low ≤ i.high) : Separate (normalize is) := by
  have hsorted := ascending_mergeSort is
  rw [normalize]
  cases hmerge : is.mergeSort _ with
  | nil => exact separate_nil
  | cons i js =>
    refine (separate_mergeFrom (hmerge ▸ hsorted) fun j hj => h j ?_).1
    exact (List.mergeSort_perm is _).mem_iff.1 (hmerge ▸ hj)

/-! ## Set operations -/

/-- The code points in none of the intervals, from `start` on: what comes before is not in
question, since the intervals start later. -/
lemma covers_complementFrom {start : Nat} (h : Separate is) (hn : n ≤ maxCode)
    (hstart : ∀ i ∈ is, start ≤ i.low) :
    covers (complementFrom start is) n = true ↔ start ≤ n ∧ covers is n = false := by
  induction is generalizing start with
  | nil =>
    rw [complementFrom]
    split_ifs with hmax
    · simp [covers, hn]
    · simp [covers]
      omega
  | cons i is ih =>
    obtain ⟨hni, hgap, hrest⟩ := separate_cons.1 h
    have hi := hstart i List.mem_cons_self
    have hafter := ih hrest fun j hj => Nat.le_of_lt (hgap j hj)
    have hout : covers (i :: is) n = false ↔ ¬(i.low ≤ n ∧ n ≤ i.high) ∧ covers is n = false := by
      rw [← Bool.not_eq_true, covers_cons, not_or, Bool.not_eq_true]
    have hlater : n < i.low → covers is n = false := fun hlt => covers_eq_false_of_lt fun j hj => by
      have := hgap j hj
      omega
    rw [complementFrom, hout]
    split_ifs with hlt
    · rw [covers_cons, hafter]
      dsimp only
      constructor
      · rintro (hn | hn)
        · exact ⟨hn.1, by omega, hlater (by omega)⟩
        · exact ⟨by omega, by omega, hn.2⟩
      · rintro ⟨hfrom, hnot, hn⟩
        by_cases hbefore : n < i.low
        · exact .inl ⟨hfrom, by omega⟩
        · exact .inr ⟨by omega, hn⟩
    · rw [hafter]
      constructor
      · rintro ⟨hfrom, hn⟩
        exact ⟨by omega, by omega, hn⟩
      · rintro ⟨hfrom, hnot, hn⟩
        exact ⟨by omega, hn⟩

/-- What lies between intervals with gaps has gaps itself. -/
lemma separate_complementFrom {start : Nat} (h : Separate is) (hstart : ∀ i ∈ is, start ≤ i.low) :
    Separate (complementFrom start is) ∧ ∀ j ∈ complementFrom start is, start ≤ j.low := by
  induction is generalizing start with
  | nil =>
    rw [complementFrom]
    split_ifs with hmax
    · exact ⟨separate_singleton hmax, by simp⟩
    · exact ⟨separate_nil, by simp⟩
  | cons i is ih =>
    obtain ⟨hni, hgap, hrest⟩ := separate_cons.1 h
    have hi := hstart i List.mem_cons_self
    obtain ⟨hseparate, hfrom⟩ := ih hrest fun j hj => Nat.le_of_lt (hgap j hj)
    have hfrom' : ∀ j ∈ complementFrom (i.high + 1) is, start ≤ j.low := by
      intro j hj
      have := hfrom j hj
      omega
    rw [complementFrom]
    split_ifs with hlt
    · refine ⟨separate_cons.2 ⟨?_, fun j hj => ?_, hseparate⟩,
        List.forall_mem_cons.2 ⟨Nat.le_refl _, hfrom'⟩⟩
      · dsimp only
        omega
      · have := hfrom j hj
        dsimp only
        omega
    · exact ⟨hseparate, hfrom'⟩

/-- **The complement** covers the code points that are not covered. -/
lemma covers_complement (h : Separate is) (hn : n ≤ maxCode) :
    covers (complement is) n = !covers is n := by
  rw [Bool.eq_iff_iff, complement, covers_complementFrom h hn fun _ _ => Nat.zero_le _,
    Bool.not_eq_true']
  exact and_iff_right (Nat.zero_le n)

/-- The complement has gaps between its intervals. -/
lemma separate_complement (h : Separate is) : Separate (complement is) :=
  (separate_complementFrom h fun _ _ => Nat.zero_le _).1

/-- **The union** covers what either list covers. -/
lemma covers_union (is js : List Interval) (n : Nat) :
    covers (union is js) n = (covers is n || covers js n) := by
  rw [union, covers_normalize, Bool.eq_iff_iff, covers_append, Bool.or_eq_true]

/-- The union has gaps between its intervals. -/
lemma separate_union (h : Separate is) (h' : Separate js) : Separate (union is js) := by
  refine separate_normalize fun i hi => ?_
  rcases List.mem_append.1 hi with hi | hi
  · exact h.nonempty i hi
  · exact h'.nonempty i hi

/-- **The intersection** covers what both lists cover. -/
lemma covers_inter (h : Separate is) (h' : Separate js) (hn : n ≤ maxCode) :
    covers (inter is js) n = (covers is n && covers js n) := by
  rw [inter, covers_complement (separate_union (separate_complement h) (separate_complement h')) hn,
    covers_union, covers_complement h hn, covers_complement h' hn, Bool.not_or, Bool.not_not,
    Bool.not_not]

/-- The intersection has gaps between its intervals. -/
lemma separate_inter (h : Separate is) (h' : Separate js) : Separate (inter is js) :=
  separate_complement (separate_union (separate_complement h) (separate_complement h'))

/-- The code points of which a test holds, one interval for each. -/
lemma covers_singletons (ns : List Nat) (n : Nat) :
    covers (ns.map fun k => ⟨k, k⟩) n = true ↔ n ∈ ns := by
  rw [covers, List.any_map, List.any_eq_true]
  simp only [Function.comp_apply, Bool.and_eq_true, decide_eq_true_eq]
  constructor
  · rintro ⟨k, hk, hle, hge⟩
    obtain rfl : k = n := by omega
    exact hk
  · exact fun hn => ⟨n, hn, Nat.le_refl n, Nat.le_refl n⟩

/-- A table covers the code points of its ranges. -/
lemma covers_ofTable (t : Array (Nat × Nat)) (n : Nat) :
    covers (ofTable t) n = Text.inRanges t n := by
  rw [covers, ofTable, List.any_map, Text.inRanges, ← Array.any_toList]
  rfl

/-- A table has gaps when each of its ranges has a gap to the next one. -/
lemma separate_ofTable {t : Array (Nat × Nat)} (hnonempty : ∀ r ∈ t.toList, r.1 ≤ r.2)
    (hchain : t.toList.IsChain fun r r' => r.2 + 1 < r'.1) : Separate (ofTable t) := by
  suffices h : t.toList.Pairwise fun r r' => r.2 + 1 < r'.1 by
    refine ⟨fun i hi => ?_, List.pairwise_map.2 h⟩
    obtain ⟨r, hr, rfl⟩ := List.mem_map.1 hi
    exact hnonempty r hr
  generalize t.toList = rs at hnonempty hchain
  induction rs with
  | nil => exact .nil
  | cons r rs ih =>
    cases rs with
    | nil => exact List.pairwise_singleton _ _
    | cons q rs =>
      obtain ⟨hrq, hqrs⟩ := List.isChain_cons_cons.1 hchain
      have hq : q.1 ≤ q.2 := hnonempty q (by simp)
      have hafter := ih (fun r' hr' => hnonempty r' (List.mem_cons_of_mem _ hr')) hqrs
      refine List.pairwise_cons.2 ⟨fun r' hr' => ?_, hafter⟩
      rcases List.mem_cons.1 hr' with rfl | hr'
      · exact hrq
      · have := (List.pairwise_cons.1 hafter).1 r' hr'
        omega

end Interval

open HttpStub.Regex.Interval

/-! ## Sets of characters -/

/-- The code points below a bound of which a test of characters holds, when it holds of no others. -/
lemma covers_filter_range {p : Char → Bool} {bound : Nat} {c : Char}
    (h : p c = true → c.toNat < bound) :
    covers (normalize (((List.range bound).filter fun n => p (Char.ofNat n)).map fun n => ⟨n, n⟩))
      c.toNat = p c := by
  rw [covers_normalize, Bool.eq_iff_iff, covers_singletons, List.mem_filter, List.mem_range,
    Char.ofNat_toNat]
  exact and_iff_right_of_imp h

/-- Letters and digits, as the named classes know them, are characters of ASCII. -/
lemma toNat_lt_of_isAlphanum {c : Char} (h : c.isAlphanum = true) : c.toNat < 128 := by
  have hle : ∀ d : Char, c.val ≤ d.val → d.toNat < 128 → c.toNat < 128 := fun d hcd hd =>
    Nat.lt_of_le_of_lt (UInt32.le_iff_toNat_le.1 hcd) hd
  rcases Bool.or_eq_true_iff.1 h with halpha | hdigit
  · rcases Bool.or_eq_true_iff.1 halpha with hupper | hlower
    · exact hle 'Z' (of_decide_eq_true hupper).2 (by decide)
    · exact hle 'z' (of_decide_eq_true (Bool.and_eq_true_iff.1 hlower).2) (by decide)
  · exact hle '9' (of_decide_eq_true (Bool.and_eq_true_iff.1 hdigit).2) (by decide)

/-- Named classes hold characters of ASCII only. -/
lemma NamedClass.toNat_lt_of_contains {k : NamedClass} {c : Char} (h : k.contains c = true) :
    c.toNat < 128 := by
  have hupper : c.isUpper = true → c.isAlphanum = true := fun hc =>
    Bool.or_eq_true_iff.2 (.inl (Bool.or_eq_true_iff.2 (.inl hc)))
  have hlower : c.isLower = true → c.isAlphanum = true := fun hc =>
    Bool.or_eq_true_iff.2 (.inl (Bool.or_eq_true_iff.2 (.inr hc)))
  have hdigit : c.isDigit = true → c.isAlphanum = true := fun hc => Bool.or_eq_true_iff.2 (.inr hc)
  have hletter : c.isAlpha = true → c.isAlphanum = true := fun hc => Bool.or_eq_true_iff.2 (.inl hc)
  by_cases halnum : c.isAlphanum = true
  · exact toNat_lt_of_isAlphanum halnum
  · -- letters and digits apart, a class is given by characters and bounds
    have hchar : ∀ d : Char, c = d ↔ c.toNat = d.toNat := fun d =>
      ⟨congrArg _, fun hcd => Char.ext (UInt32.toNat_inj.1 hcd)⟩
    cases k <;>
      simp only [contains, mt hupper halnum, mt hlower halnum, mt hdigit halnum, mt hletter halnum,
        halnum, Bool.false_eq_true, false_or, Bool.or_eq_true, Bool.and_eq_true, decide_eq_true_eq,
        beq_iff_eq, Char.le_def, UInt32.le_iff_toNat_le, hchar, Char.toNat, Char.reduceVal,
        UInt32.reduceToNat] at h ⊢ <;>
      omega

/-- White space ends in the block of punctuation for ideographs. -/
lemma toNat_lt_of_isBlank {c : Char} (h : Text.isBlank c = true) : c.toNat < 0x3001 := by
  simp only [Text.isBlank, Bool.or_eq_true, Bool.and_eq_true, decide_eq_true_eq, beq_iff_eq] at h
  omega

/-- A test of ASCII may stand for a table there. Only the first ranges of the table lie below `0x80`,
so that these are all that there is to compare. -/
lemma covers_ofTable_of_ascii {t : Array (Nat × Nat)} {p : Char → Bool} (k : Nat)
    (hlater : ∀ i ∈ (ofTable t).drop k, 0x80 ≤ i.low)
    (hfirst : ∀ n < 0x80, covers ((ofTable t).take k) n = p (Char.ofNat n)) (c : Char) :
    covers (ofTable t) c.toNat = if c.toNat < 0x80 then p c else Text.inRanges t c.toNat := by
  split_ifs with hlt
  · have hnot : covers ((ofTable t).drop k) c.toNat = false :=
      covers_eq_false_of_lt fun i hi => Nat.lt_of_lt_of_le hlt (hlater i hi)
    rw [← List.take_append_drop k (ofTable t), Bool.eq_iff_iff, covers_append, hnot, hfirst _ hlt,
      Char.ofNat_toNat]
    simp
  · exact covers_ofTable t c.toNat

namespace CharSet

/-- Every part of the set has regard to letter case, and no range in it is empty. -/
def Exact : CharSet → Prop
  | .range casing low high => casing = .exact ∧ low ≤ high
  | .named casing _ => casing = .exact
  | .table ranges => ∀ r ∈ ranges.toList, r.1 ≤ r.2
  | .close casing s => casing = .exact ∧ s.Exact
  | .not s => s.Exact
  | .union s t | .inter s t => s.Exact ∧ t.Exact
  | .none | .all | .digit | .space | .word => True

/-- **The intervals of a set are apart from each other.** -/
theorem separate_intervals {s : CharSet} (h : s.Exact) : Separate s.intervals := by
  have hsingles : ∀ ns : List Nat, Separate (normalize (ns.map fun n => ⟨n, n⟩)) := fun ns =>
    separate_normalize fun i hi => by
      obtain ⟨n, _, rfl⟩ := List.mem_map.1 hi
      exact Nat.le_refl n
  induction s with
  | none => exact separate_nil
  | all => exact separate_singleton (Nat.zero_le _)
  | range casing low high =>
    obtain ⟨rfl, hle⟩ := h
    exact separate_singleton hle
  | named casing k =>
    obtain rfl : casing = .exact := h
    exact hsingles _
  | digit => exact separate_ofTable (by decide +kernel) (by decide +kernel)
  | space => exact hsingles _
  | word => exact separate_ofTable (by decide +kernel) (by decide +kernel)
  | table ranges =>
    refine separate_normalize fun i hi => ?_
    obtain ⟨r, hr, rfl⟩ := List.mem_map.1 hi
    exact h r hr
  | close casing s ih =>
    obtain ⟨rfl, hs⟩ := h
    exact ih hs
  | not s ih => exact separate_complement (ih h)
  | union s t ihs iht => exact separate_union (ihs h.1) (iht h.2)
  | inter s t ihs iht => exact separate_inter (ihs h.1) (iht h.2)

/-- **The intervals of a set are its characters**: they cover the code point of a character exactly
when the set contains it. -/
theorem covers_intervals {s : CharSet} (h : s.Exact) (c : Char) :
    covers s.intervals c.toNat = s.contains c := by
  have hmax : c.toNat ≤ maxCode := Nat.le_of_lt_succ (Utf8.toNat_lt c)
  induction s with
  | none => rfl
  | all => simpa [intervals, covers, contains] using hmax
  | range casing low high =>
    obtain ⟨rfl, -⟩ := h
    rfl
  | named casing k =>
    obtain rfl : casing = .exact := h
    refine (covers_filter_range NamedClass.toNat_lt_of_contains).trans ?_
    simp [contains, Casing.variants]
  | digit => exact covers_ofTable_of_ascii 1 (by decide +kernel) (by decide +kernel) c
  | space => exact covers_filter_range toNat_lt_of_isBlank
  | word =>
    exact covers_ofTable_of_ascii (p := fun c => c.isAlphanum || c == '_') 4 (by decide +kernel)
      (by decide +kernel) c
  | table ranges => exact (covers_normalize _ _).trans (covers_ofTable _ _)
  | close casing s ih =>
    obtain ⟨rfl, hs⟩ := h
    refine (ih hs).trans ?_
    simp [contains, Casing.variants]
  | not s ih =>
    have hs : s.Exact := h
    refine (covers_complement (separate_intervals hs) hmax).trans ?_
    rw [contains, ih hs]
  | union s t ihs iht =>
    refine (covers_union _ _ _).trans ?_
    rw [contains, ihs h.1, iht h.2]
  | inter s t ihs iht =>
    refine (covers_inter (separate_intervals h.1) (separate_intervals h.2) hmax).trans ?_
    rw [contains, ihs h.1, iht h.2]

end CharSet

end HttpStub.Regex
