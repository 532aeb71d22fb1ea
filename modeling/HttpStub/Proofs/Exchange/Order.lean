import HttpStub.Exchange.Snapshot
import Mathlib.Data.Prod.Lex
import Mathlib.Data.String.Basic

set_option autoImplicit false

/-!
# The order of a snapshot

The stubs of a snapshot are sorted by name and key. The sort is stable: stubs with the same name and
the same key stay in the order in which they were made.

## Main definitions

* `HttpStub.Stub.place` — what a stub is sorted by.
* `HttpStub.Reordered` — a list in another order, where members with the same key keep theirs.
* `HttpStub.withKeyFirst` — such an order, with the members of one key at the front.

## Main results

* `HttpStub.pairwise_mergeSort_of_tie` — sorting keeps the order of members that are tied.
* `HttpStub.eq_of_filter_eq` — sorted lists that hold the same members of each key are equal.
* `HttpStub.eq_of_increasing_key` — so are lists with increasing keys that hold the same members.
* `HttpStub.Stub.before_iff` — the comparison of stubs is that of their places.
* `HttpStub.pairwise_mergeSort_before` — sorted stubs are in the order of their places.
* `HttpStub.eq_of_increasing` — stubs at increasing places are determined by which they are.
-/

namespace HttpStub

/-! ## Reorderings -/

/-- The second list holds the members of the first one, and members with the same key are in the
same order. -/
structure Reordered {α κ : Type} [DecidableEq κ] (key : α → κ) (xs ys : List α) : Prop where
  perm : xs.Perm ys
  filter_eq : ∀ k, xs.filter (key · = k) = ys.filter (key · = k)

/-- Neighbours with different keys may change places. -/
lemma Reordered.swap {α κ : Type} [DecidableEq κ] {key : α → κ} {a b : α} (h : key a ≠ key b)
    (xs ys : List α) : Reordered key (xs ++ a :: b :: ys) (xs ++ b :: a :: ys) where
  perm := (List.Perm.swap b a ys).append_left xs
  filter_eq k := by
    have hpair : [a, b].filter (key · = k) = [b, a].filter (key · = k) := by
      by_cases ha : key a = k
      · have hb : key b ≠ k := fun hb => h (ha.trans hb.symm)
        simp [ha, hb]
      · by_cases hb : key b = k <;> simp [ha, hb]
    have hsplit : ∀ c d : α, xs ++ c :: d :: ys = xs ++ ([c, d] ++ ys) := fun _ _ => rfl
    rw [hsplit, hsplit, List.filter_append, List.filter_append, hpair, List.filter_append,
      List.filter_append]

section Reordered

variable {α κ : Type} [DecidableEq κ] {key : α → κ} {xs ys zs : List α}

/-- Reordering again is reordering. -/
lemma Reordered.trans (h : Reordered key xs ys) (h' : Reordered key ys zs) : Reordered key xs zs :=
  ⟨h.perm.trans h'.perm, fun k => (h.filter_eq k).trans (h'.filter_eq k)⟩

/-- The members with this key first, and then the others. -/
def withKeyFirst (key : α → κ) (k : κ) (xs : List α) : List α :=
  xs.filter (key · = k) ++ xs.filter (key · ≠ k)

/-- The members with one key may be moved to the front. -/
lemma reordered_withKeyFirst (key : α → κ) (k : κ) (xs : List α) :
    Reordered key xs (withKeyFirst key k xs) where
  perm := by
    have hperm := List.filter_append_perm (key · = k) xs
    simp only [← decide_not] at hperm
    exact hperm.symm
  filter_eq j := by
    rw [withKeyFirst, List.filter_append, List.filter_filter, List.filter_filter]
    by_cases hj : j = k
    · subst hj
      simp
    · have hfirst : ∀ x ∈ xs, (decide (key x = j) && decide (key x = k)) = false := by
        intro x _
        by_cases hx : key x = j <;> simp [hx, hj]
      have hothers : ∀ x ∈ xs,
          (decide (key x = j) && decide (key x ≠ k)) = decide (key x = j) := by
        intro x _
        by_cases hx : key x = j <;> simp [hx, hj]
      rw [List.filter_congr hfirst, List.filter_congr hothers]
      simp

end Reordered

/-! ## Stable sorting -/

/-- Members that may stand in either order keep their order when a list is sorted. -/
lemma filter_mergeSort {α : Type} {le : α → α → Bool}
    (trans : ∀ a b c, le a b = true → le b c = true → le a c = true)
    (total : ∀ a b, (le a b || le b a) = true) {p : α → Bool}
    (hp : ∀ a b, p a = true → p b = true → le a b = true) (xs : List α) :
    (xs.mergeSort le).filter p = xs.filter p := by
  have hsorted : (xs.filter p).Pairwise fun a b => le a b = true :=
    List.pairwise_of_forall_mem_list fun a ha b hb =>
      hp a b (List.mem_filter.1 ha).2 (List.mem_filter.1 hb).2
  have hsub : (xs.filter p).Sublist (xs.mergeSort le) :=
    List.sublist_mergeSort trans total hsorted List.filter_sublist
  have hkept : (xs.filter p).Sublist ((xs.mergeSort le).filter p) := by
    simpa only [List.filter_filter, Bool.and_self] using hsub.filter p
  -- sorting keeps the number of such members, so none has been added in between
  exact (hkept.eq_of_length ((List.mergeSort_perm xs le).filter p).length_eq.symm).symm

/-- **Sorting is stable**: of two members that may stand in either order, the one that comes first
came first before. -/
lemma pairwise_mergeSort_of_tie {α : Type} {le : α → α → Bool}
    (trans : ∀ a b c, le a b = true → le b c = true → le a c = true)
    (total : ∀ a b, (le a b || le b a) = true) {r : α → α → Prop} {xs : List α}
    (h : xs.Pairwise r) : (xs.mergeSort le).Pairwise fun a b => le b a = true → r a b := by
  rw [List.pairwise_iff_forall_sublist]
  intro a b hsub hba
  have hab : le a b = true := by
    simpa using (List.pairwise_mergeSort trans total xs).sublist hsub
  have hbb : le b b = true := trans b a b hba hab
  have hties := hsub.filter fun c => le b c && le c b
  rw [filter_mergeSort trans total, List.filter_cons_of_pos (by rw [hba, hab]; rfl),
    List.filter_cons_of_pos (by rw [hbb]; rfl), List.filter_nil] at hties
  · exact List.rel_of_pairwise_cons (h.sublist (hties.trans List.filter_sublist))
      List.mem_cons_self
  · intro c d hc hd
    rw [Bool.and_eq_true] at hc hd
    exact trans c b d hc.2 hd.1

/-- **A sorted list is determined by its members of each key**, in their order. -/
lemma eq_of_filter_eq {α κ : Type} [LinearOrder κ] {key : α → κ} {xs ys : List α}
    (hx : xs.Pairwise fun a b => key a ≤ key b) (hy : ys.Pairwise fun a b => key a ≤ key b)
    (h : ∀ k, xs.filter (key · = k) = ys.filter (key · = k)) : xs = ys := by
  have hmem : ∀ {us vs : List α}, (∀ k, us.filter (key · = k) = vs.filter (key · = k)) →
      ∀ a ∈ us, a ∈ vs := fun hk a ha =>
    (List.mem_filter.1 (hk (key a) ▸ List.mem_filter.2 ⟨ha, decide_eq_true rfl⟩)).1
  induction xs generalizing ys with
  | nil =>
    exact (List.eq_nil_iff_forall_not_mem.2 fun b hb =>
      List.not_mem_nil (hmem (fun k => (h k).symm) b hb)).symm
  | cons a xs ih =>
    obtain ⟨b, ys, rfl⟩ := List.exists_cons_of_ne_nil
      (List.ne_nil_of_mem (hmem h a List.mem_cons_self))
    obtain ⟨hax, hxs⟩ := List.pairwise_cons.1 hx
    obtain ⟨hby, hys⟩ := List.pairwise_cons.1 hy
    -- each head is in the other list, where nothing comes before the head
    have hkey : key a = key b := by
      apply le_antisymm
      · rcases List.mem_cons.1 (hmem (fun k => (h k).symm) b List.mem_cons_self) with rfl | hb
        · exact le_rfl
        · exact hax b hb
      · rcases List.mem_cons.1 (hmem h a List.mem_cons_self) with rfl | ha
        · exact le_rfl
        · exact hby a ha
    have hhead := h (key a)
    rw [List.filter_cons_of_pos (by simp), List.filter_cons_of_pos (by simp [hkey])] at hhead
    obtain ⟨rfl, -⟩ := List.cons.inj hhead
    refine congrArg (a :: ·) (ih hxs hys fun k => ?_)
    have hk := h k
    by_cases ha : key a = k
    · simpa [ha] using hk
    · simpa [ha] using hk

/-- **A list with increasing keys** is determined by its members. -/
lemma eq_of_increasing_key {α κ : Type} [Preorder κ] (key : α → κ) {xs ys : List α}
    (hx : xs.Pairwise fun a b => key a < key b) (hy : ys.Pairwise fun a b => key a < key b)
    (h : ∀ a, a ∈ xs ↔ a ∈ ys) : xs = ys := by
  have hnodup : ∀ {us : List α}, us.Pairwise (fun a b => key a < key b) → us.Nodup :=
    fun hu => hu.imp fun hlt => ne_of_apply_ne key hlt.ne
  have hperm : xs.Perm ys := (List.perm_ext_iff_of_nodup (hnodup hx) (hnodup hy)).2 h
  exact hperm.eq_of_pairwise (fun a b _ _ hab hba => absurd hba hab.asymm) hx hy

/-! ## Places -/

/-- The place of a stub in a snapshot: its name, and then its key. -/
def Stub.place (s : Stub) : String ×ₗ String :=
  toLex (s.displayName, s.key)

/-- The comparison of stubs is that of their places. -/
lemma Stub.before_iff {a b : Stub} : a.before b = true ↔ a.place ≤ b.place := by
  simp only [before, place, Prod.Lex.toLex_le_toLex, Bool.or_eq_true, Bool.and_eq_true,
    decide_eq_true_eq, beq_iff_eq]

/-- The comparison of stubs is transitive. -/
lemma Stub.before_trans (a b c : Stub) (hab : a.before b = true) (hbc : b.before c = true) :
    a.before c = true :=
  before_iff.2 ((before_iff.1 hab).trans (before_iff.1 hbc))

/-- Any two stubs can be compared. -/
lemma Stub.before_total (a b : Stub) : (a.before b || b.before a) = true := by
  rw [Bool.or_eq_true, before_iff, before_iff]
  exact le_total _ _

/-- Sorted stubs are in the order of their places. -/
lemma pairwise_mergeSort_before (ss : List Stub) :
    (ss.mergeSort Stub.before).Pairwise fun a b => a.place ≤ b.place :=
  (List.pairwise_mergeSort Stub.before_trans Stub.before_total ss).imp Stub.before_iff.1

/-- **Stubs at increasing places are determined by which they are**, not by where they came from. -/
lemma eq_of_increasing {ss ts : List Stub} (hs : ss.Pairwise fun a b => a.place < b.place)
    (ht : ts.Pairwise fun a b => a.place < b.place) (h : ∀ s, s ∈ ss ↔ s ∈ ts) : ss = ts :=
  eq_of_increasing_key Stub.place hs ht h

end HttpStub
