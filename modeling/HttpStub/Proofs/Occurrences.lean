import HttpStub.Proofs.Groups
import Mathlib.Data.List.FinRange
import Mathlib.Data.List.Flatten

set_option autoImplicit false

/-!
# Occurrences in a list

Where the members of a list stand that have a key, and grouping by keys as an order of the positions
of the list.

## Main definitions

* `HttpStub.occurrences` — the positions of the members that have a key.
* `HttpStub.rank` — how many members before a position have the key of its member.
* `HttpStub.groupedPositions` — all positions, those of a group together.

## Main results

* `HttpStub.rank_of_mem_zipIdx` — the rank of an occurrence is its number among all of them.
* `HttpStub.groupBy_eq_map_positions` — the groups of a list are the groups of its positions.
* `HttpStub.groupedPositions_perm` — every position is in one group, and once.
* `HttpStub.pairwise_groupedPositions` — the order of the positions.
-/

namespace HttpStub

/-! ## Grouping and functions -/

section Groups

variable {κ α β : Type} {same : κ → κ → Bool}

/-- A function of the members goes through a group, where one is added. -/
lemma addToGroup_map (f : α → β) (k : κ) (a : α) (gs : List (κ × List α)) :
    addToGroup same k (f a) (gs.map fun g => (g.1, g.2.map f)) =
      (addToGroup same k a gs).map fun g => (g.1, g.2.map f) := by
  induction gs with
  | nil => rfl
  | cons g gs ih =>
    obtain ⟨j, as⟩ := g
    by_cases hj : same j k = true
    · simp [addToGroup, hj]
    · simp [addToGroup, hj, ih]

/-- A function of the members does not change the groups. -/
lemma groupBy_map (f : α → β) (xs : List (κ × α)) :
    groupBy same (xs.map fun x => (x.1, f x.2)) =
      (groupBy same xs).map fun g => (g.1, g.2.map f) := by
  induction xs using List.reverseRecOn with
  | nil => rfl
  | append_singleton xs x ih =>
    rw [List.map_append, List.map_singleton, groupBy_append_singleton, groupBy_append_singleton,
      ih]
    exact addToGroup_map f x.1 x.2 _

/-- Adding a member to a group adds it to all members, and nothing else. -/
lemma addToGroup_flatMap_perm (k : κ) (a : α) (gs : List (κ × List α)) :
    ((addToGroup same k a gs).flatMap Prod.snd).Perm (gs.flatMap Prod.snd ++ [a]) := by
  rcases @addToGroup_cases _ _ same k a gs with ⟨-, heq⟩ | ⟨l, j, as, r, rfl, -, -, heq⟩
  · rw [heq, List.flatMap_append, List.flatMap_singleton]
  · have hcomm : ([a] ++ r.flatMap Prod.snd).Perm (r.flatMap Prod.snd ++ [a]) :=
      List.perm_append_comm
    rw [heq]
    simp only [List.flatMap_append, List.flatMap_cons, List.append_assoc]
    exact (hcomm.append_left as).append_left _

/-- **Each member is in one group**, and once. -/
lemma groupBy_flatMap_perm (xs : List (κ × α)) :
    ((groupBy same xs).flatMap Prod.snd).Perm (xs.map Prod.snd) := by
  induction xs using List.reverseRecOn with
  | nil => exact .refl _
  | append_singleton xs x ih =>
    rw [groupBy_append_singleton, List.map_append]
    exact (addToGroup_flatMap_perm x.1 x.2 _).trans (ih.append_right _)

/-- A group has a member, and all its members are in the list. -/
lemma members_of_mem_groupBy [BEq κ] [LawfulBEq κ] {xs : List (κ × α)} {g : κ × List α}
    (hg : g ∈ groupBy (· == ·) xs) : (∃ a, a ∈ g.2) ∧ ∀ a ∈ g.2, a ∈ xs.map Prod.snd := by
  obtain ⟨k, as⟩ := g
  obtain ⟨hk, rfl⟩ := mem_groupBy_iff.1 hg
  obtain ⟨x, hx, rfl⟩ := List.mem_map.1 hk
  refine ⟨⟨x.2, List.mem_map_of_mem (List.mem_filter.2 ⟨hx, BEq.rfl⟩)⟩, fun a ha => ?_⟩
  exact (List.filter_sublist.map Prod.snd).subset ha

/-- **The groups are in the order in which they were opened**: of two groups, the first one has a
member that comes before all members of the second one. -/
lemma pairwise_groupBy [BEq κ] [LawfulBEq κ] {r : α → α → Prop} {xs : List (κ × α)}
    (h : (xs.map Prod.snd).Pairwise r) :
    (groupBy (· == ·) xs).Pairwise fun g g' => ∃ a ∈ g.2, ∀ b ∈ g'.2, r a b := by
  induction xs using List.reverseRecOn with
  | nil => exact .nil
  | append_singleton xs x ih =>
    rw [List.map_append, List.pairwise_append] at h
    obtain ⟨hxs, -, hlast⟩ := h
    specialize ih hxs
    have hgroup : ∀ g ∈ groupBy (· == ·) xs, ∀ a ∈ g.2, r a x.2 := fun g hg a ha =>
      hlast a ((members_of_mem_groupBy hg).2 a ha) x.2 List.mem_cons_self
    rw [groupBy_append_singleton]
    rcases @addToGroup_cases _ _ (· == ·) x.1 x.2 (groupBy (· == ·) xs) with
      ⟨-, heq⟩ | ⟨l, j, as, gs, hgs, -, -, heq⟩
    · rw [heq, List.pairwise_append]
      refine ⟨ih, List.pairwise_singleton _ _, fun g hg g' hg' => ?_⟩
      obtain rfl := List.mem_singleton.1 hg'
      obtain ⟨a, ha⟩ := (members_of_mem_groupBy hg).1
      exact ⟨a, ha, fun b hb => List.mem_singleton.1 hb ▸ hgroup g hg a ha⟩
    · rw [heq]
      rw [hgs, List.pairwise_append, List.pairwise_cons] at ih
      rw [hgs] at hgroup
      rw [List.pairwise_append, List.pairwise_cons]
      obtain ⟨hl, ⟨hj, hr⟩, hcross⟩ := ih
      -- the joined group keeps its members, and each group before it has one before the new one
      refine ⟨hl, ⟨fun g' hg' => ?_, hr⟩, fun g hg g' hg' => ?_⟩
      · obtain ⟨a, ha, hab⟩ := hj g' hg'
        exact ⟨a, List.mem_append_left _ ha, hab⟩
      · rcases List.mem_cons.1 hg' with rfl | hg'
        · obtain ⟨a, ha, hab⟩ := hcross g hg _ List.mem_cons_self
          refine ⟨a, ha, fun b hb => ?_⟩
          rcases List.mem_append.1 hb with hb | hb
          · exact hab b hb
          · exact List.mem_singleton.1 hb ▸ hgroup g (List.mem_append_left _ hg) a ha
        · exact hcross g hg g' (List.mem_cons_of_mem _ hg')

end Groups

/-! ## Positions -/

section Positions

variable {α κ : Type} (key : α → κ) (xs : List α)

/-- The positions of a list, when the keys that come with them are dropped. -/
lemma map_snd_positions :
    ((List.finRange xs.length).map fun i => (key (xs.get i), i)).map Prod.snd =
      List.finRange xs.length := by
  rw [List.map_map]
  exact List.map_id _

variable [DecidableEq κ]

/-- The positions of the members that have the key, in increasing order. -/
def occurrences (k : κ) : List (Fin xs.length) :=
  (List.finRange xs.length).filter fun i => key (xs.get i) = k

/-- How many members before the position have the key of the member at the position. -/
def rank (i : Fin xs.length) : Nat :=
  (occurrences key xs (key (xs.get i))).countP (· < i)

/-- All positions, those of a group together, the groups in the order in which their keys arrive. -/
def groupedPositions : List (Fin xs.length) :=
  (groupBy (· == ·) ((List.finRange xs.length).map fun i => (key (xs.get i), i))).flatMap Prod.snd

variable {key xs} {i : Fin xs.length} {k : κ}

/-- A position is an occurrence of the key of its member. -/
lemma mem_occurrences_iff : i ∈ occurrences key xs k ↔ key (xs.get i) = k := by
  simp [occurrences]

/-- Occurrences are in the order of the list. -/
lemma pairwise_occurrences (key : α → κ) (xs : List α) (k : κ) :
    (occurrences key xs k).Pairwise (· < ·) :=
  (List.pairwise_lt_finRange xs.length).filter _

/-- In an increasing list, as many members are smaller than a member as stand before it. -/
lemma countP_lt_of_mem_zipIdx {n m j : Nat} {is : List (Fin n)} (h : is.Pairwise (· < ·))
    {i : Fin n} (hi : (i, j) ∈ is.zipIdx m) : j = m + is.countP (· < i) := by
  induction is generalizing m with
  | nil => exact absurd hi List.not_mem_nil
  | cons a is ih =>
    obtain ⟨ha, his⟩ := List.pairwise_cons.1 h
    rw [List.zipIdx_cons] at hi
    rcases List.mem_cons.1 hi with heq | hi
    · obtain ⟨rfl, rfl⟩ := Prod.mk.inj heq
      have hnone : is.countP (· < i) = 0 := by
        rw [List.countP_eq_zero]
        intro b hb hlt
        exact lt_asymm (ha b hb) (of_decide_eq_true hlt)
      simp [hnone]
    · have hlt : a < i := ha i (List.fst_mem_of_mem_zipIdx hi)
      rw [ih his hi]
      simp only [List.countP_cons, hlt, decide_true, if_true]
      omega

/-- **The rank of an occurrence** is its number among the occurrences of its key. -/
lemma rank_of_mem_zipIdx {j : Nat} (h : (i, j) ∈ (occurrences key xs k).zipIdx) :
    rank key xs i = j := by
  have hk : key (xs.get i) = k := mem_occurrences_iff.1 (List.fst_mem_of_mem_zipIdx h)
  rw [rank, hk, countP_lt_of_mem_zipIdx (pairwise_occurrences key xs k) h, Nat.zero_add]

/-- The groups of positions hold the occurrences of their keys. -/
lemma mem_groupBy_positions_iff {is : List (Fin xs.length)} :
    (k, is) ∈ groupBy (· == ·) ((List.finRange xs.length).map fun i => (key (xs.get i), i)) ↔
      (∃ i : Fin xs.length, key (xs.get i) = k) ∧ is = occurrences key xs k := by
  rw [mem_groupBy_iff, List.map_map, List.filter_map, List.map_map]
  have hkeys : k ∈ (List.finRange xs.length).map (Prod.fst ∘ fun i => (key (xs.get i), i)) ↔
      ∃ i : Fin xs.length, key (xs.get i) = k := by
    simp
  have hocc : ((List.finRange xs.length).filter ((·.1 == k) ∘ fun i => (key (xs.get i), i))).map
      (Prod.snd ∘ fun i => (key (xs.get i), i)) = occurrences key xs k := by
    simp only [Function.comp_def, List.map_id_fun', id, occurrences]
    rfl
  rw [hkeys, hocc]

/-- **The groups of a list are the groups of its positions.** -/
lemma groupBy_eq_map_positions (key : α → κ) (xs : List α) :
    groupBy (· == ·) (xs.map fun x => (key x, x)) =
      (groupBy (· == ·) ((List.finRange xs.length).map fun i => (key (xs.get i), i))).map
        fun g => (g.1, g.2.map fun i => xs.get i) := by
  have hxs : (List.finRange xs.length).map (fun i => xs.get i) = xs := List.map_getElem_finRange xs
  rw [← groupBy_map, List.map_map]
  conv_lhs => rw [← hxs, List.map_map]
  rfl

/-- **Every position is in one group**, and once. -/
lemma groupedPositions_perm (key : α → κ) (xs : List α) :
    (groupedPositions key xs).Perm (List.finRange xs.length) :=
  (groupBy_flatMap_perm _).trans (.of_eq (map_snd_positions key xs))

/-- **The positions of a group** are in increasing order, and those of different groups in the order
in which the groups were opened. -/
lemma pairwise_groupedPositions (key : α → κ) (xs : List α) :
    (groupedPositions key xs).Pairwise fun i j =>
      key (xs.get i) = key (xs.get j) ∧ i < j ∨
        ∃ m : Fin xs.length, key (xs.get m) = key (xs.get i) ∧
          ∀ m' : Fin xs.length, key (xs.get m') = key (xs.get j) → m < m' := by
  have hpositions : (((List.finRange xs.length).map fun i => (key (xs.get i), i)).map
      Prod.snd).Pairwise (· < ·) := by
    rw [map_snd_positions]
    exact List.pairwise_lt_finRange _
  rw [groupedPositions, List.pairwise_flatMap]
  constructor
  · rintro ⟨k, is⟩ hg
    obtain ⟨-, rfl⟩ := mem_groupBy_positions_iff.1 hg
    refine (pairwise_occurrences key xs k).imp_of_mem fun hi hj hlt => .inl ⟨?_, hlt⟩
    exact (mem_occurrences_iff.1 hi).trans (mem_occurrences_iff.1 hj).symm
  · refine (pairwise_groupBy hpositions).imp_of_mem fun {g g'} hg hg' hfirst i hi j hj => .inr ?_
    obtain ⟨k, is⟩ := g
    obtain ⟨k', js⟩ := g'
    obtain ⟨-, rfl⟩ := mem_groupBy_positions_iff.1 hg
    obtain ⟨-, rfl⟩ := mem_groupBy_positions_iff.1 hg'
    obtain ⟨m, hm, hbefore⟩ := hfirst
    refine ⟨m, (mem_occurrences_iff.1 hm).trans (mem_occurrences_iff.1 hi).symm, fun m' hm' => ?_⟩
    exact hbefore m' (mem_occurrences_iff.2 (hm'.trans (mem_occurrences_iff.1 hj)))

end Positions

end HttpStub
