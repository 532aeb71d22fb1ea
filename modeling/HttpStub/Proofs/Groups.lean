import HttpStub.Dict
import Mathlib.Data.List.Induction
import Mathlib.Data.List.Nodup

set_option autoImplicit false

/-!
# Groups, entries and dictionaries

What a list of pairs holds after it has been grouped, put entry by entry into a list, or made into a
dictionary. Each law is first stated of one step and then of the whole list.

## Main definitions

* `HttpStub.Grouped` — groups that hold the members of a list, each where its key belongs.

## Main results

* `HttpStub.grouped_groupBy` — grouping a list gives such groups.
* `HttpStub.Grouped.filter_cases` — the groups of a key are none or a single one.
* `HttpStub.keys_groupBy` — their keys are in the order of arrival.
* `HttpStub.mem_putAll_iff`, `HttpStub.filter_putAll` — of the entries put with the same key the
  last one is left.
* `HttpStub.Dict.mem_ofList_iff`, `HttpStub.Dict.ext_mem` — the entries of a dictionary, and
  equality of dictionaries by their entries.
-/

namespace HttpStub

/-! ## Groups -/

section Groups

variable {κ α : Type} {same : κ → κ → Bool}

/-- The groups hold the members of the list by their keys: each group all members whose key is the
same as its own, in their order. -/
structure Grouped (same : κ → κ → Bool) (xs : List (κ × α)) (gs : List (κ × List α)) : Prop where
  apart : (gs.map Prod.fst).Pairwise fun i j => same i j = false
  key_mem : ∀ i ∈ gs.map Prod.fst, i ∈ xs.map Prod.fst
  covers : ∀ x ∈ xs, ∃ i ∈ gs.map Prod.fst, same i x.1 = true
  members : ∀ g ∈ gs, g.2 = (xs.filter fun x => same g.1 x.1).map Prod.snd

/-- One more member is added to the groups of those before it. -/
lemma groupBy_append_singleton (same : κ → κ → Bool) (xs : List (κ × α)) (x : κ × α) :
    groupBy same (xs ++ [x]) = addToGroup same x.1 x.2 (groupBy same xs) := by
  simp [groupBy]

/-- A new member either opens a group at the end, because no key is the same, or joins the first
group whose key is. -/
lemma addToGroup_cases (k : κ) (a : α) (gs : List (κ × List α)) :
    ((∀ g ∈ gs, same g.1 k = false) ∧ addToGroup same k a gs = gs ++ [(k, [a])]) ∨
      ∃ l j as r, gs = l ++ (j, as) :: r ∧ (∀ g ∈ l, same g.1 k = false) ∧ same j k = true ∧
        addToGroup same k a gs = l ++ (j, as ++ [a]) :: r := by
  induction gs with
  | nil => exact .inl ⟨by simp, rfl⟩
  | cons g gs ih =>
    obtain ⟨j, as⟩ := g
    by_cases hj : same j k = true
    · exact .inr ⟨[], j, as, gs, rfl, by simp, hj, by simp [addToGroup, hj]⟩
    · have hj' : same j k = false := by simpa using hj
      rcases ih with ⟨hall, heq⟩ | ⟨l, i, bs, r, rfl, hl, hi, heq⟩
      · exact .inl ⟨List.forall_mem_cons.2 ⟨hj', hall⟩, by simp [addToGroup, hj', heq]⟩
      · exact .inr ⟨(j, as) :: l, i, bs, r, rfl, List.forall_mem_cons.2 ⟨hj', hl⟩, hi,
          by simp [addToGroup, hj', heq]⟩

/-- A new key opens a group of its own. -/
lemma Grouped.open_group (he : Equivalence fun a b => same a b = true) {xs : List (κ × α)}
    {gs : List (κ × List α)} (h : Grouped same xs gs) {k : κ} (a : α)
    (hnew : ∀ i ∈ gs.map Prod.fst, same i k = false) :
    Grouped same (xs ++ [(k, a)]) (gs ++ [(k, [a])]) := by
  -- no earlier member has the key, because its group would have it too
  have hnone : ∀ x ∈ xs, ¬ same k x.1 = true := by
    intro x hx hkx
    obtain ⟨i, hi, hix⟩ := h.covers x hx
    have hik := he.trans hix (he.symm hkx)
    rw [hnew i hi] at hik
    exact Bool.false_ne_true hik
  refine ⟨?_, ?_, ?_, ?_⟩
  · rw [List.map_append, List.pairwise_append]
    refine ⟨h.apart, List.pairwise_singleton _ _, fun i hi j hj => ?_⟩
    obtain rfl := List.mem_singleton.1 hj
    exact hnew i hi
  · simp only [List.map_append, List.mem_append]
    rintro i (hi | hi)
    · exact .inl (h.key_mem i hi)
    · exact .inr hi
  · intro x hx
    rw [List.map_append]
    rcases List.mem_append.1 hx with hx | hx
    · obtain ⟨i, hi, hix⟩ := h.covers x hx
      exact ⟨i, List.mem_append_left _ hi, hix⟩
    · obtain rfl := List.mem_singleton.1 hx
      exact ⟨k, List.mem_append_right _ List.mem_cons_self, he.refl k⟩
  · intro g hg
    rw [List.filter_append, List.map_append]
    rcases List.mem_append.1 hg with hg | hg
    · simp [h.members g hg, hnew g.1 (List.mem_map_of_mem hg)]
    · obtain rfl := List.mem_singleton.1 hg
      simp [List.filter_eq_nil_iff.2 hnone, he.refl k]

/-- A key that is there already joins its group.

**Proof sketch.** The keys of the groups stay as they are. A group other than the one that is joined
has no new member, since its key is apart from the key of that one, hence from the new key. -/
lemma Grouped.join_group (he : Equivalence fun a b => same a b = true) {xs : List (κ × α)}
    {l r : List (κ × List α)} {j k : κ} {as : List α}
    (h : Grouped same xs (l ++ (j, as) :: r)) (a : α)
    (hl : ∀ i ∈ l.map Prod.fst, same i k = false) (hj : same j k = true) :
    Grouped same (xs ++ [(k, a)]) (l ++ (j, as ++ [a]) :: r) := by
  have hkeys : (l ++ (j, as ++ [a]) :: r).map Prod.fst = (l ++ (j, as) :: r).map Prod.fst := by
    simp only [List.map_append, List.map_cons]
  have hr : ∀ i ∈ r.map Prod.fst, same i k = false := by
    intro i hi
    by_contra hik
    have hji := he.trans hj (he.symm (by simpa using hik : same i k = true))
    have hapart := h.apart
    rw [List.map_append, List.map_cons, List.pairwise_append, List.pairwise_cons] at hapart
    rw [hapart.2.1.1 i hi] at hji
    exact Bool.false_ne_true hji
  have hold : ∀ g ∈ l ++ (j, as) :: r, same g.1 k = false →
      g.2 = ((xs ++ [(k, a)]).filter fun x => same g.1 x.1).map Prod.snd := by
    intro g hg hgk
    simp [h.members g hg, hgk]
  refine ⟨hkeys ▸ h.apart, fun i hi => ?_, fun x hx => ?_, fun g hg => ?_⟩
  · rw [List.map_append]
    exact List.mem_append_left _ (h.key_mem i (hkeys ▸ hi))
  · rw [hkeys]
    rcases List.mem_append.1 hx with hx | hx
    · exact h.covers x hx
    · obtain rfl := List.mem_singleton.1 hx
      exact ⟨j, by simp, hj⟩
  · rcases List.mem_append.1 hg with hg | hg
    · exact hold g (List.mem_append_left _ hg) (hl g.1 (List.mem_map_of_mem hg))
    · rcases List.mem_cons.1 hg with rfl | hg
      · have hjoined := h.members (j, as) (by simp)
        simpa [hj] using hjoined
      · exact hold g (List.mem_append_right _ (List.mem_cons_of_mem _ hg))
          (hr g.1 (List.mem_map_of_mem hg))

/-- **Grouping a list gives the groups of its keys.** -/
lemma grouped_groupBy (he : Equivalence fun a b => same a b = true) (xs : List (κ × α)) :
    Grouped same xs (groupBy same xs) := by
  induction xs using List.reverseRecOn with
  | nil => exact ⟨List.Pairwise.nil, by simp [groupBy], by simp, by simp [groupBy]⟩
  | append_singleton xs x ih =>
    rw [groupBy_append_singleton]
    rcases @addToGroup_cases _ _ same x.1 x.2 (groupBy same xs) with
      ⟨hnew, heq⟩ | ⟨l, j, as, r, hgs, hl, hj, heq⟩
    · rw [heq]
      exact ih.open_group he x.2 (by simpa using hnew)
    · rw [heq]
      rw [hgs] at ih
      exact ih.join_group he x.2 (by simpa using hl) hj

/-- **The groups of a key**: there is none if no member has the key, and otherwise a single one,
which holds all members that do. -/
lemma Grouped.filter_cases (he : Equivalence fun a b => same a b = true) {xs : List (κ × α)}
    {gs : List (κ × List α)} (h : Grouped same xs gs) (k : κ) :
    (gs.filter (fun g => same g.1 k) = [] ∧ xs.filter (fun x => same x.1 k) = []) ∨
      ∃ g, same g.1 k = true ∧ gs.filter (fun g => same g.1 k) = [g] ∧
        g.2 = (xs.filter fun x => same x.1 k).map Prod.snd := by
  rcases hfilter : gs.filter (fun g => same g.1 k) with _ | ⟨g, _ | ⟨g', r⟩⟩
  · refine .inl ⟨hfilter, List.filter_eq_nil_iff.2 fun x hx hxk => ?_⟩
    obtain ⟨i, hi, hix⟩ := h.covers x hx
    obtain ⟨g, hg, rfl⟩ := List.mem_map.1 hi
    exact List.filter_eq_nil_iff.1 hfilter g hg (he.trans hix hxk)
  · obtain ⟨hg, hgk⟩ := List.mem_filter.1 (hfilter ▸ List.mem_cons_self : g ∈ gs.filter _)
    refine .inr ⟨g, hgk, hfilter, ?_⟩
    rw [h.members g hg, List.filter_congr fun x _ => ?_]
    rw [Bool.eq_iff_iff]
    exact ⟨fun hx => he.trans (he.symm hx) hgk, fun hx => he.trans hgk (he.symm hx)⟩
  · -- two groups of one key would not be apart
    have hapart := (List.pairwise_map.1 h.apart).filter fun g => same g.1 k
    have hmem : ∀ f ∈ g :: g' :: r, same f.1 k = true := by
      intro f hf
      rw [← hfilter] at hf
      exact (List.mem_filter.1 hf).2
    rw [hfilter, List.pairwise_cons] at hapart
    have hsame := he.trans (hmem g (by simp)) (he.symm (hmem g' (by simp)))
    rw [hapart.1 g' List.mem_cons_self] at hsame
    exact absurd hsame Bool.false_ne_true

/-- Being the same key is an equivalence. -/
lemma beq_equivalence [BEq κ] [LawfulBEq κ] : Equivalence fun a b : κ => (a == b) = true :=
  ⟨fun _ => BEq.rfl, BEq.symm, fun h h' => BEq.trans h h'⟩

/-- With keys that are compared for equality, the groups are the keys of the list, each with its
values. -/
lemma mem_groupBy_iff [BEq κ] [LawfulBEq κ] {xs : List (κ × α)} {k : κ} {vs : List α} :
    (k, vs) ∈ groupBy (· == ·) xs ↔
      k ∈ xs.map Prod.fst ∧ vs = (xs.filter (·.1 == k)).map Prod.snd := by
  have h := grouped_groupBy beq_equivalence xs
  have hfilter : ∀ i : κ, (xs.filter fun x => i == x.1) = xs.filter (·.1 == i) := fun i =>
    List.filter_congr fun x _ => BEq.comm
  constructor
  · intro hg
    refine ⟨h.key_mem k (List.mem_map_of_mem hg), ?_⟩
    rw [← hfilter]
    exact h.members _ hg
  · rintro ⟨hk, rfl⟩
    obtain ⟨x, hx, rfl⟩ := List.mem_map.1 hk
    obtain ⟨i, hi, hix⟩ := h.covers x hx
    obtain ⟨⟨j, vs⟩, hg, rfl⟩ := List.mem_map.1 hi
    obtain rfl : j = x.1 := eq_of_beq hix
    rw [← hfilter, ← h.members _ hg]
    exact hg

/-- Each key has one group. -/
lemma nodup_keys_groupBy [BEq κ] [LawfulBEq κ] (xs : List (κ × α)) :
    ((groupBy (· == ·) xs).map Prod.fst).Nodup :=
  (grouped_groupBy beq_equivalence xs).apart.imp fun hij => by simpa using hij

/-- **The groups are in the order in which their keys arrive.** -/
lemma keys_groupBy [BEq κ] [LawfulBEq κ] (xs : List (κ × α)) :
    (groupBy (· == ·) xs).map Prod.fst = (xs.map Prod.fst).eraseDups := by
  induction xs using List.reverseRecOn with
  | nil => rfl
  | append_singleton xs x ih =>
    have hmem : x.1 ∈ (groupBy (· == ·) xs).map Prod.fst ↔ x.1 ∈ xs.map Prod.fst := by
      rw [ih, List.mem_eraseDups]
    rw [groupBy_append_singleton, List.map_append, List.map_singleton, List.eraseDups_append, ← ih]
    rcases @addToGroup_cases _ _ (· == ·) x.1 x.2 (groupBy (· == ·) xs) with
      ⟨hnew, heq⟩ | ⟨l, j, as, r, hgs, -, hj, heq⟩
    · have hx : x.1 ∉ xs.map Prod.fst := by
        rw [← hmem]
        intro hx
        obtain ⟨g, hg, hgx⟩ := List.mem_map.1 hx
        simpa [hgx] using hnew g hg
      rw [heq, List.map_append, List.removeAll, List.filter_cons_of_pos (by simpa using hx)]
      rfl
    · have hx : x.1 ∈ xs.map Prod.fst := by
        rw [← hmem, hgs, ← eq_of_beq hj]
        simp
      rw [heq, hgs, List.removeAll, List.filter_cons_of_neg (by simpa using hx)]
      simp

end Groups

/-! ## Entries put one by one -/

section Entries

variable {α β : Type}

/-- A new key goes to the end; a key that is there gets the new value in its place. -/
lemma putEntry_cases (k : String) (v : α) (es : List (String × α)) :
    (k ∉ es.map Prod.fst ∧ putEntry k v es = es ++ [(k, v)]) ∨
      ∃ l w r, es = l ++ (k, w) :: r ∧ k ∉ l.map Prod.fst ∧
        putEntry k v es = l ++ (k, v) :: r := by
  induction es with
  | nil => exact .inl ⟨by simp, rfl⟩
  | cons e es ih =>
    obtain ⟨j, u⟩ := e
    by_cases hj : j = k
    · subst hj
      exact .inr ⟨[], u, es, rfl, by simp, by simp [putEntry]⟩
    · rcases ih with ⟨hk, heq⟩ | ⟨l, w, r, rfl, hl, heq⟩
      · exact .inl ⟨by simpa [Ne.symm hj] using hk, by simp [putEntry, hj, heq]⟩
      · exact .inr ⟨(j, u) :: l, w, r, rfl, by simpa [Ne.symm hj] using hl,
          by simp [putEntry, hj, heq]⟩

/-- Putting an entry keeps the keys different. -/
lemma nodup_keys_putEntry {es : List (String × α)} (h : (es.map Prod.fst).Nodup) (k : String)
    (v : α) : ((putEntry k v es).map Prod.fst).Nodup := by
  rcases putEntry_cases k v es with ⟨hk, heq⟩ | ⟨l, w, r, rfl, -, heq⟩
  · rw [heq, List.map_append]
    exact List.Nodup.append h (List.nodup_singleton k) (by simpa using hk)
  · rw [heq]
    simpa only [List.map_append, List.map_cons] using h

/-- The entries after one is put: this one, and those with other keys. -/
lemma mem_putEntry_iff {es : List (String × α)} (h : (es.map Prod.fst).Nodup) {k : String} {v : α}
    {e : String × α} : e ∈ putEntry k v es ↔ e = (k, v) ∨ e ∈ es ∧ e.1 ≠ k := by
  rcases putEntry_cases k v es with ⟨hk, heq⟩ | ⟨l, w, r, rfl, -, heq⟩
  · have hne : e ∈ es → e.1 ≠ k := by
      rintro he rfl
      exact hk (List.mem_map_of_mem he)
    rw [heq, List.mem_append, List.mem_singleton, or_comm, and_iff_left_of_imp hne]
  · rw [List.map_append, List.map_cons, List.nodup_append, List.nodup_cons] at h
    have hl : e ∈ l → e.1 ≠ k := fun he => h.2.2 _ (List.mem_map_of_mem he) _ List.mem_cons_self
    have hr : e ∈ r → e.1 ≠ k := by
      intro he hek
      exact h.2.1.1 (List.mem_map.2 ⟨e, he, hek⟩)
    rw [heq]
    simp only [List.mem_append, List.mem_cons]
    constructor
    · rintro (he | rfl | he)
      · exact .inr ⟨.inl he, hl he⟩
      · exact .inl rfl
      · exact .inr ⟨.inr (.inr he), hr he⟩
    · rintro (rfl | ⟨he | rfl | he, hek⟩)
      · exact .inr (.inl rfl)
      · exact .inl he
      · exact absurd rfl hek
      · exact .inr (.inr he)

/-- The entries of a key after one has been put: the new one alone, or those that were there. -/
lemma filter_putEntry {es : List (String × α)} (h : (es.map Prod.fst).Nodup) (k : String) (v : α)
    (j : String) :
    (putEntry k v es).filter (·.1 = j) = if k = j then [(k, v)] else es.filter (·.1 = j) := by
  have hnone : ∀ {l : List (String × α)}, k ∉ l.map Prod.fst → l.filter (·.1 = k) = [] := by
    intro l hl
    refine List.filter_eq_nil_iff.2 fun e he hk => hl ?_
    exact of_decide_eq_true hk ▸ List.mem_map_of_mem he
  rcases putEntry_cases k v es with ⟨hk, heq⟩ | ⟨l, w, r, rfl, -, heq⟩
  · rw [heq, List.filter_append]
    by_cases hj : k = j
    · subst hj
      simp [hnone hk]
    · simp [hj]
  · rw [heq, List.filter_append, List.filter_append]
    by_cases hj : k = j
    · subst hj
      rw [List.map_append, List.map_cons, List.nodup_append, List.nodup_cons] at h
      have hl : k ∉ l.map Prod.fst := fun hmem => h.2.2 k hmem k List.mem_cons_self rfl
      simp [hnone hl, hnone h.2.1.1]
    · simp [hj]

section PutAll

variable (key : β → String) (val : β → α)

/-- The entries of the members of a list, put one after the other. -/
def putAll (xs : List β) : List (String × α) :=
  xs.foldl (fun acc x => putEntry (key x) (val x) acc) []

/-- One more entry is put after those before it. -/
lemma putAll_append_singleton (xs : List β) (x : β) :
    putAll key val (xs ++ [x]) = putEntry (key x) (val x) (putAll key val xs) := by
  simp [putAll]

/-- Each key has one entry. -/
lemma nodup_keys_putAll (xs : List β) : ((putAll key val xs).map Prod.fst).Nodup := by
  induction xs using List.reverseRecOn with
  | nil => exact List.nodup_nil
  | append_singleton xs x ih =>
    rw [putAll_append_singleton]
    exact nodup_keys_putEntry ih _ _

/-- **Of the members with the same key the last one is left.** -/
lemma mem_putAll_iff {xs : List β} {e : String × α} :
    e ∈ putAll key val xs ↔
      ∃ l x r, xs = l ++ x :: r ∧ e = (key x, val x) ∧ ∀ y ∈ r, key y ≠ key x := by
  induction xs using List.reverseRecOn with
  | nil => simp [putAll]
  | append_singleton xs x ih =>
    rw [putAll_append_singleton, mem_putEntry_iff (nodup_keys_putAll key val xs), ih]
    constructor
    · rintro (rfl | ⟨⟨l, y, r, rfl, rfl, hr⟩, hy⟩)
      · exact ⟨xs, x, [], rfl, rfl, by simp⟩
      · refine ⟨l, y, r ++ [x], by simp, rfl, ?_⟩
        simpa [or_imp, forall_and, hr] using ⟨hr, Ne.symm hy⟩
    · rintro ⟨l, y, r, hxs, rfl, hr⟩
      rcases List.eq_nil_or_concat' r with rfl | ⟨r, z, rfl⟩
      · obtain ⟨-, hxy⟩ := List.append_inj' hxs rfl
        obtain rfl : x = y := by simpa using hxy
        exact .inl rfl
      · rw [← List.cons_append, ← List.append_assoc] at hxs
        obtain ⟨rfl, hxz⟩ := List.append_inj' hxs rfl
        obtain rfl : x = z := by simpa using hxz
        exact .inr ⟨⟨l, y, r, rfl, rfl, fun w hw => hr w (List.mem_append_left _ hw)⟩,
          (hr x (by simp)).symm⟩

/-- **The entry of a key** is that of the last member that has it. -/
lemma filter_putAll (xs : List β) (k : String) :
    (putAll key val xs).filter (·.1 = k) =
      ((xs.filter (key · = k)).getLast?.map fun x => (key x, val x)).toList := by
  induction xs using List.reverseRecOn with
  | nil => rfl
  | append_singleton xs x ih =>
    rw [putAll_append_singleton, filter_putEntry (nodup_keys_putAll key val xs), ih,
      List.filter_append]
    by_cases hk : key x = k <;> simp [hk]

/-- Every key is there, with the value of some member that has it. -/
lemma exists_mem_putAll {xs : List β} {x : β} (hx : x ∈ xs) :
    ∃ y ∈ xs, key y = key x ∧ (key y, val y) ∈ putAll key val xs := by
  induction xs using List.reverseRecOn with
  | nil => simp at hx
  | append_singleton xs z ih =>
    simp only [putAll_append_singleton, mem_putEntry_iff (nodup_keys_putAll key val xs)]
    by_cases hz : key z = key x
    · exact ⟨z, by simp, hz, .inl rfl⟩
    · obtain hx | rfl : x ∈ xs ∨ x = z := by simpa using hx
      · obtain ⟨y, hy, hyx, hmem⟩ := ih hx
        exact ⟨y, List.mem_append_left _ hy, hyx, .inr ⟨hmem, hyx ▸ Ne.symm hz⟩⟩
      · exact absurd rfl hz

end PutAll

end Entries

/-! ## Dictionaries -/

section Dictionaries

variable {α : Type}

/-- Increasing keys are different. -/
lemma Increasing.nodup_keys {es : List (String × α)} (h : Increasing es) :
    (es.map Prod.fst).Nodup := by
  refine List.pairwise_map.2 (h.imp fun hlt heq => ?_)
  rw [heq] at hlt
  exact String.lt_irrefl _ hlt

/-- The entries after an insertion: the new one, and those with other keys. -/
lemma mem_insertEntry_iff {es : List (String × α)} (h : Increasing es) {k : String} {v : α}
    {e : String × α} : e ∈ insertEntry k v es ↔ e = (k, v) ∨ e ∈ es ∧ e.1 ≠ k := by
  induction es with
  | nil => simp [insertEntry]
  | cons f es ih =>
    obtain ⟨j, w⟩ := f
    obtain ⟨hj, hes⟩ := List.pairwise_cons.1 h
    rw [insertEntry]
    split_ifs with hlt heq
    · have hne : e ∈ (j, w) :: es → e.1 ≠ k := by
        rintro he rfl
        rcases List.mem_cons.1 he with rfl | he
        · exact String.lt_irrefl _ hlt
        · exact String.lt_irrefl _ (String.lt_trans hlt (hj e he))
      rw [List.mem_cons, and_iff_left_of_imp hne]
    · subst heq
      have hne : e ∈ es → e.1 ≠ k := by
        rintro he rfl
        exact String.lt_irrefl _ (hj e he)
      have hold : ¬ (e = (k, w) ∧ e.1 ≠ k) := by
        rintro ⟨rfl, hk⟩
        exact hk rfl
      rw [List.mem_cons, List.mem_cons, or_and_right, and_iff_left_of_imp hne, or_iff_right hold]
    · have hne : e = (j, w) → e.1 ≠ k := by
        rintro rfl hjk
        exact heq hjk.symm
      rw [List.mem_cons, List.mem_cons, ih hes, or_left_comm, or_and_right,
        and_iff_left_of_imp hne]

namespace Dict

/-- Each key of a dictionary has one entry. -/
lemma nodup_keys (d : Dict α) : (d.entries.map Prod.fst).Nodup :=
  d.increasing.nodup_keys

/-- No entry of a dictionary is repeated. -/
lemma nodup_entries (d : Dict α) : d.entries.Nodup :=
  d.nodup_keys.of_map _

/-- The entries of a dictionary after an insertion: the new one, and those with other keys. -/
lemma mem_insert_iff {d : Dict α} {k : String} {v : α} {e : String × α} :
    e ∈ (d.insert k v).entries ↔ e = (k, v) ∨ e ∈ d.entries ∧ e.1 ≠ k :=
  mem_insertEntry_iff d.increasing

/-- One more entry is inserted after those before it. -/
lemma ofList_append_singleton (es : List (String × α)) (e : String × α) :
    ofList (es ++ [e]) = (ofList es).insert e.1 e.2 := by
  simp [ofList]

/-- Without repeated keys, the entries of the dictionary are those of the list. -/
lemma mem_ofList_iff {es : List (String × α)} (h : (es.map Prod.fst).Nodup) {e : String × α} :
    e ∈ (ofList es).entries ↔ e ∈ es := by
  induction es using List.reverseRecOn with
  | nil => simp [ofList, empty]
  | append_singleton es f ih =>
    rw [List.map_append, List.nodup_append'] at h
    have hne : e ∈ es → e.1 ≠ f.1 := fun he heq =>
      h.2.2 (List.mem_map_of_mem he) (by simp [heq])
    rw [ofList_append_singleton, mem_insert_iff, ih h.1, and_iff_left_of_imp hne, List.mem_append,
      List.mem_singleton, or_comm]

/-- Without repeated keys, the entries of the dictionary are those of the list in another order. -/
lemma perm_ofList {es : List (String × α)} (h : (es.map Prod.fst).Nodup) :
    (ofList es).entries.Perm es :=
  (List.perm_ext_iff_of_nodup (nodup_entries _) (h.of_map _)).2 fun _ => mem_ofList_iff h

/-- **Dictionaries with the same entries are equal.** -/
lemma ext_mem {d d' : Dict α} (h : ∀ e, e ∈ d.entries ↔ e ∈ d'.entries) : d = d' := by
  apply ext
  have hperm : d.entries.Perm d'.entries :=
    (List.perm_ext_iff_of_nodup d.nodup_entries d'.nodup_entries).2 h
  refine hperm.eq_of_pairwise (fun a b _ _ hab hba => ?_) d.increasing d'.increasing
  exact absurd (String.lt_trans hab hba) (String.lt_irrefl _)

/-- A dictionary is made of its own entries. -/
lemma ofList_entries (d : Dict α) : ofList d.entries = d :=
  ext_mem fun _ => mem_ofList_iff d.nodup_keys

end Dict

end Dictionaries

end HttpStub
