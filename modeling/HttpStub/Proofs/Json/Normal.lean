import HttpStub.Proofs.Json.Canonical

set_option autoImplicit false

/-!
# Normal forms of values

Sorting arrays and sorting the members of objects do not get in each other's way: a normal form is
the same in whichever order both are done, and normal forms stay as they are. With both, and without
floating point numbers, values have the same normal form exactly where they differ in order only.

## Main definitions

* `HttpStub.Json.Value.KeysSorted` — at every depth, members in the order of their names.

## Main results

* `HttpStub.Json.Value.sortArrays_sortArrays` — sorting arrays twice is sorting them once.
* `HttpStub.Json.Value.sortKeys_sortArrays` — sorting arrays and sorting members commute.
* `HttpStub.Json.Value.normalize_eq_self_iff` — the values that are normal forms.
* `HttpStub.Json.Value.normalize_eq_of_rearranged` — rearranged values have the same normal form.
* `HttpStub.Json.Value.compact_normalize_eq_iff_rearranged` — the values with the same normal form.
-/

namespace HttpStub.Json

/-! ## Sorted members -/

mutual

/-- At every depth, the members of an object are in the order of their names. -/
def Value.KeysSorted : Value → Prop
  | .array items => itemsKeysSorted items
  | .object members => (members.Pairwise fun m n => m.1 ≤ n.1) ∧ membersKeysSorted members
  | _ => True

/-- The objects inside the values have their members in order. -/
def itemsKeysSorted : List Value → Prop
  | [] => True
  | v :: vs => v.KeysSorted ∧ itemsKeysSorted vs

/-- The objects inside the members have their members in order. -/
def membersKeysSorted : List (String × Value) → Prop
  | [] => True
  | (_, v) :: ms => v.KeysSorted ∧ membersKeysSorted ms

end

/-- The items of an array have sorted members if each of them has. -/
@[simp] lemma itemsKeysSorted_iff {vs : List Value} :
    itemsKeysSorted vs ↔ ∀ v ∈ vs, v.KeysSorted := by
  induction vs with
  | nil => simp [itemsKeysSorted]
  | cons v vs ih => simp only [itemsKeysSorted, ih, List.forall_mem_cons]

/-- The values in an object have sorted members if each of them has. -/
@[simp] lemma membersKeysSorted_iff {ms : Members} :
    membersKeysSorted ms ↔ ∀ m ∈ ms, m.2.KeysSorted := by
  induction ms with
  | nil => simp [membersKeysSorted]
  | cons m ms ih => simp only [membersKeysSorted, ih, List.forall_mem_cons]

namespace Value

/-- Sorting members gives sorted members. -/
lemma keysSorted_sortKeys (v : Value) : v.sortKeys.KeysSorted := by
  induction v with
  | null => trivial
  | bool b => trivial
  | number n => trivial
  | string s => trivial
  | array items ih =>
    simpa only [sortKeys, KeysSorted, sortItemKeys_eq_map, itemsKeysSorted_iff,
      List.forall_mem_map] using ih
  | object members ih =>
    simp only [sortKeys, KeysSorted, sortMemberKeys_eq_map, membersKeysSorted_iff]
    refine ⟨pairwise_sortByKey _, fun m hm => ?_⟩
    obtain ⟨m', hm', rfl⟩ := List.mem_map.1 ((sortByKey_perm _).mem_iff.1 hm)
    exact ih m' hm'

/-- Sorting members leaves sorted members alone. -/
lemma sortKeys_eq_self {v : Value} (h : v.KeysSorted) : v.sortKeys = v := by
  induction v with
  | null => rfl
  | bool b => rfl
  | number n => rfl
  | string s => rfl
  | array items ih =>
    simp only [KeysSorted, itemsKeysSorted_iff] at h
    rw [sortKeys, sortItemKeys_eq_map, List.map_congr_left fun v hv => ih v hv (h v hv),
      List.map_id']
  | object members ih =>
    simp only [KeysSorted, membersKeysSorted_iff] at h
    have hms : (members.map fun m => (m.1, m.2.sortKeys)) = members := by
      rw [List.map_congr_left fun m hm => by rw [ih m hm (h.2 m hm)], List.map_id']
    rw [sortKeys, sortMemberKeys_eq_map, hms, sortByKey_of_pairwise h.1]

/-! ## The two steps of a normal form -/

/-- **Sorting arrays and sorting members commute.**

**Proof sketch.** Sorting members keeps the canonical texts by which arrays are sorted, and sorting
arrays keeps the names by which members are sorted; both sorts are stable, so values and members
that tie keep their order on both sides. -/
lemma sortKeys_sortArrays (v : Value) : v.sortArrays.sortKeys = v.sortKeys.sortArrays := by
  induction v with
  | null => rfl
  | bool b => rfl
  | number n => rfl
  | string s => rfl
  | array items ih =>
    simp only [sortArrays, sortKeys, sortItemArrays_eq_map, sortItemKeys_eq_map]
    rw [← sortByCanonical_map canonical_sortKeys, List.map_map, List.map_map]
    exact congrArg (Value.array <| sortByCanonical ·) (List.map_congr_left ih)
  | object members ih =>
    simp only [sortArrays, sortKeys, sortMemberArrays_eq_map, sortMemberKeys_eq_map]
    rw [← sortByKey_map sortArrays, List.map_map, List.map_map]
    refine congrArg (Value.object <| sortByKey ·) (List.map_congr_left fun m hm => ?_)
    exact congrArg (m.1, ·) (ih m hm)

/-- The values that sorting arrays leaves alone. -/
lemma sortArrays_eq_self_iff {v : Value} : v.sortArrays = v ↔ v.ArraysSorted := by
  constructor
  · intro h
    rw [← h]
    exact arraysSorted_sortArrays v
  · exact sortArrays_eq_self

/-! ## Normal forms as options ask for them -/

section Normalize

variable {a k : Bool} {v : Value}

/-- A normal form has sorted arrays and sorted members, as options ask for them. -/
lemma sorted_normalize (a k : Bool) (v : Value) :
    (a = true → (v.normalize a k).ArraysSorted) ∧ (k = false → (v.normalize a k).KeysSorted) := by
  constructor
  · rintro rfl
    cases k with
    | true => exact arraysSorted_sortArrays v
    | false => exact (arraysSorted_sortKeys_iff _).2 (arraysSorted_sortArrays v)
  · rintro rfl
    exact keysSorted_sortKeys _

/-- **The values that are normal forms**: their arrays and their members are sorted, as options ask
for it. -/
lemma normalize_eq_self_iff :
    v.normalize a k = v ↔ (a = true → v.ArraysSorted) ∧ (k = false → v.KeysSorted) := by
  constructor
  · intro h
    have hsorted := sorted_normalize a k v
    rwa [h] at hsorted
  · rintro ⟨harrays, hkeys⟩
    have hfirst : (if a then v.sortArrays else v) = v := by
      split
      · next ha => exact sortArrays_eq_self (harrays ha)
      · rfl
    cases k with
    | true => exact hfirst
    | false =>
      show (if a then v.sortArrays else v).sortKeys = v
      rw [hfirst, sortKeys_eq_self (hkeys rfl)]

end Normalize

/-- **Sorting arrays twice is sorting them once**, and the values that it leaves alone are exactly
those whose arrays are sorted at every depth. Values are the same here down to the order of members
and the spelling of numbers, also where items have the same canonical text. -/
theorem sortArrays_sortArrays (v : Value) :
    v.sortArrays.sortArrays = v.sortArrays ∧ (v.sortArrays = v ↔ v.ArraysSorted) := by
  constructor
  · apply sortArrays_eq_self
    exact arraysSorted_sortArrays v
  · exact sortArrays_eq_self_iff

/-- **The two steps of a normal form are independent**: they commute, sorting members does not show
in the canonical text, and so normal forms are their own normal forms, whatever options ask for. -/
theorem sortings_commute (v : Value) :
    v.sortArrays.sortKeys = v.sortKeys.sortArrays ∧ v.sortKeys.canonical = v.canonical ∧
      ∀ a k, (v.normalize a k).normalize a k = v.normalize a k := by
  refine ⟨sortKeys_sortArrays v, canonical_sortKeys v, ?_⟩
  intro a k
  apply normalize_eq_self_iff.2
  exact sorted_normalize a k v

/-! ## Normal forms tell values apart up to their order -/

section Complete

variable {v w : Value}

/-- The normal form of an array lists those of its items, sorted. -/
lemma normalize_array (vs : List Value) :
    (Value.array vs).normalize true false =
      .array (sortByCanonical (vs.map (normalize true false))) := by
  show (Value.array vs).sortArrays.sortKeys = _
  simp only [sortArrays, sortKeys, sortItemArrays_eq_map, sortItemKeys_eq_map]
  rw [← sortByCanonical_map canonical_sortKeys, List.map_map]
  rfl

/-- The normal form of an object lists its members with their normal forms, sorted. -/
lemma normalize_object (ms : Members) :
    (Value.object ms).normalize true false =
      .object (sortByKey (ms.map fun m => (m.1, m.2.normalize true false))) := by
  show (Value.object ms).sortArrays.sortKeys = _
  simp only [sortArrays, sortKeys, sortMemberArrays_eq_map, sortMemberKeys_eq_map, List.map_map]
  rfl

/-- Normal forms with the same canonical text are equal: they have no float that could tie with an
integer, and their members are sorted. -/
lemma normalize_eq_of_canonical_eq (hv : v.Legible) (hw : w.Legible)
    (h : (v.normalize true false).canonical = (w.normalize true false).canonical) :
    v.normalize true false = w.normalize true false := by
  have hkeys := (canonical_eq_iff hv.normalize hw.normalize).1 h
  have hsorted := fun u : Value => sortKeys_eq_self ((sorted_normalize true false u).2 rfl)
  rwa [hsorted, hsorted] at hkeys

/-- **Rearranged values have the same normal form.**

**Proof sketch.** Induction on the value. The items of two arrays have, by the hypothesis, the same
normal forms in another order; where two of them tie in canonical text they are equal, so sorting
them gives one list. The members of objects are told apart by their names, which do not repeat. -/
lemma normalize_eq_of_rearranged (h : v.Rearranged true w) (hv : v.Legible) :
    v.normalize true false = w.normalize true false := by
  induction v generalizing w with
  | null => cases h; rfl
  | bool b => cases h; rfl
  | number n => cases h; rfl
  | string s => cases h; rfl
  | array vs ih =>
    have hw := h.legible hv
    cases h with
    | @array _ us ws same order =>
      have order : us.Perm ws := order
      rw [legible_array] at hv hw
      have hus : ∀ u ∈ us, u.Legible := fun u hu => hw u (order.mem_iff.1 hu)
      have hmap : vs.map (normalize true false) = us.map (normalize true false) := by
        apply map_eq_map_of_forall₂ same
        intro v hmem u _ hvu
        exact ih v hmem hvu (hv v hmem)
      rw [normalize_array, normalize_array, hmap]
      refine congrArg Value.array (sortByCanonical_eq_of_perm ?_ (order.map _))
      intro x hx y hy hxy
      obtain ⟨u, hu, rfl⟩ := List.mem_map.1 hx
      obtain ⟨u', hu', rfl⟩ := List.mem_map.1 hy
      exact normalize_eq_of_canonical_eq (hus u hu) (hus u' hu') hxy
  | object ms ih =>
    have hw := h.legible hv
    obtain ⟨ls, ns, rfl, hmembers, horder⟩ := rearranged_object_iff.1 h
    rw [legible_object] at hv hw
    have hmap : (ms.map fun m => (m.1, m.2.normalize true false)) =
        ls.map fun m => (m.1, m.2.normalize true false) := by
      apply map_eq_map_of_forall₂ hmembers
      intro m hm l _ hml
      exact Prod.ext hml.1 (ih m hm hml.2 (hv.2 m hm))
    rw [normalize_object, normalize_object, hmap]
    refine congrArg Value.object (sortByKey_eq_of_perm ?_ (horder.map _))
    rw [List.map_map]
    exact (horder.map Prod.fst).nodup_iff.2 hw.1

/-- **Normal forms tell values apart up to their order.** With sorted arrays and sorted members, and
without floating point numbers, values have normal forms of the same text exactly where they are
equal up to the order of items and members at every depth. The normal form is such a rearrangement of
the value itself, so nothing in it is lost, added or merged.

**Proof sketch.** The compact text of a normal form can be read back, so equal texts come from one
normal form, of which both values are rearrangements. -/
theorem compact_normalize_eq_iff_rearranged (hv : v.Legible) (hw : w.Legible) :
    ((v.normalize true false).compact = (w.normalize true false).compact ↔ v.Rearranged true w) ∧
      v.Rearranged true (v.normalize true false) := by
  have hvn := rearranged_normalize true false v
  have hwn := rearranged_normalize true false w
  refine ⟨⟨fun h => ?_, fun h => ?_⟩, hvn⟩
  · have heq := compact_inj hv.normalize hw.normalize h
    rw [heq] at hvn
    exact hvn.trans hwn.symm
  · rw [normalize_eq_of_rearranged h hv]

end Complete

/-- An object with an array that holds another array, nothing of it in order. -/
def nested : Value :=
  .object [("b", .array [.number (.ofNat 2), .array [.number (.ofNat 1), .number (.ofNat 0)]]),
    ("a", .null)]

/-- The same in another order at every depth. -/
def nestedAgain : Value :=
  .object [("a", .null),
    ("b", .array [.array [.number (.ofNat 0), .number (.ofNat 1)], .number (.ofNat 2)])]

/-- The order of members, of items, and of items of items does not show in the normal form. -/
theorem compact_normalize_of_nested :
    nested.Legible ∧ nestedAgain.Legible ∧ nested.Rearranged true nestedAgain ∧
      (nested.normalize true false).compact = (nestedAgain.normalize true false).compact := by
  have hnested : nested.Legible := ⟨rfl, by simp [nested, DistinctKeys]⟩
  have hagain : nestedAgain.Legible := ⟨rfl, by simp [nestedAgain, DistinctKeys]⟩
  have hinner : (Value.array [.number (.ofNat 1), .number (.ofNat 0)]).Rearranged true
      (.array [.number (.ofNat 0), .number (.ofNat 1)]) :=
    .array (.cons (.number _) (.cons (.number _) .nil)) (List.Perm.swap _ _ _)
  have houter : (Value.array [.number (.ofNat 2),
      .array [.number (.ofNat 1), .number (.ofNat 0)]]).Rearranged true
        (.array [.array [.number (.ofNat 0), .number (.ofNat 1)], .number (.ofNat 2)]) :=
    .array (.cons (.number _) (.cons hinner .nil)) (List.Perm.swap _ _ _)
  have hmoved : nested.Rearranged true nestedAgain :=
    rearranged_object_iff.2 ⟨_, _, rfl, .cons ⟨by rfl, houter⟩ (.cons ⟨by rfl, .null⟩ .nil),
      List.Perm.swap _ _ _⟩
  exact ⟨hnested, hagain, hmoved,
    (compact_normalize_eq_iff_rearranged hnested hagain).1.2 hmoved⟩

end Value

end HttpStub.Json
