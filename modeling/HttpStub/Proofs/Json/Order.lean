import HttpStub.Proofs.Json.Shape
import Mathlib.Data.List.Sort

set_option autoImplicit false

/-!
# Normal forms and canonical texts

Sorting the members of objects never changes the canonical text of a value, while sorting arrays
leaves it alone only where the arrays are sorted already.

## Main definitions

* `HttpStub.Json.Value.ArraysSorted` — at every depth, items in the order of their canonical texts.

## Main results

* `HttpStub.Json.Value.canonicalChars_sortKeys` — sorting members keeps the canonical text.
* `HttpStub.Json.Value.chars_sortKeys` — without floating point numbers, the canonical text is the
  compact text of the value with its members sorted.
* `HttpStub.Json.Value.arraysSorted_sortArrays`, `HttpStub.Json.Value.sortArrays_eq_self` — sorting
  arrays gives sorted arrays, and leaves those alone.
-/

namespace HttpStub.Json

/-! ## Sorting pairs by their first parts -/

section SortByKey

variable {α β : Type}

/-- Sorting members by name loses none of them. -/
lemma sortByKey_perm (ps : List (String × α)) : (sortByKey ps).Perm ps :=
  List.mergeSort_perm _ _

/-- Sorted members are in the order of their names. -/
lemma pairwise_sortByKey (ps : List (String × α)) :
    (sortByKey ps).Pairwise fun a b => a.1 ≤ b.1 := by
  have htrans : ∀ a b c : String × α, decide (a.1 ≤ b.1) = true → decide (b.1 ≤ c.1) = true →
      decide (a.1 ≤ c.1) = true := by
    intro a b c hab hbc
    simp only [decide_eq_true_eq] at hab hbc ⊢
    exact String.le_trans hab hbc
  have htotal : ∀ a b : String × α, (decide (a.1 ≤ b.1) || decide (b.1 ≤ a.1)) = true := by
    intro a b
    simp only [Bool.or_eq_true, decide_eq_true_eq]
    exact String.le_total a.1 b.1
  have h := List.pairwise_mergeSort htrans htotal ps
  simpa only [sortByKey, decide_eq_true_eq] using h

/-- Members in the order of their names stay where they are. -/
lemma sortByKey_of_pairwise {ps : List (String × α)} (h : ps.Pairwise fun a b => a.1 ≤ b.1) :
    sortByKey ps = ps :=
  List.mergeSort_of_pairwise (by simpa only [decide_eq_true_eq] using h)

/-- Sorting members twice is sorting them once. -/
lemma sortByKey_sortByKey (ps : List (String × α)) : sortByKey (sortByKey ps) = sortByKey ps :=
  sortByKey_of_pairwise (pairwise_sortByKey ps)

/-- Sorting by the first parts and changing the second parts commute. -/
lemma sortByKey_map (f : α → β) (ps : List (String × α)) :
    sortByKey (ps.map fun p => (p.1, f p.2)) = (sortByKey ps).map fun p => (p.1, f p.2) := by
  unfold sortByKey
  rw [List.map_mergeSort (s := fun a b : String × β => decide (a.1 ≤ b.1)) fun _ _ _ _ => rfl]

/-- Sorting members loses none of their names. -/
lemma keys_sortByKey_perm (ps : List (String × α)) :
    ((sortByKey ps).map Prod.fst).Perm (ps.map Prod.fst) :=
  (sortByKey_perm ps).map _

/-- With names that do not repeat, the order of the pairs plays no part. -/
lemma sortByKey_eq_of_perm {ps qs : List (String × α)} (hnd : (ps.map Prod.fst).Nodup)
    (h : ps.Perm qs) : sortByKey ps = sortByKey qs := by
  have hperm : (sortByKey ps).Perm (sortByKey qs) :=
    ((sortByKey_perm ps).trans h).trans (sortByKey_perm qs).symm
  refine hperm.eq_of_pairwise (fun a b ha hb hab hba => ?_) (pairwise_sortByKey ps)
    (pairwise_sortByKey qs)
  have hmem := (sortByKey_perm ps).mem_iff.1 (hperm.mem_iff.2 hb)
  exact List.inj_on_of_nodup_map hnd ((sortByKey_perm ps).mem_iff.1 ha) hmem
    (String.le_antisymm hab hba)

end SortByKey

/-! ## Sorting values by their canonical texts -/

/-- Sorting items by canonical text loses none of them. -/
lemma sortByCanonical_perm (vs : List Value) : (sortByCanonical vs).Perm vs := by
  have h := (sortByKey_perm (vs.map fun v => (v.canonical, v))).map Prod.snd
  simpa only [sortByCanonical, List.map_map, Function.comp_def, List.map_id'] using h

/-- Sorted items are in the order of their canonical texts. -/
lemma pairwise_sortByCanonical (vs : List Value) :
    (sortByCanonical vs).Pairwise fun v w => v.canonical ≤ w.canonical := by
  have hkey : ∀ p ∈ sortByKey (vs.map fun v => (v.canonical, v)), p.1 = p.2.canonical := by
    intro p hp
    obtain ⟨v, -, rfl⟩ := List.mem_map.1 ((sortByKey_perm _).mem_iff.1 hp)
    rfl
  refine List.pairwise_map.2 ((pairwise_sortByKey _).imp_of_mem ?_)
  intro p q hp hq hle
  rwa [hkey p hp, hkey q hq] at hle

/-- Items in the order of their canonical texts stay where they are. -/
lemma sortByCanonical_of_pairwise {vs : List Value}
    (h : vs.Pairwise fun v w => v.canonical ≤ w.canonical) : sortByCanonical vs = vs := by
  have hp : (vs.map fun v => (v.canonical, v)).Pairwise fun a b => a.1 ≤ b.1 :=
    List.pairwise_map.2 h
  rw [sortByCanonical, sortByKey_of_pairwise hp, List.map_map]
  exact List.map_id' vs

/-- Sorting by canonical texts and changing the values commute, if their canonical texts stay. -/
lemma sortByCanonical_map {f : Value → Value} (hf : ∀ v, (f v).canonical = v.canonical)
    (vs : List Value) : sortByCanonical (vs.map f) = (sortByCanonical vs).map f := by
  have hpairs : ((vs.map f).map fun v => (v.canonical, v)) =
      (vs.map fun v => (v.canonical, v)).map fun p => (p.1, f p.2) := by
    rw [List.map_map, List.map_map]
    apply List.map_congr_left
    intro v _
    exact congrArg (·, f v) (hf v)
  rw [sortByCanonical, hpairs, sortByKey_map, List.map_map, sortByCanonical, List.map_map]
  rfl

/-- Where only equal values have the same canonical text, the order of the values plays no part. -/
lemma sortByCanonical_eq_of_perm {vs ws : List Value}
    (hinj : ∀ v ∈ vs, ∀ w ∈ vs, v.canonical = w.canonical → v = w) (h : vs.Perm ws) :
    sortByCanonical vs = sortByCanonical ws := by
  have hperm : (sortByCanonical vs).Perm (sortByCanonical ws) :=
    ((sortByCanonical_perm vs).trans h).trans (sortByCanonical_perm ws).symm
  apply hperm.eq_of_pairwise _ (pairwise_sortByCanonical vs) (pairwise_sortByCanonical ws)
  intro v w hv hw hvw hwv
  have hv := (sortByCanonical_perm vs).mem_iff.1 hv
  have hw := (sortByCanonical_perm vs).mem_iff.1 (hperm.mem_iff.2 hw)
  exact hinj v hv w hw (String.le_antisymm hvw hwv)

namespace Value

/-! ## Sorting the members of objects -/

/-- **Sorting the members of objects keeps the canonical text.**

**Proof sketch.** The canonical text of an object sorts the members itself. Sorting commutes with
replacing the values by their texts (`sortByKey_map`), and sorting twice is sorting once. -/
lemma canonicalChars_sortKeys (v : Value) : v.sortKeys.canonicalChars = v.canonicalChars := by
  induction v with
  | null => rfl
  | bool b => rfl
  | number n => rfl
  | string s => rfl
  | array items ih =>
    simp only [sortKeys, canonicalChars, sortItemKeys_eq_map, canonicalItems_eq_map, List.map_map,
      Function.comp_def]
    rw [List.map_congr_left ih]
  | object members ih =>
    have hms : (members.map fun m => (m.1, m.2.sortKeys.canonicalChars)) =
        members.map fun m => (m.1, m.2.canonicalChars) :=
      List.map_congr_left fun m hm => by rw [ih m hm]
    simp only [sortKeys, canonicalChars, sortMemberKeys_eq_map, canonicalMembers_eq_map]
    rw [← sortByKey_map canonicalChars, sortByKey_sortByKey, List.map_map]
    simp only [Function.comp_def]
    rw [hms]

/-- **Sorting the members of objects keeps the canonical text.** -/
lemma canonical_sortKeys (v : Value) : v.sortKeys.canonical = v.canonical := by
  rw [canonical, canonicalChars_sortKeys, canonical]

/-- Without floating point numbers, the canonical text is the compact text of the value with the
members of its objects sorted. -/
lemma chars_sortKeys {v : Value} (h : v.floatFree = true) :
    v.sortKeys.chars = v.canonicalChars := by
  induction v with
  | null => rfl
  | bool b => cases b <;> rfl
  | number n =>
    cases n with
    | integer n => rfl
    | float x => simp [floatFree, Number.isInteger] at h
  | string s => rfl
  | array items ih =>
    simp only [floatFree, itemsFloatFree_iff] at h
    simp only [sortKeys, chars, canonicalChars, sortItemKeys_eq_map, itemChars_eq_map,
      canonicalItems_eq_map, List.map_map, Function.comp_def]
    rw [List.map_congr_left fun v hv => ih v hv (h v hv)]
  | object members ih =>
    simp only [floatFree, membersFloatFree_iff] at h
    have hms : (members.map fun m => (m.1, m.2.sortKeys.chars)) =
        members.map fun m => (m.1, m.2.canonicalChars) :=
      List.map_congr_left fun m hm => by rw [ih m hm (h m hm)]
    have hsort := sortByKey_map chars (members.map fun m => (m.1, m.2.sortKeys))
    simp only [List.map_map, Function.comp_def, hms] at hsort
    simp only [sortKeys, chars, canonicalChars, sortMemberKeys_eq_map, memberChars_eq_map,
      canonicalMembers_eq_map, hsort, List.map_map]
    rfl

end Value

/-! ## Sorting arrays -/

mutual

/-- At every depth, the items of an array are in the order of their canonical texts. -/
def Value.ArraysSorted : Value → Prop
  | .array items => (items.Pairwise fun v w => v.canonical ≤ w.canonical) ∧ itemsArraysSorted items
  | .object members => membersArraysSorted members
  | _ => True

/-- The arrays inside the values are in the order of the canonical texts of their items. -/
def itemsArraysSorted : List Value → Prop
  | [] => True
  | v :: vs => v.ArraysSorted ∧ itemsArraysSorted vs

/-- The arrays inside the members are in the order of the canonical texts of their items. -/
def membersArraysSorted : List (String × Value) → Prop
  | [] => True
  | (_, v) :: ms => v.ArraysSorted ∧ membersArraysSorted ms

end

/-- The arrays in the items of an array are sorted if those in each of them are. -/
@[simp] lemma itemsArraysSorted_iff {vs : List Value} :
    itemsArraysSorted vs ↔ ∀ v ∈ vs, v.ArraysSorted := by
  induction vs with
  | nil => simp [itemsArraysSorted]
  | cons v vs ih => simp only [itemsArraysSorted, ih, List.forall_mem_cons]

/-- The arrays in an object are sorted if those in each of its values are. -/
@[simp] lemma membersArraysSorted_iff {ms : Members} :
    membersArraysSorted ms ↔ ∀ m ∈ ms, m.2.ArraysSorted := by
  induction ms with
  | nil => simp [membersArraysSorted]
  | cons m ms ih => simp only [membersArraysSorted, ih, List.forall_mem_cons]

namespace Value

/-- Sorting arrays gives sorted arrays. -/
lemma arraysSorted_sortArrays (v : Value) : v.sortArrays.ArraysSorted := by
  induction v with
  | null => trivial
  | bool b => trivial
  | number n => trivial
  | string s => trivial
  | array items ih =>
    simp only [sortArrays, ArraysSorted, sortItemArrays_eq_map, itemsArraysSorted_iff]
    refine ⟨pairwise_sortByCanonical _, fun w hw => ?_⟩
    obtain ⟨v, hv, rfl⟩ := List.mem_map.1 ((sortByCanonical_perm _).mem_iff.1 hw)
    exact ih v hv
  | object members ih =>
    simpa only [sortArrays, ArraysSorted, sortMemberArrays_eq_map, membersArraysSorted_iff,
      List.forall_mem_map] using ih

/-- Sorting arrays leaves sorted arrays alone. -/
lemma sortArrays_eq_self {v : Value} (h : v.ArraysSorted) : v.sortArrays = v := by
  induction v with
  | null => rfl
  | bool b => rfl
  | number n => rfl
  | string s => rfl
  | array items ih =>
    simp only [ArraysSorted, itemsArraysSorted_iff] at h
    have hitems : items.map sortArrays = items := by
      rw [List.map_congr_left fun v hv => ih v hv (h.2 v hv), List.map_id']
    rw [sortArrays, sortItemArrays_eq_map, hitems, sortByCanonical_of_pairwise h.1]
  | object members ih =>
    simp only [ArraysSorted, membersArraysSorted_iff] at h
    have hms : (members.map fun m => (m.1, m.2.sortArrays)) = members := by
      rw [List.map_congr_left fun m hm => by rw [ih m hm (h m hm)], List.map_id']
    rw [sortArrays, sortMemberArrays_eq_map, hms]

/-- The order of members plays no part in whether arrays are sorted. -/
lemma arraysSorted_sortKeys_iff (v : Value) : v.sortKeys.ArraysSorted ↔ v.ArraysSorted := by
  induction v with
  | null => rfl
  | bool b => rfl
  | number n => rfl
  | string s => rfl
  | array items ih =>
    simp only [sortKeys, ArraysSorted, sortItemKeys_eq_map, itemsArraysSorted_iff,
      List.pairwise_map, canonical_sortKeys, List.forall_mem_map]
    exact and_congr_right fun _ => forall₂_congr ih
  | object members ih =>
    simp only [sortKeys, ArraysSorted, sortMemberKeys_eq_map, membersArraysSorted_iff,
      (sortByKey_perm _).mem_iff, List.forall_mem_map]
    exact forall₂_congr ih

/-! ## Normal forms as options ask for them -/

section Normalize

variable {a k : Bool} {v : Value}

/-- Only `null` has the normal form `null`. -/
lemma normalize_eq_null_iff : v.normalize a k = .null ↔ v = .null := by
  cases v <;> cases a <;> cases k <;> simp [normalize, sortArrays, sortKeys]

/-- Of the two steps of a normal form, only the sorting of arrays shows in the canonical text. -/
lemma canonical_normalize :
    (v.normalize a k).canonical = (if a then v.sortArrays else v).canonical := by
  cases k <;> simp [normalize, canonical_sortKeys]

end Normalize

end Value

end HttpStub.Json
