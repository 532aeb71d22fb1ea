import HttpStub.Json.Normalize
import Mathlib.Data.List.Basic

set_option autoImplicit false

/-!
# The shape of JSON values

The functions on JSON values recurse through the lists of their items and members. This file
gives the induction that goes with them, and says of each function on lists which map or which
quantifier it is.

## Main definitions

* `HttpStub.Json.Value.Fits` — no object repeats a name, and there is room for the depth.
* `HttpStub.Json.Value.Legible` — the text of the value can be read back.

## Main results

* `HttpStub.Json.Value.induction` — induction on a value, with a hypothesis for each item and each
  member.
* `HttpStub.Json.itemsDepth_le_iff`, `HttpStub.Json.distinctMembers_iff` and others — the functions
  on lists as quantifiers over the list.
-/

namespace HttpStub.Json

/-- **Induction on JSON values**: the hypothesis holds for every item of an array and for the value
of every member of an object. -/
@[elab_as_elim, induction_eliminator]
theorem Value.induction {P : Value → Prop} (null : P .null) (bool : ∀ b, P (.bool b))
    (number : ∀ n, P (.number n)) (string : ∀ s, P (.string s))
    (array : ∀ items : List Value, (∀ v ∈ items, P v) → P (.array items))
    (object : ∀ members : Members, (∀ m ∈ members, P m.2) → P (.object members)) : ∀ v, P v
  | .null => null
  | .bool b => bool b
  | .number n => number n
  | .string s => string s
  | .array items => array items fun v _ => induction null bool number string array object v
  | .object members =>
    object members fun m _ => induction null bool number string array object m.2
termination_by v => sizeOf v
decreasing_by
  · have := List.sizeOf_lt_of_mem ‹v ∈ items›
    simp only [Value.array.sizeOf_spec]
    omega
  · have := List.sizeOf_lt_of_mem ‹m ∈ members›
    obtain ⟨k, w⟩ := m
    simp only [Prod.mk.sizeOf_spec] at this
    simp only [Value.object.sizeOf_spec]
    omega

/-! ## Functions on lists as maps -/

/-- The texts of the items, one by one. -/
@[simp] lemma itemChars_eq_map (vs : List Value) : itemChars vs = vs.map Value.chars := by
  induction vs with
  | nil => rfl
  | cons v vs ih => simp only [itemChars, ih, List.map_cons]

/-- The texts of the members, one by one. -/
@[simp] lemma memberChars_eq_map (ms : Members) :
    memberChars ms = ms.map fun m => stringText m.1 ++ ':' :: m.2.chars := by
  induction ms with
  | nil => rfl
  | cons m ms ih => simp only [memberChars, ih, List.map_cons]

/-- The canonical texts of the items, one by one. -/
@[simp] lemma canonicalItems_eq_map (vs : List Value) :
    canonicalItems vs = vs.map Value.canonicalChars := by
  induction vs with
  | nil => rfl
  | cons v vs ih => simp only [canonicalItems, ih, List.map_cons]

/-- The canonical texts of the values of the members, one by one, with their names. -/
@[simp] lemma canonicalMembers_eq_map (ms : Members) :
    canonicalMembers ms = ms.map fun m => (m.1, m.2.canonicalChars) := by
  induction ms with
  | nil => rfl
  | cons m ms ih => simp only [canonicalMembers, ih, List.map_cons]

/-- The arrays in the items are sorted item by item. -/
@[simp] lemma sortItemArrays_eq_map (vs : List Value) :
    sortItemArrays vs = vs.map Value.sortArrays := by
  induction vs with
  | nil => rfl
  | cons v vs ih => simp only [sortItemArrays, ih, List.map_cons]

/-- The arrays in the members are sorted member by member. -/
@[simp] lemma sortMemberArrays_eq_map (ms : Members) :
    sortMemberArrays ms = ms.map fun m => (m.1, m.2.sortArrays) := by
  induction ms with
  | nil => rfl
  | cons m ms ih => simp only [sortMemberArrays, ih, List.map_cons]

/-- The members in the items are sorted item by item. -/
@[simp] lemma sortItemKeys_eq_map (vs : List Value) : sortItemKeys vs = vs.map Value.sortKeys := by
  induction vs with
  | nil => rfl
  | cons v vs ih => simp only [sortItemKeys, ih, List.map_cons]

/-- The members in the values of members are sorted value by value. -/
@[simp] lemma sortMemberKeys_eq_map (ms : Members) :
    sortMemberKeys ms = ms.map fun m => (m.1, m.2.sortKeys) := by
  induction ms with
  | nil => rfl
  | cons m ms ih => simp only [sortMemberKeys, ih, List.map_cons]

/-! ## Functions on lists as quantifiers -/

/-- No name is repeated in the items of an array if none is in each of them. -/
@[simp] lemma distinctItems_iff {vs : List Value} :
    distinctItems vs ↔ ∀ v ∈ vs, v.DistinctKeys := by
  induction vs with
  | nil => simp [distinctItems]
  | cons v vs ih => simp [distinctItems, ih]

/-- No name is repeated inside the members of an object if none is in each of their values. -/
@[simp] lemma distinctMembers_iff {ms : Members} :
    distinctMembers ms ↔ ∀ m ∈ ms, m.2.DistinctKeys := by
  induction ms with
  | nil => simp [distinctMembers]
  | cons m ms ih => simp only [distinctMembers, ih, List.forall_mem_cons]

/-- The items of an array are as deep as the deepest of them. -/
@[simp] lemma itemsDepth_le_iff {vs : List Value} {n : Nat} :
    itemsDepth vs ≤ n ↔ ∀ v ∈ vs, v.depth ≤ n := by
  induction vs with
  | nil => simp [itemsDepth]
  | cons v vs ih => simp only [itemsDepth, Nat.max_le, ih, List.forall_mem_cons]

/-- The members of an object are as deep as the deepest of their values. -/
@[simp] lemma membersDepth_le_iff {ms : Members} {n : Nat} :
    membersDepth ms ≤ n ↔ ∀ m ∈ ms, m.2.depth ≤ n := by
  induction ms with
  | nil => simp [membersDepth]
  | cons m ms ih => simp only [membersDepth, Nat.max_le, ih, List.forall_mem_cons]

/-- No floating point number is in the items of an array if none is in each of them. -/
@[simp] lemma itemsFloatFree_iff {vs : List Value} :
    itemsFloatFree vs = true ↔ ∀ v ∈ vs, v.floatFree = true := by
  induction vs with
  | nil => simp [itemsFloatFree]
  | cons v vs ih => simp only [itemsFloatFree, Bool.and_eq_true, ih, List.forall_mem_cons]

/-- No floating point number is in the members of an object if none is in each of their values. -/
@[simp] lemma membersFloatFree_iff {ms : Members} :
    membersFloatFree ms = true ↔ ∀ m ∈ ms, m.2.floatFree = true := by
  induction ms with
  | nil => simp [membersFloatFree]
  | cons m ms ih => simp only [membersFloatFree, Bool.and_eq_true, ih, List.forall_mem_cons]

/-! ## Values that can be read back -/

/-- No object of the value repeats a name, and at most `room` arrays and objects are open at
once. -/
structure Value.Fits (room : Nat) (v : Value) : Prop where
  distinctKeys : v.DistinctKeys
  depth_le : v.depth ≤ room

/-- **An array fits** if there is room for one more level than its items need. -/
lemma Value.fits_array {room : Nat} {items : List Value} :
    (Value.array items).Fits (room + 1) ↔ ∀ v ∈ items, v.Fits room := by
  constructor
  · intro h v hv
    have hk := h.distinctKeys
    have hd := h.depth_le
    simp only [DistinctKeys, distinctItems_iff] at hk
    simp only [depth, Nat.add_le_add_iff_right, itemsDepth_le_iff] at hd
    exact ⟨hk v hv, hd v hv⟩
  · intro h
    refine ⟨?_, ?_⟩
    · simpa only [DistinctKeys, distinctItems_iff] using fun v hv => (h v hv).distinctKeys
    · simpa only [depth, Nat.add_le_add_iff_right, itemsDepth_le_iff] using
        fun v hv => (h v hv).depth_le

/-- **An object fits** if it repeats no name, and there is room for one more level than its values
need. -/
lemma Value.fits_object {room : Nat} {members : Members} :
    (Value.object members).Fits (room + 1) ↔
      (members.map Prod.fst).Nodup ∧ ∀ m ∈ members, m.2.Fits room := by
  constructor
  · intro h
    have hk := h.distinctKeys
    have hd := h.depth_le
    simp only [DistinctKeys, distinctMembers_iff] at hk
    simp only [depth, Nat.add_le_add_iff_right, membersDepth_le_iff] at hd
    exact ⟨hk.1, fun m hm => ⟨hk.2 m hm, hd m hm⟩⟩
  · rintro ⟨hnd, h⟩
    refine ⟨?_, ?_⟩
    · simp only [DistinctKeys, distinctMembers_iff]
      exact ⟨hnd, fun m hm => (h m hm).distinctKeys⟩
    · simpa only [depth, Nat.add_le_add_iff_right, membersDepth_le_iff] using
        fun m hm => (h m hm).depth_le

/-- Without room there is no array. -/
lemma Value.not_fits_zero_array {items : List Value} : ¬ (Value.array items).Fits 0 := by
  intro h
  simpa [depth] using h.depth_le

/-- Without room there is no object. -/
lemma Value.not_fits_zero_object {members : Members} : ¬ (Value.object members).Fits 0 := by
  intro h
  simpa [depth] using h.depth_le

/-- Without repeated names, the depth is room enough. -/
lemma Value.DistinctKeys.fits {v : Value} (h : v.DistinctKeys) : v.Fits v.depth :=
  ⟨h, Nat.le_refl _⟩

/-- The text of the value can be read back: the value has no floating point number, and no object
of it repeats a name. -/
structure Value.Legible (v : Value) : Prop where
  floatFree : v.floatFree = true
  distinctKeys : v.DistinctKeys

/-- A value that fits can be read back if it has no floating point numbers. -/
lemma Value.Fits.legible {room : Nat} {v : Value} (h : v.Fits room) (hf : v.floatFree = true) :
    v.Legible :=
  ⟨hf, h.distinctKeys⟩

/-- An array can be read back if each of its items can. -/
lemma Value.legible_array {items : List Value} :
    (Value.array items).Legible ↔ ∀ v ∈ items, v.Legible := by
  constructor
  · rintro ⟨hf, hk⟩ v hv
    simp only [floatFree, DistinctKeys, itemsFloatFree_iff, distinctItems_iff] at hf hk
    exact ⟨hf v hv, hk v hv⟩
  · intro h
    refine ⟨?_, ?_⟩
    · simpa only [floatFree, itemsFloatFree_iff] using fun v hv => (h v hv).floatFree
    · simpa only [DistinctKeys, distinctItems_iff] using fun v hv => (h v hv).distinctKeys

/-- An object can be read back if it repeats no name, and each of its values can. -/
lemma Value.legible_object {members : Members} :
    (Value.object members).Legible ↔
      (members.map Prod.fst).Nodup ∧ ∀ m ∈ members, m.2.Legible := by
  constructor
  · rintro ⟨hf, hk⟩
    simp only [floatFree, DistinctKeys, membersFloatFree_iff, distinctMembers_iff] at hf hk
    exact ⟨hk.1, fun m hm => ⟨hf m hm, hk.2 m hm⟩⟩
  · rintro ⟨hnd, h⟩
    refine ⟨?_, ?_⟩
    · simpa only [floatFree, membersFloatFree_iff] using fun m hm => (h m hm).floatFree
    · simp only [DistinctKeys, distinctMembers_iff]
      exact ⟨hnd, fun m hm => (h m hm).distinctKeys⟩

/-- A text can be read back. -/
lemma Value.legible_string (s : String) : (Value.string s).Legible :=
  ⟨rfl, trivial⟩

/-- A truth value can be read back. -/
lemma Value.legible_bool (b : Bool) : (Value.bool b).Legible :=
  ⟨rfl, trivial⟩

end HttpStub.Json
