import HttpStub.Proofs.Json.Order
import Mathlib.Data.List.Perm.Basic

set_option autoImplicit false

/-!
# Values in another order

A value is rearranged when the members of its objects, and perhaps the items of its arrays, are put
in another order, at any depth. Normal forms do this and nothing else.

## Main definitions

* `HttpStub.Json.Value.Rearranged` — the same value up to the order of members, and of items if
  that is allowed.
* `HttpStub.Json.Reorders` — a function that puts members and items in another order and does
  nothing else.
* `HttpStub.Json.SameName` — members of the same name with related values.

## Main results

* `HttpStub.Json.Reorders.rearranged` — such a function rearranges every value.
* `HttpStub.Json.Value.rearranged_normalize` — normal forms are rearranged values.
* `HttpStub.Json.Value.Rearranged.symm`, `HttpStub.Json.Value.Rearranged.trans` — rearrangement is an
  equivalence.
* `HttpStub.Json.Value.Rearranged.legible` — it keeps values that can be read back.
-/

namespace HttpStub.Json

/-- **The same value in another order**: words, numbers and strings are the same; the members of an
object are the same up to their order, and so are the items of an array if `items` says so, while
otherwise they are in the same order. -/
inductive Value.Rearranged (items : Bool) : Value → Value → Prop
  | null : Rearranged items .null .null
  | bool (b : Bool) : Rearranged items (.bool b) (.bool b)
  | number (n : Number) : Rearranged items (.number n) (.number n)
  | string (s : String) : Rearranged items (.string s) (.string s)
  | array {vs us ws : List Value} (same : List.Forall₂ (Rearranged items) vs us)
    (order : if items then us.Perm ws else us = ws) : Rearranged items (.array vs) (.array ws)
  | object {ms ls ns : Members} (names : ms.keys = ls.keys)
    (values : List.Forall₂ (Rearranged items) (ms.map Prod.snd) (ls.map Prod.snd))
    (order : ls.Perm ns) : Rearranged items (.object ms) (.object ns)

/-! ## Rearrangement is an equivalence -/

section Lists

variable {α : Type} {R : α → α → Prop} {items : Bool} {us vs ws : List α}

/-- An order of items can be undone. -/
lemma order_symm (h : if items then us.Perm vs else us = vs) :
    if items then vs.Perm us else vs = us := by
  cases items with
  | true => exact List.Perm.symm h
  | false => exact Eq.symm h

/-- Two orders of items make one. -/
lemma order_trans (h : if items then us.Perm vs else us = vs)
    (h' : if items then vs.Perm ws else vs = ws) : if items then us.Perm ws else us = ws := by
  cases items with
  | true => exact List.Perm.trans h h'
  | false => exact Eq.trans h h'

/-- An order of the first list carries over to what is related to it, place by place. -/
lemma exists_forall₂_of_order (order : if items then us.Perm vs else us = vs)
    (h : List.Forall₂ R vs ws) :
    ∃ xs, List.Forall₂ R us xs ∧ if items then xs.Perm ws else xs = ws := by
  cases items with
  | true => exact List.perm_comp_forall₂ order h
  | false =>
    obtain rfl : us = vs := order
    exact ⟨ws, h, rfl⟩

/-- A relation that is symmetric on the members is symmetric on lists. -/
lemma forall₂_symm (hR : ∀ a ∈ us, ∀ b, R a b → R b a) (h : List.Forall₂ R us vs) :
    List.Forall₂ R vs us := by
  have hboth := (List.forall₂_and_left us vs).2 ⟨hR, h⟩
  exact List.Forall₂.flip (hboth.imp fun a b hab => hab.1 b hab.2)

/-- A relation that is transitive on the members is transitive on lists. -/
lemma forall₂_trans (hR : ∀ a ∈ us, ∀ b c, R a b → R b c → R a c) (h : List.Forall₂ R us vs)
    (h' : List.Forall₂ R vs ws) : List.Forall₂ R us ws := by
  induction h generalizing ws with
  | nil => exact h'
  | cons hab _ ih =>
    obtain ⟨c, cs, hbc, hcs, rfl⟩ := List.forall₂_cons_left_iff.1 h'
    obtain ⟨ha, has⟩ := List.forall_mem_cons.1 hR
    exact .cons (ha _ _ hab hbc) (ih has hcs)

/-- A function that takes related members to the same value takes related lists to the same list. -/
lemma map_eq_map_of_forall₂ {β : Type} {f : α → β} (h : List.Forall₂ R us vs)
    (hf : ∀ a ∈ us, ∀ b ∈ vs, R a b → f a = f b) : us.map f = vs.map f := by
  induction h with
  | nil => rfl
  | cons hab _ ih =>
    have hrest := ih fun a ha b hb => hf a (List.mem_cons_of_mem _ ha) b (List.mem_cons_of_mem _ hb)
    rw [List.map_cons, List.map_cons, hrest, hf _ List.mem_cons_self _ List.mem_cons_self hab]

/-- Another order of items has the same ones. -/
lemma mem_iff_of_order (h : if items then us.Perm vs else us = vs) {x : α} : x ∈ us ↔ x ∈ vs := by
  cases items with
  | true => exact List.Perm.mem_iff h
  | false => exact iff_of_eq (congrArg (x ∈ ·) h)

/-- Each member of the second list is related to one of the first. -/
lemma exists_of_forall₂ (h : List.Forall₂ R us vs) {b : α} (hb : b ∈ vs) : ∃ a ∈ us, R a b := by
  induction h with
  | nil => exact absurd hb List.not_mem_nil
  | cons hab _ ih =>
    rcases List.mem_cons.1 hb with rfl | hb
    · exact ⟨_, List.mem_cons_self, hab⟩
    · obtain ⟨a, ha, hab⟩ := ih hb
      exact ⟨a, List.mem_cons_of_mem _ ha, hab⟩

end Lists

/-- Members of the same name with related values. -/
def SameName (R : Value → Value → Prop) (m n : String × Value) : Prop :=
  m.1 = n.1 ∧ R m.2 n.2

/-- Objects with related members have the same names in the same order, and related values. -/
lemma forall₂_sameName_iff {R : Value → Value → Prop} {ms ns : Members} :
    List.Forall₂ (SameName R) ms ns ↔
      ms.keys = ns.keys ∧ List.Forall₂ R (ms.map Prod.snd) (ns.map Prod.snd) := by
  rw [Members.keys, Members.keys, ← List.forall₂_eq_eq_eq]
  simp only [List.forall₂_map_left_iff, List.forall₂_map_right_iff]
  constructor
  · intro h
    exact ⟨h.imp fun _ _ => And.left, h.imp fun _ _ => And.right⟩
  · rintro ⟨hnames, hvalues⟩
    exact List.Forall₂.mp (fun _ _ => And.intro) hnames hvalues

namespace Value

variable {items : Bool} {u v w : Value}

/-- The rearrangements of an object, member by member. -/
lemma rearranged_object_iff {ms : Members} :
    (Value.object ms).Rearranged items w ↔
      ∃ ls ns, w = .object ns ∧ List.Forall₂ (SameName (Rearranged items)) ms ls ∧ ls.Perm ns := by
  constructor
  · intro h
    cases h with
    | @object _ ls ns names values order =>
      exact ⟨ls, ns, rfl, forall₂_sameName_iff.2 ⟨names, values⟩, order⟩
  · rintro ⟨ls, ns, rfl, hsame, horder⟩
    obtain ⟨hnames, hvalues⟩ := forall₂_sameName_iff.1 hsame
    exact .object hnames hvalues horder

/-- **A value rearranges back.**

**Proof sketch.** What is related place by place before the first list is put in another order is so
afterwards, with the other list in another order. -/
lemma Rearranged.symm (h : v.Rearranged items w) : w.Rearranged items v := by
  induction v generalizing w with
  | null => cases h; exact .null
  | bool b => cases h; exact .bool b
  | number n => cases h; exact .number n
  | string s => cases h; exact .string s
  | array vs ih =>
    cases h with
    | @array _ us ws same order =>
      have hback : List.Forall₂ (Rearranged items) us vs :=
        forall₂_symm (fun v hv _ => ih v hv) same
      obtain ⟨xs, hsame, hxs⟩ := exists_forall₂_of_order (order_symm order) hback
      exact .array hsame hxs
  | object ms ih =>
    obtain ⟨ls, ns, rfl, hmembers, horder⟩ := rearranged_object_iff.1 h
    have hback : List.Forall₂ (SameName (Rearranged items)) ls ms := by
      refine forall₂_symm (fun m hm n hmn => ?_) hmembers
      exact ⟨hmn.1.symm, ih m hm hmn.2⟩
    obtain ⟨xs, hsame, hxs⟩ := List.perm_comp_forall₂ horder.symm hback
    exact rearranged_object_iff.2 ⟨xs, ms, rfl, hsame, hxs⟩

/-- **A rearranged value may be rearranged again.** -/
lemma Rearranged.trans (h : u.Rearranged items v) (h' : v.Rearranged items w) :
    u.Rearranged items w := by
  induction u generalizing v w with
  | null => cases h; exact h'
  | bool b => cases h; exact h'
  | number n => cases h; exact h'
  | string s => cases h; exact h'
  | array us ih =>
    cases h with
    | @array _ _ vs same order =>
      cases h' with
      | @array _ _ ws same' order' =>
        obtain ⟨xs, hsame, hxs⟩ := exists_forall₂_of_order order same'
        exact .array (forall₂_trans (fun u hu _ _ => ih u hu) same hsame) (order_trans hxs order')
  | object ls ih =>
    obtain ⟨_, ms, rfl, hmembers, horder⟩ := rearranged_object_iff.1 h
    obtain ⟨_, ns, rfl, hmembers', horder'⟩ := rearranged_object_iff.1 h'
    obtain ⟨xs, hsame, hxs⟩ := List.perm_comp_forall₂ horder hmembers'
    have hall : List.Forall₂ (SameName (Rearranged items)) ls xs := by
      refine forall₂_trans (fun l hl m n hlm hmn => ?_) hmembers hsame
      exact ⟨hlm.1.trans hmn.1, ih l hl hlm.2 hmn.2⟩
    exact rearranged_object_iff.2 ⟨xs, ns, rfl, hall, hxs.trans horder'⟩

/-! ## What a rearrangement keeps -/

/-- The items of a rearranged array are rearranged items. -/
lemma Rearranged.items_of_array {vs : List Value} (h : (Value.array vs).Rearranged items w) :
    ∃ ws, w = .array ws ∧ ∀ w ∈ ws, ∃ v ∈ vs, v.Rearranged items w := by
  cases h with
  | @array _ us ws same order =>
    refine ⟨ws, rfl, fun w hw => ?_⟩
    exact exists_of_forall₂ same ((mem_iff_of_order order).2 hw)

/-- The members of a rearranged object have the same names, and are rearranged members. -/
lemma Rearranged.members_of_object {ms : Members} (h : (Value.object ms).Rearranged items w) :
    ∃ ns : Members, w = .object ns ∧ ns.keys.Perm ms.keys ∧
      ∀ n ∈ ns, ∃ m ∈ ms, m.2.Rearranged items n.2 := by
  cases h with
  | @object _ ls ns names values order =>
    refine ⟨ns, rfl, names ▸ (order.map Prod.fst).symm, fun n hn => ?_⟩
    obtain ⟨m, hm, hmn⟩ := exists_of_forall₂ (forall₂_sameName_iff.2 ⟨names, values⟩)
      (order.mem_iff.2 hn)
    exact ⟨m, hm, hmn.2⟩

/-- A rearranged value has no floating point numbers if the value has none. -/
lemma Rearranged.floatFree (h : v.Rearranged items w) (hv : v.floatFree = true) :
    w.floatFree = true := by
  induction v generalizing w with
  | null => cases h; exact hv
  | bool b => cases h; exact hv
  | number n => cases h; exact hv
  | string s => cases h; exact hv
  | array vs ih =>
    obtain ⟨ws, rfl, hws⟩ := h.items_of_array
    simp only [Value.floatFree, itemsFloatFree_iff] at hv ⊢
    intro w hw
    obtain ⟨v, hmem, hvw⟩ := hws w hw
    exact ih v hmem hvw (hv v hmem)
  | object ms ih =>
    obtain ⟨ns, rfl, -, hns⟩ := h.members_of_object
    simp only [Value.floatFree, membersFloatFree_iff] at hv ⊢
    intro n hn
    obtain ⟨m, hm, hmn⟩ := hns n hn
    exact ih m hm hmn (hv m hm)

/-- **A rearrangement repeats no name and nests no deeper** than the value does. -/
lemma Rearranged.fits {room : Nat} (h : v.Rearranged items w) (hv : v.Fits room) :
    w.Fits room := by
  induction v generalizing w room with
  | null => cases h; exact hv
  | bool b => cases h; exact hv
  | number n => cases h; exact hv
  | string s => cases h; exact hv
  | array vs ih =>
    obtain ⟨ws, rfl, hws⟩ := h.items_of_array
    obtain _ | room := room
    · exact absurd hv not_fits_zero_array
    rw [fits_array] at hv ⊢
    intro w hw
    obtain ⟨v, hmem, hvw⟩ := hws w hw
    exact ih v hmem hvw (hv v hmem)
  | object ms ih =>
    obtain ⟨ns, rfl, hkeys, hns⟩ := h.members_of_object
    obtain _ | room := room
    · exact absurd hv not_fits_zero_object
    rw [fits_object] at hv ⊢
    refine ⟨hkeys.nodup_iff.2 hv.1, fun n hn => ?_⟩
    obtain ⟨m, hm, hmn⟩ := hns n hn
    exact ih m hm hmn (hv.2 m hm)

/-- **A rearranged value is as legible** as the value. -/
lemma Rearranged.legible (h : v.Rearranged items w) (hv : v.Legible) : w.Legible :=
  (h.fits hv.distinctKeys.fits).legible (h.floatFree hv.floatFree)

end Value

/-! ## Functions that reorder -/

/-- The function puts members, and items if that is allowed, in another order, after it has done so
inside of them; it does nothing else. -/
structure Reorders (items : Bool) (f : Value → Value) : Prop where
  null : f .null = .null
  bool : ∀ b, f (.bool b) = .bool b
  number : ∀ n, f (.number n) = .number n
  string : ∀ s, f (.string s) = .string s
  array : ∀ vs, ∃ ws, f (.array vs) = .array ws ∧
    if items then (vs.map f).Perm ws else vs.map f = ws
  object : ∀ ms : Members, ∃ ns, f (.object ms) = .object ns ∧
    (ms.map fun m => (m.1, f m.2)).Perm ns

namespace Reorders

variable {items : Bool} {f g : Value → Value}

/-- Leaving a value as it is puts nothing in another order. -/
lemma id (items : Bool) : Reorders items id where
  null := rfl
  bool _ := rfl
  number _ := rfl
  string _ := rfl
  array vs := by
    refine ⟨vs, rfl, ?_⟩
    rw [List.map_id]
    split
    · exact .refl vs
    · rfl
  object ms := ⟨ms, rfl, by simp⟩

/-- One function after another. The items have been put in another order by the first one when the
second one gets them, and then inside of them. -/
lemma comp (hg : Reorders items g) (hf : Reorders items f) : Reorders items (g ∘ f) where
  null := by rw [Function.comp_apply, hf.null, hg.null]
  bool b := by rw [Function.comp_apply, hf.bool, hg.bool]
  number n := by rw [Function.comp_apply, hf.number, hg.number]
  string s := by rw [Function.comp_apply, hf.string, hg.string]
  array vs := by
    obtain ⟨us, hus, hfirst⟩ := hf.array vs
    obtain ⟨ws, hws, hsecond⟩ := hg.array us
    refine ⟨ws, by rw [Function.comp_apply, hus, hws], ?_⟩
    cases items with
    | true =>
      have hmap := (hfirst.map g).trans hsecond
      rwa [List.map_map] at hmap
    | false =>
      have hmap : us.map g = ws := hsecond
      rw [← (hfirst : vs.map f = us), List.map_map] at hmap
      exact hmap
  object ms := by
    obtain ⟨ls, hls, hfirst⟩ := hf.object ms
    obtain ⟨ns, hns, hsecond⟩ := hg.object ls
    refine ⟨ns, by rw [Function.comp_apply, hls, hns], ?_⟩
    have hmap := (hfirst.map fun m => (m.1, g m.2)).trans hsecond
    rwa [List.map_map] at hmap

/-- **A function that reorders** rearranges every value. -/
lemma rearranged (hf : Reorders items f) (v : Value) : v.Rearranged items (f v) := by
  induction v with
  | null => rw [hf.null]; exact .null
  | bool b => rw [hf.bool]; exact .bool b
  | number n => rw [hf.number]; exact .number n
  | string s => rw [hf.string]; exact .string s
  | array vs ih =>
    obtain ⟨ws, hws, horder⟩ := hf.array vs
    rw [hws]
    exact .array (List.forall₂_map_right_iff.2 (List.forall₂_same.2 ih)) horder
  | object ms ih =>
    obtain ⟨ns, hns, horder⟩ := hf.object ms
    rw [hns]
    refine .object ?_ ?_ horder
    · rw [Members.keys, Members.keys, List.map_map]
      rfl
    · rw [List.map_map, List.forall₂_map_left_iff, List.forall₂_map_right_iff]
      exact List.forall₂_same.2 ih

end Reorders

namespace Value

/-- Sorting arrays puts items in another order and does nothing else. -/
lemma reorders_sortArrays : Reorders true sortArrays where
  null := by rfl
  bool _ := by rfl
  number _ := by rfl
  string _ := by rfl
  array vs := by
    refine ⟨_, by rw [sortArrays, sortItemArrays_eq_map], ?_⟩
    exact (sortByCanonical_perm _).symm
  object ms := by
    refine ⟨_, by rw [sortArrays, sortMemberArrays_eq_map], ?_⟩
    exact .refl _

/-- Sorting members puts them in another order and does nothing else. -/
lemma reorders_sortKeys (items : Bool) : Reorders items sortKeys where
  null := by rfl
  bool _ := by rfl
  number _ := by rfl
  string _ := by rfl
  array vs := by
    refine ⟨_, by rw [sortKeys, sortItemKeys_eq_map], ?_⟩
    split
    · exact .refl _
    · rfl
  object ms := by
    refine ⟨_, by rw [sortKeys, sortMemberKeys_eq_map], ?_⟩
    exact (sortByKey_perm _).symm

/-- **Normal forms are rearranged values**; the items of arrays keep their order unless they are
sorted. -/
lemma rearranged_normalize (sortArrayMembers preserveKeyOrder : Bool) (v : Value) :
    v.Rearranged sortArrayMembers (v.normalize sortArrayMembers preserveKeyOrder) := by
  have harrays : Reorders sortArrayMembers
      fun v => if sortArrayMembers then v.sortArrays else v := by
    cases sortArrayMembers with
    | true => exact reorders_sortArrays
    | false => exact .id false
  cases preserveKeyOrder with
  | true => exact harrays.rearranged v
  | false => exact ((reorders_sortKeys sortArrayMembers).comp harrays).rearranged v

section Normalize

variable {a k : Bool} {v : Value}

/-- A value that can be read back still can with its members sorted. -/
lemma Legible.sortKeys (h : v.Legible) : v.sortKeys.Legible :=
  ((reorders_sortKeys true).rearranged v).legible h

/-- A value that can be read back still can with its arrays sorted. -/
lemma Legible.sortArrays (h : v.Legible) : v.sortArrays.Legible :=
  (reorders_sortArrays.rearranged v).legible h

/-- A normal form has no floating point numbers if the value has none. -/
lemma floatFree_normalize (h : v.floatFree = true) : (v.normalize a k).floatFree = true :=
  (rearranged_normalize a k v).floatFree h

/-- A normal form fits where the value fits. -/
lemma Fits.normalize {room : Nat} (h : v.Fits room) : (v.normalize a k).Fits room :=
  (rearranged_normalize a k v).fits h

/-- **A normal form can be read back** if the value can. -/
lemma Legible.normalize (h : v.Legible) : (v.normalize a k).Legible :=
  (rearranged_normalize a k v).legible h

end Normalize

end Value

end HttpStub.Json
