import HttpStub.Json.Decode
import HttpStub.Proofs.Groups
import HttpStub.Proofs.Json.Shape

set_option autoImplicit false

/-!
# What is parsed

A value that has been parsed repeats no name in an object and opens no more arrays and objects at
once than the reader allows.

## Main results

* `HttpStub.Json.Outline.wellFormed_of_value?` — nothing is broken off in what spells a value.
* `HttpStub.Json.Outline.fits_of_value?` — what an outline spells fits the room that was given.
* `HttpStub.Json.fits_of_parse?`, `HttpStub.Json.fits_of_parseString?` — what a text is parsed as
  fits the room of the reader.
-/

namespace HttpStub.Json

/-- **Induction on outlines**, with a hypothesis for each item and each member. -/
@[elab_as_elim, induction_eliminator]
theorem Outline.induction {P : Outline → Prop} (null : P .null) (bool : ∀ b, P (.bool b))
    (number : ∀ l, P (.number l)) (string : ∀ s, P (.string s))
    (array : ∀ (items : List Outline) (closed : Bool), (∀ o ∈ items, P o) →
      P (.array items closed))
    (object : ∀ (members : List (Option String × Outline)) (closed : Bool),
      (∀ m ∈ members, P m.2) → P (.object members closed))
    (broken : P .broken) : ∀ o, P o
  | .null => null
  | .bool b => bool b
  | .number l => number l
  | .string s => string s
  | .array items closed =>
    array items closed fun o _ => induction null bool number string array object broken o
  | .object members closed =>
    object members closed fun m _ => induction null bool number string array object broken m.2
  | .broken => broken
termination_by o => sizeOf o
decreasing_by
  · have := List.sizeOf_lt_of_mem ‹o ∈ items›
    simp only [Outline.array.sizeOf_spec]
    omega
  · have := List.sizeOf_lt_of_mem ‹m ∈ members›
    obtain ⟨k, w⟩ := m
    simp only [Prod.mk.sizeOf_spec] at this
    simp only [Outline.object.sizeOf_spec]
    omega

/-- Each value of a list of items is spelled by one of the outlines. -/
lemma exists_of_mem_itemValues? {room : Nat} {os : List Outline} {vs : List Value}
    (h : itemValues? room os = some vs) {v : Value} (hv : v ∈ vs) :
    ∃ o ∈ os, o.value? room = some v := by
  induction os generalizing vs with
  | nil =>
    obtain rfl : [] = vs := by simpa [itemValues?] using h
    simp at hv
  | cons o os ih =>
    simp only [itemValues?, Option.bind_eq_bind, Option.bind_eq_some_iff, Option.pure_def,
      Option.some.injEq] at h
    obtain ⟨w, hw, ws, hws, rfl⟩ := h
    rcases List.mem_cons.1 hv with rfl | hv
    · exact ⟨o, List.mem_cons_self, hw⟩
    · obtain ⟨o', ho', hv⟩ := ih hws hv
      exact ⟨o', List.mem_cons_of_mem _ ho', hv⟩

/-- Each outline of a list of items spells a value, if the list spells one. -/
lemma exists_value_of_itemValues? {room : Nat} {os : List Outline} {vs : List Value}
    (h : itemValues? room os = some vs) : ∀ o ∈ os, ∃ v, o.value? room = some v := by
  induction os generalizing vs with
  | nil => simp
  | cons o os ih =>
    simp only [itemValues?, Option.bind_eq_bind, Option.bind_eq_some_iff] at h
    obtain ⟨v, hv, ws, hws, -⟩ := h
    exact List.forall_mem_cons.2 ⟨⟨v, hv⟩, ih hws⟩

/-- Each member of an object has a name and spells a value, if the object spells one. -/
lemma exists_value_of_memberValues? {room : Nat} {ms : List (Option String × Outline)}
    {acc r : Members} (h : memberValues? room acc ms = some r) :
    ∀ m ∈ ms, ∃ k v, m.1 = some k ∧ m.2.value? room = some v := by
  induction ms generalizing acc with
  | nil => simp
  | cons m ms ih =>
    obtain ⟨key, o⟩ := m
    simp only [memberValues?, Option.bind_eq_bind, Option.bind_eq_some_iff] at h
    obtain ⟨k, hk, v, hv, h⟩ := h
    exact List.forall_mem_cons.2 ⟨⟨k, v, hk, hv⟩, ih h⟩

namespace Outline

variable {room : Nat} {o : Outline} {os : List Outline} {ms : List (Option String × Outline)}
  {closed : Bool} {v : Value}

/-- An array that spells a value is closed, and each of its items spells one with one level less. -/
lemma exists_of_value?_array (h : (array os closed).value? (room + 1) = some v) :
    closed = true ∧ ∀ o ∈ os, ∃ w, o.value? room = some w := by
  simp only [value?, Option.ite_none_right_eq_some, Option.map_eq_some_iff] at h
  obtain ⟨hclosed, vs, hvs, -⟩ := h
  exact ⟨hclosed, exists_value_of_itemValues? hvs⟩

/-- An object that spells a value is closed, and each of its members has a name and spells a value
with one level less. -/
lemma exists_of_value?_object (h : (object ms closed).value? (room + 1) = some v) :
    closed = true ∧ ∀ m ∈ ms, ∃ k w, m.1 = some k ∧ m.2.value? room = some w := by
  simp only [value?, Option.ite_none_right_eq_some, Option.map_eq_some_iff] at h
  obtain ⟨hclosed, r, hr, -⟩ := h
  exact ⟨hclosed, exists_value_of_memberValues? hr⟩

/-- Nothing is broken off in the items if nothing is in each of them. -/
lemma itemsWellFormed_iff : itemsWellFormed os = true ↔ ∀ o ∈ os, o.wellFormed = true := by
  induction os with
  | nil => simp [itemsWellFormed]
  | cons o os ih => simp [itemsWellFormed, ih]

/-- Nothing is broken off in the members if nothing is in each of them. -/
lemma membersWellFormed_iff :
    membersWellFormed ms = true ↔ ∀ m ∈ ms, m.2.wellFormed = true := by
  induction ms with
  | nil => simp [membersWellFormed]
  | cons m ms ih => simp [membersWellFormed, ih]

/-- **Nothing is broken off** in an outline that spells a value. -/
lemma wellFormed_of_value? (h : o.value? room = some v) : o.wellFormed = true := by
  induction o generalizing room v with
  | array items closed ih =>
    cases room with
    | zero => simp [value?] at h
    | succ room =>
      obtain ⟨hclosed, hitems⟩ := exists_of_value?_array h
      rw [wellFormed, hclosed, Bool.true_and, itemsWellFormed_iff]
      intro o ho
      obtain ⟨w, hw⟩ := hitems o ho
      exact ih o ho hw
  | object members closed ih =>
    cases room with
    | zero => simp [value?] at h
    | succ room =>
      obtain ⟨hclosed, hmembers⟩ := exists_of_value?_object h
      rw [wellFormed, hclosed, Bool.true_and, membersWellFormed_iff]
      intro m hm
      obtain ⟨-, w, -, hw⟩ := hmembers m hm
      exact ih m hm hw
  | broken => simp [value?] at h
  | _ => rfl

end Outline

/-- Members that fit stay so when the members of an outline are added that fit.

**Proof sketch.** Induction on the members of the outline. Putting a member in keeps the names
apart (`nodup_keys_putEntry`), and the only new value is the one that is put in. -/
lemma fits_of_memberValues? {room : Nat} {ms : List (Option String × Outline)}
    (h : ∀ m ∈ ms, ∀ v, m.2.value? room = some v → v.Fits room) {acc r : Members}
    (hacc : (acc.map Prod.fst).Nodup ∧ ∀ m ∈ acc, m.2.Fits room)
    (hr : memberValues? room acc ms = some r) :
    (r.map Prod.fst).Nodup ∧ ∀ m ∈ r, m.2.Fits room := by
  induction ms generalizing acc with
  | nil =>
    obtain rfl : acc = r := by simpa [memberValues?] using hr
    exact hacc
  | cons m ms ih =>
    obtain ⟨key, o⟩ := m
    obtain ⟨ho, hms⟩ := List.forall_mem_cons.1 h
    simp only [memberValues?, Option.bind_eq_bind, Option.bind_eq_some_iff] at hr
    obtain ⟨k, -, v, hv, hr⟩ := hr
    refine ih hms ⟨nodup_keys_putEntry hacc.1 k v, fun m hm => ?_⟩ hr
    rcases (mem_putEntry_iff hacc.1).1 hm with rfl | ⟨hm, -⟩
    · exact ho v hv
    · exact hacc.2 m hm

/-- **What an outline spells fits the room that was given.** -/
lemma Outline.fits_of_value? {o : Outline} {room : Nat} {v : Value}
    (h : o.value? room = some v) : v.Fits room := by
  induction o generalizing room v with
  | null =>
    obtain rfl : Value.null = v := by simpa [value?] using h
    exact ⟨trivial, Nat.zero_le _⟩
  | bool b =>
    obtain rfl : Value.bool b = v := by simpa [value?] using h
    exact ⟨trivial, Nat.zero_le _⟩
  | number l =>
    simp only [value?, Option.map_eq_some_iff] at h
    obtain ⟨n, -, rfl⟩ := h
    exact ⟨trivial, Nat.zero_le _⟩
  | string s =>
    simp only [value?, Option.map_eq_some_iff] at h
    obtain ⟨t, -, rfl⟩ := h
    exact ⟨trivial, Nat.zero_le _⟩
  | array items closed ih =>
    cases room with
    | zero => simp [value?] at h
    | succ room =>
      simp only [value?, Option.ite_none_right_eq_some, Option.map_eq_some_iff] at h
      obtain ⟨-, vs, hvs, rfl⟩ := h
      refine Value.fits_array.2 fun v hv => ?_
      obtain ⟨o, ho, hov⟩ := exists_of_mem_itemValues? hvs hv
      exact ih o ho hov
  | object members closed ih =>
    cases room with
    | zero => simp [value?] at h
    | succ room =>
      simp only [value?, Option.ite_none_right_eq_some, Option.map_eq_some_iff] at h
      obtain ⟨-, ms, hms, rfl⟩ := h
      have hnone : (([] : Members).map Prod.fst).Nodup ∧ ∀ m ∈ ([] : Members), m.2.Fits room :=
        ⟨List.nodup_nil, by simp⟩
      exact Value.fits_object.2 (fits_of_memberValues? (fun m hm v hv => ih m hm hv) hnone hms)
  | broken => simp [value?] at h

/-- The value of a reading fits the room of the reader. -/
lemma fits_of_value_read {r : Reading} {v : Value}
    (h : (Decoder.value.read r).toOption = some v) : v.Fits Decoder.maxDepth := by
  unfold Decoder.read Decoder.value at h
  cases hv : r.outline.value? Decoder.maxDepth with
  | none => simp [hv, Except.toOption, bind, Except.bind] at h
  | some w =>
    cases hc : r.complete with
    | false => simp [hv, hc, Except.toOption, bind, Except.bind] at h
    | true =>
      obtain rfl : w = v := by
        simpa [hv, hc, Except.toOption, bind, Except.bind, pure, Except.pure] using h
      exact Outline.fits_of_value? hv

/-- **What an octet string is parsed as fits the room of the reader.** -/
lemma fits_of_parse? {bs : Bytes} {v : Value} (h : parse? bs = some v) :
    v.Fits Decoder.maxDepth :=
  fits_of_value_read h

/-- **What a text is parsed as fits the room of the reader.** -/
lemma fits_of_parseString? {s : String} {v : Value} (h : parseString? s = some v) :
    v.Fits Decoder.maxDepth :=
  fits_of_value_read h

end HttpStub.Json
