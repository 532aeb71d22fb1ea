import HttpStub.Json.Schema
import HttpStub.Proofs.Json.Parsed
import Mathlib.Data.List.Forall2

set_option autoImplicit false

/-!
# What is decoded

A record that has been read has every property that the record of all defaults has and that no field
takes away. So what a reader knows of each single value is known of the whole record, in the form of
an object as well as in the form of an array.

## Main definitions

* `HttpStub.Json.Value.Given` — a value that can have been read for an optional member.
* `HttpStub.Json.Field.Keeps` — reading the field keeps a property of records.

## Main results

* `HttpStub.Json.Schema.decode_keeps` — what all fields keep holds of a record that has been read.
* `HttpStub.Json.Decoder.list_eq_ok_iff` — a list is read item by item.
* `HttpStub.Json.Decoder.forall_of_list` — what holds of each item that is read holds of a list.
* `HttpStub.Json.Decoder.given_of_optional` — an optional value that is read is not `null`, and
  fits.
-/

namespace HttpStub.Json

variable {α R : Type}

/-! ## Steps that succeed -/

section Except

variable {ε β : Type}

/-- If two steps together give a result, each of them does. -/
lemma exists_of_bind_eq_ok {x : Except ε α} {f : α → Except ε β} {b : β} (h : x >>= f = .ok b) :
    ∃ a, x = .ok a ∧ f a = .ok b := by
  cases x with
  | error e => cases h
  | ok a => exact ⟨a, rfl, h⟩

/-- If a function of a result is given, the result is. -/
lemma exists_of_map_eq_ok {x : Except ε α} {f : α → β} {b : β} (h : x.map f = .ok b) :
    ∃ a, x = .ok a ∧ f a = b := by
  cases x with
  | error e => cases h
  | ok a => exact ⟨a, rfl, Except.ok.inj h⟩

/-- A result is kept when errors are forgotten, and nothing else is. -/
lemma toOption_eq_some_iff {x : Except ε α} {a : α} : x.toOption = some a ↔ x = .ok a := by
  cases x <;> simp [Except.toOption]

end Except

/-! ## Values and lists -/

/-- The value can have been read for an optional member: it is not `null`, which leaves the member
out, and it fits the room that was given. -/
structure Value.Given (room : Nat) (v : Value) : Prop where
  ne_null : v ≠ .null
  fits : v.Fits room

/-- Only the outline `null` spells `null`. -/
lemma Outline.eq_null_of_value? {o : Outline} {room : Nat} (h : o.value? room = some .null) :
    o = .null := by
  cases o with
  | null => rfl
  | array items closed => cases room <;> simp [value?] at h
  | object members closed => cases room <;> simp [value?] at h
  | _ => simp [value?] at h

namespace Decoder

variable {d : Decoder α} {room : Nat} {o : Outline}

/-- What the decoder of all values reads is what the outline spells. -/
lemma value?_of_value {v : Value} (h : value room o = .ok v) : o.value? room = some v := by
  unfold value at h
  split at h
  · next hvalue => rw [hvalue, Except.ok.inj h]
  · cases h

/-- **An optional value that is read** is not `null`, and fits the room that was given. -/
lemma given_of_optional {x : Option Value} (h : Decoder.value.optional room o = .ok x) :
    ∀ v ∈ x, v.Given room := by
  rintro v rfl
  unfold Decoder.optional at h
  split at h
  · cases h
  · next hnull =>
    obtain ⟨w, hw, hwv⟩ := exists_of_map_eq_ok h
    obtain rfl : w = v := Option.some.inj hwv
    have hvalue := value?_of_value hw
    refine ⟨?_, Outline.fits_of_value? hvalue⟩
    rintro rfl
    exact hnull (Outline.eq_null_of_value? hvalue)

/-- **Items are read one by one.** -/
lemma items_eq_ok_iff {os : List Outline} {as : List α} :
    items d room os = .ok as ↔ List.Forall₂ (fun o a => d room o = .ok a) os as := by
  constructor
  · intro h
    induction os generalizing as with
    | nil =>
      obtain rfl : [] = as := Except.ok.inj h
      exact .nil
    | cons o os ih =>
      obtain ⟨a, ha, h⟩ := exists_of_bind_eq_ok h
      obtain ⟨as', has', h⟩ := exists_of_bind_eq_ok h
      obtain rfl : a :: as' = as := Except.ok.inj h
      exact .cons ha (ih has')
  · intro h
    induction h with
    | nil => rfl
    | cons ha _ ih =>
      rw [items, ha, ih]
      rfl

/-- **A list is read item by item**, from an array that is complete. -/
lemma list_eq_ok_iff {as : List α} :
    d.list (room + 1) o = .ok as ↔
      ∃ os, o = .array os true ∧ List.Forall₂ (fun o a => d room o = .ok a) os as := by
  constructor
  · intro h
    cases o with
    | array os closed =>
      obtain ⟨as', has', h⟩ := exists_of_bind_eq_ok h
      split at h
      · next hclosed =>
        obtain rfl : as' = as := Except.ok.inj h
        exact ⟨os, by rw [hclosed], items_eq_ok_iff.1 has'⟩
      · cases h
    | _ => cases h
  · rintro ⟨os, rfl, h⟩
    rw [list, items_eq_ok_iff.2 h]
    rfl

/-- **What holds of each item that is read holds of a list.** -/
lemma forall_of_list {P : α → Prop} (hd : ∀ o a, d room o = .ok a → P a) {as : List α}
    (h : d.list (room + 1) o = .ok as) : ∀ a ∈ as, P a := by
  obtain ⟨os, -, hos⟩ := list_eq_ok_iff.1 h
  intro a ha
  obtain ⟨i, hi, rfl⟩ := List.getElem_of_mem ha
  exact hd _ _ (hos.get (hos.length_eq ▸ hi) hi)

/-- **A whole text is read from its outline**, if nothing follows. -/
lemma read_eq_ok_iff {r : Reading} {a : α} :
    d.read r = .ok a ↔ d maxDepth r.outline = .ok a ∧ r.complete = true := by
  constructor
  · intro h
    obtain ⟨b, hb, h⟩ := exists_of_bind_eq_ok h
    split at h
    · next hcomplete =>
      obtain rfl : b = a := Except.ok.inj h
      exact ⟨hb, hcomplete⟩
    · cases h
  · rintro ⟨ha, hcomplete⟩
    rw [read, ha, hcomplete]
    rfl

/-- What a whole text is read as is read from an outline. -/
lemma exists_of_read {r : Reading} {a : α} (h : d.read r = .ok a) :
    ∃ o, d maxDepth o = .ok a :=
  ⟨r.outline, (read_eq_ok_iff.1 h).1⟩

end Decoder

/-! ## Records -/

/-- Reading the field with room for `room` open arrays and objects keeps the property `P`. -/
def Field.Keeps (f : Field R) (room : Nat) (P : R → Prop) : Prop :=
  ∀ o change, f.decode room o = .ok change → ∀ a, P a → P (change a)

/-- A member that is read by one decoder and put into the record by one function keeps what this
function keeps for all that the decoder reads. -/
lemma Field.keeps_of_set {P : R → Prop} {room : Nat} {d : Decoder α} {set : α → R → R} {f : Field R}
    (hdecode : f.decode = fun room o => (d room o).map set)
    (h : ∀ o x a, d room o = .ok x → P a → P (set x a)) : f.Keeps room P := by
  intro o change hchange a ha
  rw [hdecode] at hchange
  obtain ⟨x, hx, rfl⟩ := exists_of_map_eq_ok hchange
  exact h o x a hx ha

namespace Schema

variable {s : Schema R} {room : Nat} {P : R → Prop} {a r : R}

/-- What every field keeps is kept while members are read one after the other. -/
lemma readMembers_keeps (hP : ∀ f ∈ s.fields, f.Keeps room P) (ha : P a)
    {ms : List (Option String × Outline)} {seen seen' : List String}
    (h : s.readMembers room seen a ms = .ok (seen', r)) : P r := by
  induction ms generalizing seen a with
  | nil =>
    obtain ⟨-, rfl⟩ := Prod.mk.inj (Except.ok.inj h)
    exact ha
  | cons m ms ih =>
    obtain ⟨_ | k, o⟩ := m
    · cases h
    rw [readMembers] at h
    split at h
    · split at h
      · exact ih ha h
      · cases h
    · next f hf =>
      split at h
      · cases h
      · obtain ⟨change, hchange, h⟩ := exists_of_bind_eq_ok h
        exact ih (hP f (List.mem_of_find?_eq_some hf) o change hchange a ha) h

/-- What every field keeps is kept while items are read in the order of the fields. -/
lemma readItems_keeps {fs : List (Field R)} (hP : ∀ f ∈ fs, f.Keeps room P) (ha : P a)
    {os : List Outline} {closed : Bool} {n : Nat}
    (h : s.readItems room closed n a fs os = .ok r) : P r := by
  induction fs generalizing n a os with
  | nil =>
    cases os with
    | cons o os => cases h
    | nil =>
      rw [readItems] at h
      split at h
      · obtain rfl := Except.ok.inj h
        exact ha
      · cases h
  | cons f fs ih =>
    obtain ⟨hf, hfs⟩ := List.forall_mem_cons.1 hP
    cases os with
    | nil =>
      rw [readItems] at h
      split at h
      · cases h
      · split at h
        · cases h
        · exact ih hfs ha h
    | cons o os =>
      obtain ⟨change, hchange, h⟩ := exists_of_bind_eq_ok h
      exact ih hfs (hf o change hchange a ha) h

/-- **What all fields keep holds of a record that has been read**, if it holds of the record of all
defaults. -/
theorem decode_keeps (hdefault : P s.default) (hP : ∀ f ∈ s.fields, f.Keeps room P) {o : Outline}
    (h : s.decode (room + 1) o = .ok r) : P r := by
  unfold decode at h
  split at h
  · cases h
  · next hroom =>
    obtain rfl : room = _ := Nat.succ.inj hroom
    obtain ⟨⟨seen, b⟩, hb, h⟩ := exists_of_bind_eq_ok h
    dsimp only at h
    split at h
    · cases h
    · split at h
      · cases h
      · obtain rfl : b = r := Except.ok.inj h
        exact readMembers_keeps hP hdefault hb
  · split at h
    · cases h
    · split at h
      · cases h
      · next hroom =>
        obtain rfl : room = _ := Nat.succ.inj hroom
        exact readItems_keeps hP hdefault h
  · cases h

end Schema

end HttpStub.Json
