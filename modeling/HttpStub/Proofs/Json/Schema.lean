import HttpStub.Json.Schema
import HttpStub.Proofs.Json.Shape
import Mathlib.Data.List.Basic
import Mathlib.Data.List.Nodup

set_option autoImplicit false

/-!
# The JSON of records

Where the fields of a record type have different names, each of them can be read off the JSON object
of a record.

## Main definitions

* `HttpStub.Json.Schema.NamesApart` — the fields have different names.

## Main results

* `HttpStub.Json.Schema.mem_members_iff` — the members of the object of a record.
* `HttpStub.Json.Schema.field_eq_of_encode_eq` — records with the same object agree in each field.
* `HttpStub.Json.Schema.encode_legible` — when the object of a record can be read back.
-/

namespace HttpStub.Json

variable {R α : Type}

/-! ## Objects of records -/

namespace Schema

variable {s : Schema R} {r r' : R} {f : Field R} {v : Value}

/-- The fields of the record type have different names. -/
def NamesApart (s : Schema R) : Prop :=
  (s.fields.map Field.name).Nodup

instance : Decidable s.NamesApart :=
  inferInstanceAs (Decidable (s.fields.map Field.name).Nodup)

/-- The members of the object of a record. -/
def members (s : Schema R) (r : R) : Members :=
  s.fields.filterMap fun f => (f.encode r).map fun v => (f.name, v)

/-- A record is written as the object of its members. -/
lemma encode_eq : s.encode r = .object (s.members r) := by
  rfl

/-- Each member is what a field is written as, under the name of the field. -/
lemma exists_of_mem_members {m : String × Value} (h : m ∈ s.members r) :
    ∃ f ∈ s.fields, f.name = m.1 ∧ f.encode r = some m.2 := by
  simp only [members, List.mem_filterMap, Option.map_eq_some_iff] at h
  obtain ⟨f, hf, v, hv, rfl⟩ := h
  exact ⟨f, hf, rfl, hv⟩

/-- **A field is a member** with the value that is written for it. -/
lemma mem_members_iff (hs : s.NamesApart) (hf : f ∈ s.fields) :
    (f.name, v) ∈ s.members r ↔ f.encode r = some v := by
  constructor
  · intro h
    obtain ⟨g, hg, hname, hv⟩ := exists_of_mem_members h
    obtain rfl : g = f := List.inj_on_of_nodup_map hs hg hf hname
    exact hv
  · intro h
    exact List.mem_filterMap.2 ⟨f, hf, by rw [h]; rfl⟩

/-- **Records with the same object** agree in each field. -/
lemma field_eq_of_encode_eq (hs : s.NamesApart) (h : s.encode r = s.encode r')
    (hf : f ∈ s.fields) : f.encode r = f.encode r' := by
  rw [encode_eq, encode_eq, Value.object.injEq] at h
  refine Option.ext fun v => ?_
  rw [← mem_members_iff hs hf, h, mem_members_iff hs hf]

/-- The names of the members are names of fields, in their order. -/
lemma keys_members_sublist : ((s.members r).map Prod.fst).Sublist (s.fields.map Field.name) := by
  unfold members
  induction s.fields with
  | nil => exact List.Sublist.refl _
  | cons f fs ih =>
    rcases hv : f.encode r with _ | v
    · rw [List.filterMap_cons_none (by rw [hv]; rfl), List.map_cons]
      exact ih.cons _
    · rw [List.filterMap_cons_some (b := (f.name, v)) (by rw [hv]; rfl), List.map_cons,
        List.map_cons]
      exact ih.cons_cons _

/-- **The object of a record** can be read back if what is written for its fields can. -/
lemma encode_legible (hs : s.NamesApart)
    (h : ∀ f ∈ s.fields, ∀ v ∈ f.encode r, v.Legible) : (s.encode r).Legible := by
  refine Value.legible_object.2 ⟨keys_members_sublist.nodup hs, fun m hm => ?_⟩
  obtain ⟨f, hf, -, hv⟩ := exists_of_mem_members hm
  exact h f hf m.2 hv

end Schema

/-! ## Fields -/

namespace Field

/-- Different texts have different values. -/
lemma string_injective : Function.Injective Value.string :=
  fun _ _ => Value.string.inj

/-- Different truth values have different values. -/
lemma bool_injective : Function.Injective Value.bool :=
  fun _ _ => Value.bool.inj

variable {name : String} {write : α → Value} {read : Decoder α} {r r' : R}

/-- What is left out when it is absent can be told from its member, and from its absence. -/
lemma optional_inj {get : R → Option α} {set : Option α → R → R} (hw : Function.Injective write)
    (h : (optional name get set write read).encode r =
      (optional name get set write read).encode r') : get r = get r' :=
  Option.map_injective hw h

/-- What is always written can be told from its member. -/
lemma mandatory_inj {get : R → α} {set : α → R → R} (hw : Function.Injective write)
    (h : (mandatory name get set write read).encode r =
      (mandatory name get set write read).encode r') : get r = get r' :=
  hw (Option.some.inj h)

/-- A list that is left out when it is empty can be told from its member, and from its absence. -/
lemma list_inj {get : R → List α} {set : List α → R → R} (hw : Function.Injective write)
    (h : (list name get set write read).encode r = (list name get set write read).encode r') :
    get r = get r' := by
  simp only [list] at h
  split at h <;> split at h
  · next h₁ h₂ => rw [List.isEmpty_iff.1 h₁, List.isEmpty_iff.1 h₂]
  · simp at h
  · simp at h
  · simp only [Option.some.injEq, Value.array.injEq] at h
    exact List.map_injective_iff.2 hw h

end Field

end HttpStub.Json
