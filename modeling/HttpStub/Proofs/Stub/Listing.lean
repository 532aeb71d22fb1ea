import HttpStub.Proofs.Json.Decoded
import HttpStub.Stub.Format

set_option autoImplicit false

/-!
# The stubs that a document lists

A document is read if, and only if, it is an object with at most one list of stubs, each of which is
read on its own. The stubs of the document are then those of its list, in the same order.

## Main definitions

* `HttpStub.Json.valuesNamed` — the values of the members with a name.
* `HttpStub.Document.Lists` — the items of the list of stubs in a text.

## Main results

* `HttpStub.Json.Schema.decode_eq_ok_iff` — a record with one field is read from this member.
* `HttpStub.Json.Schema.decode_eq_of_valuesNamed` — and from nothing else.
* `HttpStub.Document.read_eq_ok_iff` — a document is read stub by stub.
-/

namespace HttpStub

namespace Json

/-! ## Records with one field -/

/-- The values of the members with this name. -/
def valuesNamed (name : String) (ms : List (Option String × Outline)) : List Outline :=
  (ms.filter (·.1 = some name)).map Prod.snd

/-- The names of all members can be read, and nothing is broken off in those with another name. -/
def OthersPass (name : String) (ms : List (Option String × Outline)) : Prop :=
  ∀ m ∈ ms, ∃ k, m.1 = some k ∧ (k ≠ name → m.2.wellFormed = true)

section Members

variable {name k : String} {o : Outline} {ms : List (Option String × Outline)}

/-- Without members there are no values. -/
lemma valuesNamed_nil : valuesNamed name [] = [] := rfl

/-- Without members there are no others. -/
lemma othersPass_nil : OthersPass name [] :=
  fun _ hm => absurd hm List.not_mem_nil

/-- A member with the name adds its value. -/
lemma valuesNamed_cons_self :
    valuesNamed name ((some name, o) :: ms) = o :: valuesNamed name ms := by
  simp [valuesNamed]

/-- A member with another name adds none. -/
lemma valuesNamed_cons_of_ne (hk : k ≠ name) :
    valuesNamed name ((some k, o) :: ms) = valuesNamed name ms := by
  simp [valuesNamed, hk]

/-- A member with the name may be broken off inside. -/
lemma othersPass_cons_self :
    OthersPass name ((some name, o) :: ms) ↔ OthersPass name ms := by
  simp [OthersPass]

/-- In a member with another name nothing may be broken off. -/
lemma othersPass_cons_of_ne (hk : k ≠ name) :
    OthersPass name ((some k, o) :: ms) ↔ o.wellFormed = true ∧ OthersPass name ms := by
  simp [OthersPass, hk]

/-- The name of every member has to be legible. -/
lemma not_othersPass_cons_none : ¬ OthersPass name ((none, o) :: ms) := by
  simp [OthersPass]

end Members

namespace Schema

variable {R : Type} {s : Schema R} {f : Field R} {room : Nat} {r r' : R} {seen : List String}
  {k : String} {o : Outline} {ms : List (Option String × Outline)}

/-- Members with another name are passed over. -/
lemma readMembers_cons_of_ne (hs : s.fields = [f]) (hk : k ≠ f.name) :
    s.readMembers room seen r ((some k, o) :: ms) =
      if o.wellFormed then s.readMembers room seen r ms else .error .malformed := by
  have hfield : s.field? k = none := by
    rw [field?, hs, List.find?_eq_none]
    simpa using hk.symm
  rw [readMembers, hfield]

/-- The member of the field is read, unless there has been one. -/
lemma readMembers_cons_self (hs : s.fields = [f]) :
    s.readMembers room seen r ((some f.name, o) :: ms) =
      if seen.contains f.name then .error (.duplicateField f.name)
      else f.decode room o >>= fun change =>
        s.readMembers room (f.name :: seen) (change r) ms := by
  have hfield : s.field? f.name = some f := by
    rw [field?, hs]
    simp
  rw [readMembers, hfield]

/-- After the member of the field there may be no other one. -/
lemma readMembers_of_seen (hs : s.fields = [f]) (hseen : seen.contains f.name = true) :
    (∃ seen', s.readMembers room seen r ms = .ok (seen', r')) ↔
      OthersPass f.name ms ∧ valuesNamed f.name ms = [] ∧ r' = r := by
  induction ms with
  | nil => simp [readMembers, othersPass_nil, valuesNamed_nil, eq_comm]
  | cons m ms ih =>
    obtain ⟨_ | k, o⟩ := m
    · simp [readMembers, not_othersPass_cons_none]
    · by_cases hk : k = f.name
      · subst hk
        rw [readMembers_cons_self hs, if_pos hseen, valuesNamed_cons_self]
        simp
      · rw [readMembers_cons_of_ne hs hk, othersPass_cons_of_ne hk, valuesNamed_cons_of_ne hk]
        cases o.wellFormed with
        | true => simpa using ih
        | false => simp

/-- **The members of a record with one field**: others are passed over, and its own one, of which
there may be none, makes its change.

**Proof sketch.** By induction on the members. Up to the field's own one nothing changes; from there
on a second one would be refused, so `readMembers_of_seen` says what the remaining members are. -/
lemma readMembers_of_not_seen (hs : s.fields = [f]) (hseen : seen.contains f.name = false) :
    (∃ seen', s.readMembers room seen r ms = .ok (seen', r')) ↔
      OthersPass f.name ms ∧
        (valuesNamed f.name ms = [] ∧ r' = r ∨
          ∃ o change, valuesNamed f.name ms = [o] ∧ f.decode room o = .ok change ∧
            r' = change r) := by
  induction ms with
  | nil => simp [readMembers, othersPass_nil, valuesNamed_nil, eq_comm]
  | cons m ms ih =>
    obtain ⟨_ | k, o⟩ := m
    · simp [readMembers, not_othersPass_cons_none]
    · by_cases hk : k = f.name
      · subst hk
        rw [readMembers_cons_self hs, othersPass_cons_self, valuesNamed_cons_self, hseen]
        cases hchange : f.decode room o with
        | error e => simp [hchange, bind, Except.bind]
        | ok change =>
          simp [bind, Except.bind, readMembers_of_seen hs, hchange]
      · rw [readMembers_cons_of_ne hs hk, othersPass_cons_of_ne hk, valuesNamed_cons_of_ne hk]
        cases o.wellFormed with
        | true => simpa using ih
        | false => simp

/-- **Members with another name do not count**: whatever they are and wherever they stand, the
members of the field alone give the same result. -/
lemma readMembers_of_othersPass (hs : s.fields = [f]) (h : OthersPass f.name ms) :
    s.readMembers room seen r ms =
      s.readMembers room seen r ((valuesNamed f.name ms).map fun o => (some f.name, o)) := by
  induction ms generalizing seen r with
  | nil => rfl
  | cons m ms ih =>
    obtain ⟨_ | k, o⟩ := m
    · exact absurd h not_othersPass_cons_none
    · by_cases hk : k = f.name
      · subst hk
        have hms := othersPass_cons_self.1 h
        simp only [valuesNamed_cons_self, List.map_cons, readMembers_cons_self hs, ih hms]
      · obtain ⟨hformed, hms⟩ := (othersPass_cons_of_ne hk).1 h
        rw [readMembers_cons_of_ne hs hk, valuesNamed_cons_of_ne hk, if_pos hformed, ih hms]

/-- A record with one field is read in the same way from objects with the same members for it. -/
lemma decode_eq_of_valuesNamed (hs : s.fields = [f]) {ms' : List (Option String × Outline)}
    (h : OthersPass f.name ms) (h' : OthersPass f.name ms')
    (heq : valuesNamed f.name ms' = valuesNamed f.name ms) (closed : Bool) :
    s.decode (room + 1) (.object ms' closed) = s.decode (room + 1) (.object ms closed) := by
  rw [decode, decode, readMembers_of_othersPass hs h', heq, ← readMembers_of_othersPass hs h]

/-- **A record with one field** that may be missing is read from an object that is complete and has
at most one member for it. -/
lemma decode_eq_ok_iff (hs : s.fields = [f]) (hrequired : f.required = false)
    (hpositional : s.positional = false) :
    s.decode (room + 1) o = .ok r ↔
      ∃ ms, o = .object ms true ∧ OthersPass f.name ms ∧
        (valuesNamed f.name ms = [] ∧ r = s.default ∨
          ∃ v change, valuesNamed f.name ms = [v] ∧ f.decode room v = .ok change ∧
            r = change s.default) := by
  have hmissing : ∀ seen, s.missing? seen = none := by
    intro seen
    rw [missing?, hs, List.find?_eq_none]
    simp [hrequired]
  constructor
  · intro h
    cases o with
    | object ms closed =>
      obtain ⟨⟨seen, a⟩, ha, h⟩ := exists_of_bind_eq_ok h
      dsimp only at h
      rw [hmissing] at h
      cases closed with
      | false => cases h
      | true =>
        obtain rfl : a = r := Except.ok.inj h
        exact ⟨ms, rfl, (readMembers_of_not_seen hs List.contains_nil).1 ⟨seen, ha⟩⟩
    | array os closed =>
      rw [decode, hpositional] at h
      cases h
    | _ => cases h
  · rintro ⟨ms, rfl, h⟩
    obtain ⟨seen, ha⟩ := (readMembers_of_not_seen hs List.contains_nil).2 h
    rw [decode, ha]
    simp only [bind, Except.bind, hmissing, Bool.not_true, Bool.false_eq_true, if_false]
    rfl

end Schema

end Json

open Json (Decoder Outline Reading OthersPass valuesNamed)

/-! ## Documents -/

namespace Document

/-- The text is an object, and the items of its list of stubs are spelled like this. There is at
most one list; if there is none, there are no items. Other members only have to be JSON. -/
structure Lists (body : Bytes) (os : List Outline) : Prop where
  complete : (Reading.ofBytes body).complete = true
  list : ∃ ms, (Reading.ofBytes body).outline = .object ms true ∧ OthersPass "mappings" ms ∧
    (valuesNamed "mappings" ms = [] ∧ os = [] ∨ valuesNamed "mappings" ms = [.array os true])

/-- A text has one list of stubs only. -/
lemma Lists.unique {body : Bytes} {os os' : List Outline} (h : Lists body os)
    (h' : Lists body os') : os = os' := by
  obtain ⟨ms, hms, -, hlist⟩ := h.list
  obtain ⟨ms', hms', -, hlist'⟩ := h'.list
  obtain ⟨rfl, -⟩ := Outline.object.inj (hms.symm.trans hms')
  rcases hlist with ⟨hnone, rfl⟩ | hsome <;> rcases hlist' with ⟨hnone', rfl⟩ | hsome'
  · rfl
  · simp [hnone] at hsome'
  · simp [hnone'] at hsome
  · simpa [hsome] using hsome'

/-- The outline of an item in a list of stubs is that of a stub. -/
def Spells (o : Outline) (s : Stub) : Prop :=
  Stub.schema.decode (Decoder.maxDepth - 2) o = .ok s

/-- **A document is read stub by stub**, from the items of its list.

**Proof sketch.** The schema of documents has one field, whose decoder reads a list, and a list is
read item by item. -/
lemma read_eq_ok_iff {body : Bytes} {d : Document} :
    Document.read body = .ok d ↔ ∃ os, Lists body os ∧ List.Forall₂ Spells os d.stubs := by
  rw [Document.read, Decoder.run, Decoder.read_eq_ok_iff, Decoder.maxDepth,
    Json.Schema.decode_eq_ok_iff (s := Document.schema) rfl rfl rfl]
  constructor
  · rintro ⟨⟨ms, hms, hothers, hstubs⟩, hcomplete⟩
    rcases hstubs with ⟨hnone, rfl⟩ | ⟨v, change, hv, hchange, rfl⟩
    · exact ⟨[], ⟨hcomplete, ms, hms, hothers, .inl ⟨hnone, rfl⟩⟩, .nil⟩
    · obtain ⟨stubs, hstubs, rfl⟩ := Json.exists_of_map_eq_ok hchange
      obtain ⟨os, rfl, hos⟩ := Decoder.list_eq_ok_iff.1 hstubs
      exact ⟨os, ⟨hcomplete, ms, hms, hothers, .inr hv⟩, hos⟩
  · rintro ⟨os, ⟨hcomplete, ms, hms, hothers, hlist⟩, hstubs⟩
    refine ⟨⟨ms, hms, hothers, ?_⟩, hcomplete⟩
    rcases hlist with ⟨hnone, rfl⟩ | hsome
    · exact .inl ⟨hnone, congrArg Document.mk (List.forall₂_nil_left_iff.1 hstubs)⟩
    · refine .inr ⟨.array os true, fun _ => d, hsome, ?_, rfl⟩
      have hread := Decoder.list_eq_ok_iff.2 ⟨os, rfl, hstubs⟩
      exact congrArg (Except.map fun stubs _ => Document.mk stubs) hread

end Document

end HttpStub
