import HttpStub.Proofs.Groups
import HttpStub.Proofs.Json.Schema
import HttpStub.Proofs.Json.Text
import HttpStub.Proofs.Text.Utf8

set_option autoImplicit false

/-!
# Reading written records back

A decoder that reads the outline of a written value as something restores this thing from the value.
The decoders of the basic types restore what was written, and pass it on to lists, dictionaries and
the fields of records. What is restored from the object of a record is what its fields, read one
after the other, make of the record of all defaults; a field that is left out keeps its default.

An optional value is the exception: `null` is written like any other value, and read as if the
member had been left out.

## Main definitions

* `HttpStub.Json.Value.Readable` — a value that can be written and read back where it stands.
* `HttpStub.Json.Value.unlessNull` — what becomes of an optional value that is read back.
* `HttpStub.Json.Decoder.Restores` — a decoder reads a written value as the given thing.
* `HttpStub.Json.Field.Restores` — what is written for a field changes one record into another.
* `HttpStub.Json.RestoresAll` — so do the fields of a list one after the other.

## Main results

* `HttpStub.Json.Schema.restores` — what is restored from the object of a record.
* `HttpStub.Json.Decoder.Restores.runString` — what is restored is read from its text.
-/

namespace HttpStub.Json

variable {α R : Type}

/-! ## Values -/

/-- The value can be written and read back with room for `room` open arrays and objects. -/
structure Value.Readable (room : Nat) (v : Value) : Prop where
  floatFree : v.floatFree = true
  fits : v.Fits room

/-- An optional value as it is read back: `null` leaves it out. -/
def Value.unlessNull : Value → Option Value
  | .null => none
  | v => some v

/-- All values but `null` come back. -/
lemma Value.unlessNull_eq {v : Value} (h : v ≠ .null) : v.unlessNull = some v := by
  cases v with
  | null => exact absurd rfl h
  | _ => rfl

/-- Only `null` is written as `null`. -/
lemma Value.outline_ne_null {v : Value} (h : v ≠ .null) : v.outline ≠ .null := by
  cases v with
  | null => exact absurd rfl h
  | number n => cases n <;> exact Outline.noConfusion
  | _ => exact Outline.noConfusion

/-- A text can be written and read back anywhere. -/
lemma Value.readable_string (room : Nat) (s : String) : (Value.string s).Readable room :=
  ⟨rfl, trivial, Nat.zero_le _⟩

/-- An array needs one level more than its items. -/
lemma Value.readable_array {items : List Value} {room : Nat} (h : ∀ v ∈ items, v.Readable room) :
    (Value.array items).Readable (room + 1) := by
  refine ⟨?_, Value.fits_array.2 fun v hv => (h v hv).fits⟩
  rw [floatFree, itemsFloatFree_iff]
  exact fun v hv => (h v hv).floatFree

/-- An object without repeated names needs one level more than its values. -/
lemma Value.readable_object {members : Members} {room : Nat} (hnd : (members.map Prod.fst).Nodup)
    (h : ∀ m ∈ members, m.2.Readable room) : (Value.object members).Readable (room + 1) := by
  refine ⟨?_, Value.fits_object.2 ⟨hnd, fun m hm => (h m hm).fits⟩⟩
  rw [floatFree, membersFloatFree_iff]
  exact fun m hm => (h m hm).floatFree

/-! ## Decoders -/

/-- With room for `room` open arrays and objects, the decoder reads the value `v` as `a`, and the
text of `v` has the outline that it reads. -/
structure Decoder.Restores (d : Decoder α) (room : Nat) (a : α) (v : Value) : Prop
    extends Value.Readable room v where
  decode : d room v.outline = .ok a

namespace Decoder

variable {d : Decoder α} {room : Nat}

/-- A text is restored. -/
lemma restores_string (room : Nat) (s : String) : Decoder.string.Restores room s (.string s) :=
  ⟨Value.readable_string room s, rfl⟩

/-- A truth value is restored. -/
lemma restores_bool (room : Nat) (b : Bool) : Decoder.bool.Restores room b (.bool b) :=
  ⟨⟨rfl, trivial, Nat.zero_le _⟩, rfl⟩

/-- A value of any kind is restored. -/
lemma restores_value {v : Value} (h : v.Readable room) : Decoder.value.Restores room v v := by
  refine ⟨h, ?_⟩
  rw [value, Value.value?_outline h.floatFree h.fits.distinctKeys h.fits.depth_le]

/-- What a function makes of a value is restored from it. -/
lemma restores_refine {f : Value → Except DecodeError α} {a : α} {v : Value} (h : v.Readable room)
    (hf : f v = .ok a) : (refine f).Restores room a v := by
  refine ⟨h, ?_⟩
  rw [refine, (restores_value h).decode]
  exact hf

/-- What is restored from a value other than `null` is restored as an optional one. -/
lemma Restores.optional {a : α} {v : Value} (h : d.Restores room a v) (hv : v ≠ .null) :
    d.optional.Restores room (some a) v := by
  refine ⟨h.toReadable, ?_⟩
  have hsome : d.optional room v.outline = (d room v.outline).map some := by
    unfold Decoder.optional
    split
    · next hnull => exact absurd hnull (Value.outline_ne_null hv)
    · rfl
  rw [hsome, h.decode]
  rfl

/-- **An optional value** is restored unless it is `null`, which is read as no value. -/
lemma restores_optional_value {v : Value} (h : v.Readable room) :
    Decoder.value.optional.Restores room v.unlessNull v := by
  by_cases hv : v = .null
  · subst hv
    exact ⟨h, rfl⟩
  · rw [Value.unlessNull_eq hv]
    exact (restores_value h).optional hv

/-- The items of a written list are read one after the other. -/
lemma items_restores {write : α → Value} {g : α → α} {as : List α}
    (h : ∀ a ∈ as, d.Restores room (g a) (write a)) :
    items d room ((as.map write).map Value.outline) = .ok (as.map g) := by
  induction as with
  | nil => rfl
  | cons a as ih =>
    obtain ⟨ha, has⟩ := List.forall_mem_cons.1 h
    simp only [List.map_cons, items, ha.decode, ih has]
    rfl

/-- **A list** is restored item by item. -/
lemma restores_list {write : α → Value} {g : α → α} {as : List α}
    (h : ∀ a ∈ as, d.Restores room (g a) (write a)) :
    d.list.Restores (room + 1) (as.map g) (.array (as.map write)) := by
  refine ⟨Value.readable_array (List.forall_mem_map.2 fun a ha => (h a ha).toReadable), ?_⟩
  simp only [Value.outline, itemOutlines_eq_map, list, items_restores h]
  rfl

/-- The members of a written dictionary are read one after the other, after those that have been
read before. -/
lemma entries_restores {write : α → Value} {es : List (String × α)}
    (h : ∀ e ∈ es, d.Restores room e.2 (write e.2)) (acc : Dict α) :
    entries d room acc (es.map fun e => (some e.1, (write e.2).outline)) =
      .ok (es.foldl (fun d e => d.insert e.1 e.2) acc) := by
  induction es generalizing acc with
  | nil => rfl
  | cons e es ih =>
    obtain ⟨he, hes⟩ := List.forall_mem_cons.1 h
    simp only [List.map_cons, entries, he.decode]
    exact ih hes _

/-- **A dictionary** is restored if its values are: its keys are different, and inserted one after
the other they give the same dictionary. -/
lemma restores_dict {write : α → Value} {es : Dict α}
    (h : ∀ e ∈ es.entries, d.Restores room e.2 (write e.2)) :
    d.dict.Restores (room + 1) es (.object (es.entries.map fun (k, a) => (k, write a))) := by
  refine ⟨Value.readable_object ?_ (List.forall_mem_map.2 fun e he => (h e he).toReadable), ?_⟩
  · simpa [Function.comp_def] using es.nodup_keys
  · have hentries := entries_restores h .empty
    rw [← Dict.ofList, Dict.ofList_entries] at hentries
    simp only [Value.outline, memberOutlines_eq_map, List.map_map, dict, Function.comp_def,
      hentries]
    rfl

/-- A text and its octets have the same outline. -/
lemma ofBytes_encode (s : String) : Reading.ofBytes (Utf8.encode s) = Reading.ofString s := by
  rw [Reading.ofBytes, Utf8.scan_encode]
  rfl

/-- A text and its octets are read alike. -/
lemma run_encode (d : Decoder α) (s : String) : d.run (Utf8.encode s) = d.runString s := by
  rw [run, ofBytes_encode]
  rfl

/-- A compact text is read by the outline of its value. -/
lemma runString_compact (d : Decoder α) {v : Value} (hf : v.floatFree = true) :
    d.runString v.compact = d maxDepth v.outline := by
  rw [runString, Reading.ofString_compact hf, read]
  cases d maxDepth v.outline <;> rfl

/-- **What is restored is read from its text.** -/
lemma Restores.runString {a : α} {v : Value} (h : d.Restores maxDepth a v) :
    d.runString v.compact = .ok a := by
  rw [runString_compact d h.floatFree, h.decode]

end Decoder

/-! ## Fields -/

/-- What is written for a field of the record `r` changes the record `a` into `b` when it is read. A
field that is left out may not be required, and changes nothing. -/
inductive Field.Restores (f : Field R) (room : Nat) (r a b : R) : Prop
  /-- The field is written, and the change that it makes is read. -/
  | written (v : Value) (change : R → R) (encode : f.encode r = some v)
      (decode : Decoder.Restores f.decode room change v) (changed : change a = b)
  /-- The field is left out. -/
  | omitted (encode : f.encode r = none) (optional : f.required = false) (same : a = b)

namespace Field

variable {name : String} {write : α → Value} {read : Decoder α} {room : Nat} {r a : R}

/-- A member that is read by one decoder and put into the record by one function. -/
lemma restores_of_some {β : Type} {d : Decoder β} {set : β → R → R} {f : Field R} {b : β}
    {v : Value} (hdecode : f.decode = fun room o => (d room o).map set)
    (hencode : f.encode r = some v) (h : d.Restores room b v) : f.Restores room r a (set b a) := by
  refine .written v (set b) hencode ⟨h.toReadable, ?_⟩ rfl
  simp only [hdecode, h.decode]
  rfl

/-- A member that is always written is restored with its value. -/
lemma restores_always {get : R → α} {set : α → R → R} {b : α}
    (h : read.Restores room b (write (get r))) :
    (always name get set write read).Restores room r a (set b a) :=
  restores_of_some rfl rfl h

/-- A member that a text must have is restored with its value. -/
lemma restores_mandatory {get : R → α} {set : α → R → R} {b : α}
    (h : read.Restores room b (write (get r))) :
    (mandatory name get set write read).Restores room r a (set b a) :=
  restores_of_some rfl rfl h

/-- A member that is left out when it is absent is restored, provided that no value is written as
`null` and that the default is absence. -/
lemma restores_optional {get : R → Option α} {set : Option α → R → R}
    (h : ∀ x ∈ get r, read.Restores room x (write x) ∧ write x ≠ .null)
    (hnone : get r = none → set none a = a) :
    (optional name get set write read).Restores room r a (set (get r) a) := by
  rcases hget : get r with _ | x
  · exact .omitted (congrArg (Option.map write) hget) rfl (hnone hget).symm
  · obtain ⟨hx, hnull⟩ := h x hget
    exact restores_of_some rfl (congrArg (Option.map write) hget) (hx.optional hnull)

/-- A value of any kind that is left out when it is absent: `null` does not come back. -/
lemma restores_optional_value {get : R → Option Value} {set : Option Value → R → R}
    (h : ∀ v ∈ get r, v.Readable room) (hnone : get r = none → set none a = a) :
    (optional name get set id Decoder.value).Restores room r a
      (set ((get r).bind Value.unlessNull) a) := by
  rcases hget : get r with _ | v
  · exact .omitted (congrArg (Option.map id) hget) rfl (hnone hget).symm
  · exact restores_of_some rfl (congrArg (Option.map id) hget)
      (Decoder.restores_optional_value (h v hget))

/-- A text that is left out when it is absent. -/
lemma restores_optional_string {get : R → Option String} {set : Option String → R → R}
    (hnone : get r = none → set none a = a) :
    (optional name get set .string .string).Restores room r a (set (get r) a) :=
  restores_optional (fun s _ => ⟨Decoder.restores_string room s, Value.noConfusion⟩) hnone

/-- A truth value that is left out when it is absent. -/
lemma restores_optional_bool {get : R → Option Bool} {set : Option Bool → R → R}
    (hnone : get r = none → set none a = a) :
    (optional name get set .bool .bool).Restores room r a (set (get r) a) :=
  restores_optional (fun b _ => ⟨Decoder.restores_bool room b, Value.noConfusion⟩) hnone

/-- A list that is left out when it is empty is restored, provided that the default is empty. -/
lemma restores_list {get : R → List α} {set : List α → R → R} {g : α → α}
    (h : ∀ x ∈ get r, read.Restores room (g x) (write x)) (hnil : get r = [] → set [] a = a) :
    (list name get set write read).Restores (room + 1) r a (set ((get r).map g) a) := by
  by_cases hget : get r = []
  · rw [hget, List.map_nil, hnil hget]
    exact .omitted (if_pos (List.isEmpty_iff.2 hget)) rfl rfl
  · exact restores_of_some rfl (if_neg (mt List.isEmpty_iff.1 hget)) (Decoder.restores_list h)

/-- A dictionary that is left out when it is empty is restored, provided that the default is empty.
-/
lemma restores_dict {get : R → Dict α} {set : Dict α → R → R}
    (h : ∀ e ∈ (get r).entries, read.Restores room e.2 (write e.2))
    (hempty : get r = .empty → set .empty a = a) :
    (dict name get set write read).Restores (room + 1) r a (set (get r) a) := by
  by_cases hget : (get r).entries = []
  · have hget' : get r = .empty := Dict.ext hget
    rw [hget', hempty hget']
    exact .omitted (if_pos (List.isEmpty_iff.2 hget)) rfl rfl
  · exact restores_of_some rfl (if_neg (mt List.isEmpty_iff.1 hget)) (Decoder.restores_dict h)

end Field

/-! ## Records -/

/-- What is written for the fields of the record `r` changes one record into another when it is read
field by field. -/
inductive RestoresAll (room : Nat) (r : R) : List (Field R) → R → R → Prop
  | nil (a : R) : RestoresAll room r [] a a
  | cons {f : Field R} {fs : List (Field R)} {a b c : R} (head : f.Restores room r a b)
      (tail : RestoresAll room r fs b c) : RestoresAll room r (f :: fs) a c

namespace Schema

variable {s : Schema R} {room : Nat} {r a b : R}

/-- Where names differ, each field is found under its own. -/
lemma field?_eq_some (hs : s.NamesApart) {f : Field R} (hf : f ∈ s.fields) :
    s.field? f.name = some f := by
  rcases h : s.field? f.name with _ | g
  · simpa using List.find?_eq_none.1 h f hf
  · have hname : g.name = f.name := by simpa using List.find?_some h
    rw [List.inj_on_of_nodup_map hs (List.mem_of_find?_eq_some h) hf hname]

/-- **The members are read field by field**, after the names that are given, and each required field
is among the names that have then occurred.

**Proof sketch.** By induction on the fields that are still to be read. A member is found among all
fields because their names differ, and for the same reason its name has not occurred before. -/
lemma readMembers_restoresAll (hs : s.NamesApart) {fs : List (Field R)}
    (h : RestoresAll room r fs a b) (hmem : ∀ f ∈ fs, f ∈ s.fields)
    (hnd : (fs.map Field.name).Nodup) {seen : List String} (hseen : ∀ f ∈ fs, f.name ∉ seen) :
    ∃ seen', s.readMembers room seen a ((fs.filterMap fun f =>
          (f.encode r).map fun v => (f.name, v)).map fun m => (some m.1, m.2.outline)) =
        .ok (seen', b) ∧
      (∀ k ∈ seen, k ∈ seen') ∧ ∀ f ∈ fs, f.required = true → f.name ∈ seen' := by
  induction h generalizing seen with
  | nil a => exact ⟨seen, rfl, fun _ hk => hk, by simp⟩
  | @cons f fs a b c head tail ih =>
    obtain ⟨hf, hfs⟩ := List.forall_mem_cons.1 hmem
    obtain ⟨hfseen, hfsseen⟩ := List.forall_mem_cons.1 hseen
    rw [List.map_cons, List.nodup_cons] at hnd
    cases head with
    | omitted encode optional same =>
      subst same
      obtain ⟨seen', hread, hsub, hreq⟩ := ih hfs hnd.2 hfsseen
      refine ⟨seen', ?_, hsub, List.forall_mem_cons.2 ⟨?_, hreq⟩⟩
      · rwa [List.filterMap_cons_none (by rw [encode]; rfl)]
      · simp [optional]
    | written v change encode decode changed =>
      subst changed
      have hfsseen' : ∀ g ∈ fs, g.name ∉ f.name :: seen := by
        intro g hg
        rw [List.mem_cons, not_or]
        exact ⟨fun hname => hnd.1 (hname ▸ List.mem_map_of_mem hg), hfsseen g hg⟩
      obtain ⟨seen', hread, hsub, hreq⟩ := ih hfs hnd.2 hfsseen'
      obtain ⟨hfseen', hsub'⟩ := List.forall_mem_cons.1 hsub
      refine ⟨seen', ?_, hsub', List.forall_mem_cons.2 ⟨fun _ => hfseen', hreq⟩⟩
      rw [List.filterMap_cons_some (b := (f.name, v)) (by rw [encode]; rfl), List.map_cons,
        readMembers, field?_eq_some hs hf]
      have hcontains : seen.contains f.name = false := by simpa using hfseen
      simp only [hcontains, Bool.false_eq_true, if_false, decode.decode]
      exact hread

/-- What is written for fields that are restored can be read back. -/
lemma readable_of_mem_members (h : RestoresAll room r s.fields a b) {m : String × Value}
    (hm : m ∈ s.members r) : m.2.Readable room := by
  obtain ⟨f, hf, -, hv⟩ := exists_of_mem_members hm
  generalize s.fields = fs at h hf
  induction h with
  | nil a => exact absurd hf List.not_mem_nil
  | cons head tail ih =>
    rcases List.mem_cons.1 hf with rfl | hf
    · cases head with
      | omitted encode optional same => simp [encode] at hv
      | written v change encode decode changed =>
        obtain rfl : v = m.2 := Option.some.inj (encode.symm.trans hv)
        exact decode.toReadable
    · exact ih hf

/-- **What is restored from the object of a record** is what its fields, read one after the other,
make of the record of all defaults. -/
theorem restores (hs : s.NamesApart) (h : RestoresAll room r s.fields s.default b) :
    Decoder.Restores s.decode (room + 1) b (s.encode r) := by
  refine ⟨?_, ?_⟩
  · rw [encode_eq]
    exact Value.readable_object (keys_members_sublist.nodup hs) fun m hm =>
      readable_of_mem_members h hm
  · have hnone : ∀ f ∈ s.fields, f.name ∉ ([] : List String) := by simp
    obtain ⟨seen, hread, -, hreq⟩ := readMembers_restoresAll hs h (fun _ hf => hf) hs hnone
    have hmissing : s.missing? seen = none := by
      simpa [missing?] using hreq
    rw [encode_eq, Value.outline, memberOutlines_eq_map]
    simp only [decode, members, hread]
    simp [hmissing, bind, Except.bind, pure, Except.pure]

end Schema

end HttpStub.Json
