import HttpStub.Proofs.Json.Decoded
import HttpStub.Proofs.Json.Restore

set_option autoImplicit false

/-!
# More room

The room that a decoder is given for open arrays and objects only decides whether it gets to the
end: what is read with little room is read in the same way with more. So a text that nests too
deeply for the reader is refused for this reason alone, and a text that spells a value is read as if
there were no limit.

## Main definitions

* `HttpStub.Json.SameUnless` — two results are the same, or the first one is that of a text that
  breaks off.
* `HttpStub.Json.Decoder.Steady` — with less room the decoder reads the same, unless the text spells
  no value with it.

## Main results

* `HttpStub.Json.Outline.value?_of_le` — what an outline spells, it spells with more room as well.
* `HttpStub.Json.Decoder.Steady.mono`, `HttpStub.Json.Decoder.Steady.eq_of_value?` — what a steady
  decoder reads with more room.
* `HttpStub.Json.Decoder.steady_list`, `HttpStub.Json.Decoder.steady_dict` and others — the decoders
  of the basic types are steady.
* `HttpStub.Json.Schema.steady_decode` — so is the decoder of a record if those of its fields are.
-/

namespace HttpStub.Json

variable {α β R : Type} {room room' : Nat}

/-! ## Enough room -/

/-- There is room for all members of a list if there is room for each. -/
lemma exists_room_of_forall {p : Nat → α → Prop} (hmono : ∀ m n, m ≤ n → ∀ a, p m a → p n a)
    {as : List α} (h : ∀ a ∈ as, ∃ n, p n a) : ∃ n, ∀ a ∈ as, p n a := by
  induction as with
  | nil => exact ⟨0, by simp⟩
  | cons a as ih =>
    obtain ⟨⟨m, hm⟩, has⟩ := List.forall_mem_cons.1 h
    obtain ⟨n, hn⟩ := ih has
    exact ⟨max m n, List.forall_mem_cons.2 ⟨hmono _ _ (le_max_left m n) a hm,
      fun b hb => hmono _ _ (le_max_right m n) b (hn b hb)⟩⟩

/-- A value that fits has enough room with more. -/
lemma Value.Fits.mono {v : Value} (hle : room ≤ room') (h : v.Fits room) : v.Fits room' :=
  ⟨h.distinctKeys, h.depth_le.trans hle⟩

/-- A value that can be read back can be with more room. -/
lemma Value.Readable.mono {v : Value} (hle : room ≤ room') (h : v.Readable room) :
    v.Readable room' :=
  ⟨h.floatFree, h.fits.mono hle⟩

/-- A value that can have been read can have been with more room. -/
lemma Value.Given.mono {v : Value} (hle : room ≤ room') (h : v.Given room) : v.Given room' :=
  ⟨h.ne_null, h.fits.mono hle⟩

/-- There is room for an optional value that can be read back at all. -/
lemma exists_readable_of_legible {x : Option Value} (h : ∀ v ∈ x, v.Legible) :
    ∃ n, ∀ v ∈ x, v.Readable n := by
  rcases x with _ | v
  · exact ⟨0, by simp⟩
  · refine ⟨v.depth, fun w hw => ?_⟩
    obtain rfl : v = w := Option.some.inj hw
    exact ⟨(h v rfl).floatFree, (h v rfl).distinctKeys.fits⟩

/-! ## Values -/

/-- The items of an array spell with more room what they spell with less, if each of them does. -/
lemma itemValues?_of_le {os : List Outline} {vs : List Value}
    (h : ∀ o ∈ os, ∀ v, o.value? room = some v → o.value? room' = some v)
    (hvs : itemValues? room os = some vs) : itemValues? room' os = some vs := by
  induction os generalizing vs with
  | nil => exact hvs
  | cons o os ih =>
    obtain ⟨ho, hos⟩ := List.forall_mem_cons.1 h
    simp only [itemValues?, Option.bind_eq_bind, Option.bind_eq_some_iff] at hvs ⊢
    obtain ⟨v, hv, ws, hws, heq⟩ := hvs
    exact ⟨v, ho v hv, ws, ih hos hws, heq⟩

/-- The members of an object spell with more room what they spell with less, if each of them does.
-/
lemma memberValues?_of_le {ms : List (Option String × Outline)} {acc r : Members}
    (h : ∀ m ∈ ms, ∀ v, m.2.value? room = some v → m.2.value? room' = some v)
    (hr : memberValues? room acc ms = some r) : memberValues? room' acc ms = some r := by
  induction ms generalizing acc with
  | nil => exact hr
  | cons m ms ih =>
    obtain ⟨hm, hms⟩ := List.forall_mem_cons.1 h
    obtain ⟨key, o⟩ := m
    simp only [memberValues?, Option.bind_eq_bind, Option.bind_eq_some_iff] at hr ⊢
    obtain ⟨k, hk, v, hv, hr⟩ := hr
    exact ⟨k, hk, v, hm v hv, ih hms hr⟩

/-- **What an outline spells**, it spells with more room as well. -/
lemma Outline.value?_of_le {o : Outline} {v : Value} (hle : room ≤ room')
    (h : o.value? room = some v) : o.value? room' = some v := by
  induction o generalizing room room' v with
  | array items closed ih =>
    cases room with
    | zero => simp [value?] at h
    | succ room =>
      obtain ⟨room', rfl⟩ := Nat.exists_eq_add_of_lt hle
      simp only [value?, Option.ite_none_right_eq_some, Option.map_eq_some_iff] at h ⊢
      obtain ⟨hclosed, vs, hvs, rfl⟩ := h
      exact ⟨hclosed, vs, itemValues?_of_le (fun o ho v => ih o ho (by omega)) hvs, rfl⟩
  | object members closed ih =>
    cases room with
    | zero => simp [value?] at h
    | succ room =>
      obtain ⟨room', rfl⟩ := Nat.exists_eq_add_of_lt hle
      simp only [value?, Option.ite_none_right_eq_some, Option.map_eq_some_iff] at h ⊢
      obtain ⟨hclosed, ms, hms, rfl⟩ := h
      exact ⟨hclosed, ms, memberValues?_of_le (fun m hm v => ih m hm (by omega)) hms, rfl⟩
  | broken => simp [value?] at h
  | _ => simpa only [value?] using h

/-! ## Decoders -/

/-- The first of two results is the second one, unless `short` holds: then it may be an error
instead, as of a text that breaks off. -/
def SameUnless (short : Prop) (x y : Except DecodeError α) : Prop :=
  x = y ∨ x = .error .malformed ∧ short

namespace SameUnless

variable {p q : Prop} {x y : Except DecodeError α}

/-- A result is the same as itself, whatever breaks off. -/
lemma refl (p : Prop) (x : Except DecodeError α) : SameUnless p x x :=
  .inl rfl

/-- Results that are the same unless `p` holds are the same unless something weaker holds. -/
lemma imp (h : SameUnless p x y) (hpq : p → q) : SameUnless q x y :=
  Or.imp_right (And.imp_right hpq) h

/-- Steps that go on in the same way keep results the same. -/
lemma bind {f g : α → Except DecodeError β} (h : SameUnless p x y)
    (hfg : ∀ a, SameUnless p (f a) (g a)) : SameUnless p (x >>= f) (y >>= g) := by
  rcases h with rfl | ⟨rfl, hp⟩
  · cases x with
    | error e => exact .refl p _
    | ok a => exact hfg a
  · exact .inr ⟨rfl, hp⟩

/-- A function of two results keeps them the same. -/
lemma map (h : SameUnless p x y) (f : α → β) : SameUnless p (x.map f) (y.map f) := by
  rcases h with rfl | ⟨rfl, hp⟩
  · exact .refl p _
  · exact .inr ⟨rfl, hp⟩

end SameUnless

/-- An array with an item that spells no value spells none. -/
lemma Outline.value?_array_eq_none {os : List Outline} (closed : Bool)
    (h : ∃ o ∈ os, o.value? room = none) : (Outline.array os closed).value? (room + 1) = none := by
  obtain ⟨o, ho, hnone⟩ := h
  refine Option.eq_none_iff_forall_ne_some.2 fun v hv => ?_
  obtain ⟨w, hw⟩ := (exists_of_value?_array hv).2 o ho
  cases hnone.symm.trans hw

/-- An object with a member that spells no value spells none. -/
lemma Outline.value?_object_eq_none {ms : List (Option String × Outline)} (closed : Bool)
    (h : ∃ m ∈ ms, m.2.value? room = none) :
    (Outline.object ms closed).value? (room + 1) = none := by
  obtain ⟨m, hm, hnone⟩ := h
  refine Option.eq_none_iff_forall_ne_some.2 fun v hv => ?_
  obtain ⟨-, w, -, hw⟩ := (exists_of_value?_object hv).2 m hm
  cases hnone.symm.trans hw

namespace Decoder

/-- With less room the decoder reads the same, unless the text spells no value with it. -/
def Steady (d : Decoder α) : Prop :=
  ∀ ⦃room room' : Nat⦄, room ≤ room' → ∀ o : Outline,
    SameUnless (o.value? room = none) (d room o) (d room' o)

variable {d : Decoder α}

/-- **What a steady decoder reads**, it reads with more room as well. -/
lemma Steady.mono (hd : d.Steady) (hle : room ≤ room') {o : Outline} {a : α}
    (h : d room o = .ok a) : d room' o = .ok a := by
  rcases hd hle o with heq | ⟨hshort, -⟩
  · exact heq.symm.trans h
  · cases hshort.symm.trans h

/-- **From a text that spells a value** a steady decoder reads the same with more room. -/
lemma Steady.eq_of_value? (hd : d.Steady) (hle : room ≤ room') {o : Outline} {v : Value}
    (h : o.value? room = some v) : d room o = d room' o := by
  rcases hd hle o with heq | ⟨-, hnone⟩
  · exact heq
  · cases hnone.symm.trans h

/-- Texts are read alike with any room. -/
lemma steady_string : Steady string :=
  fun _ _ _ _ => .inl rfl

/-- Truth values are read alike with any room. -/
lemma steady_bool : Steady bool :=
  fun _ _ _ _ => .inl rfl

/-- **A value of any kind** is read alike with more room, once there is enough for its depth. -/
lemma steady_value : Steady value := by
  intro room room' hle o
  rcases h : o.value? room with _ | v
  · exact .inr ⟨by rw [value, h], rfl⟩
  · exact .inl (by rw [value, value, h, Outline.value?_of_le hle h])

/-- What a function makes of a value is read as steadily as the value. -/
lemma steady_refine (f : Value → Except DecodeError α) : Steady (refine f) :=
  fun _ _ hle o => (steady_value hle o).bind fun _ => .refl _ _

/-- A function of what is read. -/
lemma Steady.map (hd : d.Steady) (f : α → β) : Steady fun room o => (d room o).map f :=
  fun _ _ hle o => (hd hle o).map f

/-- The decoder of an optional value is steady if that of the value is. -/
lemma Steady.optional (hd : d.Steady) : Steady d.optional := by
  intro room room' hle o
  cases o with
  | null => exact .inl rfl
  | _ => exact hd.map some hle _

/-- Items are read in the same way with more room, unless one of them spells nothing. -/
lemma steady_items (hd : d.Steady) (hle : room ≤ room') (os : List Outline) :
    SameUnless (∃ o ∈ os, o.value? room = none) (items d room os) (items d room' os) := by
  induction os with
  | nil => exact .inl rfl
  | cons o os ih =>
    refine ((hd hle o).imp fun hnone => ⟨o, List.mem_cons_self, hnone⟩).bind fun _ => ?_
    exact (ih.imp List.exists_mem_cons_of_exists).bind fun _ => .refl _ _

/-- The decoder of a list is steady if that of its items is. -/
lemma steady_list (hd : d.Steady) : Steady d.list := by
  intro room room' hle o
  cases o with
  | array os closed =>
    cases room with
    | zero => exact .inr ⟨rfl, rfl⟩
    | succ room =>
      obtain ⟨room', rfl⟩ := Nat.exists_eq_add_of_lt hle
      have hos := (steady_items hd (Nat.le_add_right room room') os).imp
        (Outline.value?_array_eq_none closed)
      exact hos.bind fun _ => .refl _ _
  | _ => exact .inl (by simp [list])

/-- Entries are read in the same way with more room, unless one of them spells nothing. -/
lemma steady_entries (hd : d.Steady) (hle : room ≤ room') (acc : Dict α)
    (ms : List (Option String × Outline)) :
    SameUnless (∃ m ∈ ms, m.2.value? room = none) (entries d room acc ms)
      (entries d room' acc ms) := by
  induction ms generalizing acc with
  | nil => exact .inl rfl
  | cons m ms ih =>
    obtain ⟨_ | k, o⟩ := m
    · exact .inl rfl
    refine ((hd hle o).imp fun hnone => ⟨_, List.mem_cons_self, hnone⟩).bind fun _ => ?_
    exact (ih _).imp List.exists_mem_cons_of_exists

/-- The decoder of a dictionary is steady if that of its entries is. -/
lemma steady_dict (hd : d.Steady) : Steady d.dict := by
  intro room room' hle o
  cases o with
  | object ms closed =>
    cases room with
    | zero => exact .inr ⟨rfl, rfl⟩
    | succ room =>
      obtain ⟨room', rfl⟩ := Nat.exists_eq_add_of_lt hle
      have hms := (steady_entries hd (Nat.le_add_right room room') .empty ms).imp
        (Outline.value?_object_eq_none closed)
      exact hms.bind fun _ => .refl _ _
  | _ => exact .inl (by simp [dict])

end Decoder

/-! ## Records -/

namespace Schema

variable {s : Schema R}

/-- Members are read in the same way with more room, unless one of them spells nothing. -/
lemma steady_readMembers (hs : ∀ f ∈ s.fields, f.decode.Steady) (hle : room ≤ room')
    (seen : List String) (r : R) (ms : List (Option String × Outline)) :
    SameUnless (∃ m ∈ ms, m.2.value? room = none) (s.readMembers room seen r ms)
      (s.readMembers room' seen r ms) := by
  induction ms generalizing seen r with
  | nil => exact .inl rfl
  | cons m ms ih =>
    obtain ⟨_ | k, o⟩ := m
    · exact .inl rfl
    rw [readMembers, readMembers]
    split
    · split
      · exact (ih seen r).imp List.exists_mem_cons_of_exists
      · exact .inl rfl
    · next f hf =>
      split
      · exact .inl rfl
      · have ho := hs f (List.mem_of_find?_eq_some hf) hle o
        refine (ho.imp fun hnone => ⟨_, List.mem_cons_self, hnone⟩).bind fun _ => ?_
        exact (ih _ _).imp List.exists_mem_cons_of_exists

/-- Items are read into the fields in the same way with more room, unless one of them spells
nothing. -/
lemma steady_readItems {fs : List (Field R)} (hs : ∀ f ∈ fs, f.decode.Steady)
    (hle : room ≤ room') (closed : Bool) (n : Nat) (r : R) (os : List Outline) :
    SameUnless (∃ o ∈ os, o.value? room = none) (s.readItems room closed n r fs os)
      (s.readItems room' closed n r fs os) := by
  induction fs generalizing n r os with
  | nil => cases os <;> exact .inl rfl
  | cons f fs ih =>
    obtain ⟨hf, hfs⟩ := List.forall_mem_cons.1 hs
    cases os with
    | nil =>
      rw [readItems, readItems]
      split
      · exact .inl rfl
      · split
        · exact .inl rfl
        · exact ih hfs _ _ _
    | cons o os =>
      refine ((hf hle o).imp fun hnone => ⟨o, List.mem_cons_self, hnone⟩).bind fun _ => ?_
      exact (ih hfs _ _ _).imp List.exists_mem_cons_of_exists

/-- **The decoder of a record** is steady if those of its fields are. -/
lemma steady_decode (hs : ∀ f ∈ s.fields, f.decode.Steady) : s.decode.Steady := by
  intro room room' hle o
  cases o with
  | object ms closed =>
    cases room with
    | zero => exact .inr ⟨rfl, rfl⟩
    | succ room =>
      obtain ⟨room', rfl⟩ := Nat.exists_eq_add_of_lt hle
      have hms := (steady_readMembers hs (Nat.le_add_right room room') [] s.default ms).imp
        (Outline.value?_object_eq_none closed)
      exact hms.bind fun _ => .refl _ _
  | array os closed =>
    cases hpositional : s.positional with
    | false => exact .inl (by simp [decode, hpositional])
    | true =>
      cases room with
      | zero => exact .inr ⟨by simp [decode, hpositional], rfl⟩
      | succ room =>
        obtain ⟨room', rfl⟩ := Nat.exists_eq_add_of_lt hle
        have hos := steady_readItems (s := s) hs (Nat.le_add_right room room') closed 0 s.default os
        simpa [decode, hpositional] using hos.imp (Outline.value?_array_eq_none closed)
  | _ => exact .inl (by simp [decode])

end Schema

namespace Field

variable {name : String} {write : α → Value} {read : Decoder α}

/-- A member that is left out when it is absent is read steadily. -/
lemma steady_optional (hread : read.Steady) (get : R → Option α) (set : Option α → R → R) :
    (optional name get set write read).decode.Steady :=
  hread.optional.map set

/-- A member that is always written is read steadily. -/
lemma steady_always (hread : read.Steady) (get : R → α) (set : α → R → R) :
    (always name get set write read).decode.Steady :=
  hread.map set

/-- A member that a text must have is read steadily. -/
lemma steady_mandatory (hread : read.Steady) (get : R → α) (set : α → R → R) :
    (mandatory name get set write read).decode.Steady :=
  hread.map set

/-- A list that is left out when it is empty is read steadily. -/
lemma steady_list (hread : read.Steady) (get : R → List α) (set : List α → R → R) :
    (list name get set write read).decode.Steady :=
  (Decoder.steady_list hread).map set

/-- A dictionary that is left out when it is empty is read steadily. -/
lemma steady_dict (hread : read.Steady) (get : R → Dict α) (set : Dict α → R → R) :
    (dict name get set write read).decode.Steady :=
  (Decoder.steady_dict hread).map set

end Field

end HttpStub.Json
