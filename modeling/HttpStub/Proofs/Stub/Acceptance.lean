import HttpStub.Proofs.Stub.Listing
import HttpStub.Proofs.Stub.Nesting

set_option autoImplicit false

/-!
# Which texts are documents

A JSON text is a document if it is an object with at most one list of stubs, in which each item is a
stub when it stands alone. All other members are passed over: what they are, how often they come and
where they stand makes no difference.

Inside a document a stub has less room for open arrays and objects than alone. As long as the lists
of stubs are within the limits of the reader, this does not count either.

## Main definitions

* `HttpStub.Document.WithinLimits` — a JSON text within the limits of the reader of documents.
* `HttpStub.Document.SpellsAlone` — the outline is that of a stub, as a text of its own.

## Main results

* `HttpStub.Document.withinLimits_of_parse?` — each text that is parsed is within the limits.
* `HttpStub.Document.read_eq_ok_iff_spellsAlone` — which texts are stubs of their own.
* `HttpStub.Document.spells_iff` — an item is a stub inside a document where it is one alone.
* `HttpStub.Document.accepts_iff` — which texts are documents, and what they list.
-/

namespace HttpStub

open Json (Decoder Outline OthersPass Reading Value toOption_eq_some_iff valuesNamed)

namespace Document

variable {body body' : Bytes} {o : Outline} {os : List Outline} {s : Stub}
  {ms ms' : List (Option String × Outline)}

/-! ## Limits -/

/-- The text is JSON within the limits of the reader of documents. If it is an object, the names of
its members can be read, and each list of stubs is a value that nests no deeper than the reader
allows. The other members have no limits. -/
structure WithinLimits (body : Bytes) : Prop where
  complete : (Reading.ofBytes body).complete = true
  wellFormed : (Reading.ofBytes body).outline.wellFormed = true
  members : ∀ ms closed, (Reading.ofBytes body).outline = .object ms closed →
    ∀ m ∈ ms, ∃ k, m.1 = some k ∧
      (k = "mappings" → ∃ v, m.2.value? (Decoder.maxDepth - 1) = some v)

/-- A text whose outline has a value is within the limits. -/
lemma withinLimits_of_isSome (hcomplete : (Reading.ofBytes body).complete = true)
    (hsome : ((Reading.ofBytes body).outline.value? Decoder.maxDepth).isSome = true) :
    WithinLimits body := by
  obtain ⟨v, hvalue⟩ := Option.isSome_iff_exists.1 hsome
  refine ⟨hcomplete, Outline.wellFormed_of_value? hvalue, fun ms closed hms m hm => ?_⟩
  rw [hms] at hvalue
  obtain ⟨k, w, hk, hw⟩ := (Outline.exists_of_value?_object hvalue).2 m hm
  exact ⟨k, hk, fun _ => ⟨w, hw⟩⟩

/-- **Each text that is parsed** is within the limits. -/
lemma withinLimits_of_parse? {v : Value} (h : Json.parse? body = some v) : WithinLimits body := by
  have hread : Decoder.value.run body = .ok v := toOption_eq_some_iff.1 h
  obtain ⟨hvalue, hcomplete⟩ := Decoder.read_eq_ok_iff.1 hread
  exact withinLimits_of_isSome hcomplete
    (Option.isSome_of_eq_some (Decoder.value?_of_value hvalue))

namespace WithinLimits

/-- The members that are no lists of stubs are passed over. -/
lemma othersPass (h : WithinLimits body)
    (hms : (Reading.ofBytes body).outline = .object ms true) : OthersPass "mappings" ms := by
  have hformed := h.wellFormed
  rw [hms, Outline.wellFormed, Bool.true_and, Outline.membersWellFormed_iff] at hformed
  intro m hm
  obtain ⟨k, hk, -⟩ := h.members ms true hms m hm
  exact ⟨k, hk, fun _ => hformed m hm⟩

/-- Each item of a list of stubs is a value, with the room that it has there. -/
lemma exists_value (h : WithinLimits body)
    (hms : (Reading.ofBytes body).outline = .object ms true)
    (hos : .array os true ∈ valuesNamed "mappings" ms) :
    ∀ o ∈ os, ∃ v, o.value? (Decoder.maxDepth - 2) = some v := by
  obtain ⟨⟨key, w⟩, hm, hw⟩ := List.mem_map.1 hos
  obtain rfl : w = .array os true := hw
  obtain ⟨hmem, hname⟩ := List.mem_filter.1 hm
  obtain ⟨k, hk, hvalue⟩ := h.members ms true hms _ hmem
  obtain rfl : k = "mappings" := Option.some.inj (hk.symm.trans (of_decide_eq_true hname))
  obtain ⟨v, hv⟩ := hvalue rfl
  exact (Outline.exists_of_value?_array hv).2

end WithinLimits

/-! ## Stubs alone and in documents -/

/-- The outline is that of a stub, as a text of its own. -/
def SpellsAlone (o : Outline) (s : Stub) : Prop :=
  Stub.schema.decode Decoder.maxDepth o = .ok s

/-- **An item is a stub inside a document** where it is one alone, if it is a value there. -/
lemma spells_iff {v : Value} (hv : o.value? (Decoder.maxDepth - 2) = some v) :
    Spells o s ↔ SpellsAlone o s := by
  have heq := Stub.steady_decode.eq_of_value? (Nat.sub_le Decoder.maxDepth 2) hv
  rw [Spells, SpellsAlone, heq]

/-- A text of its own is read as a stub where its outline is that of one. -/
lemma read_eq_ok_iff_spellsAlone :
    Stub.read body = .ok s ↔
      (Reading.ofBytes body).complete = true ∧ SpellsAlone (Reading.ofBytes body).outline s :=
  Decoder.read_eq_ok_iff.trans and_comm

/-- If each item is a stub alone, there is a list of these stubs. -/
lemma exists_forall₂_spellsAlone (h : ∀ o ∈ os, ∃ s, SpellsAlone o s) :
    ∃ stubs, List.Forall₂ SpellsAlone os stubs := by
  induction os with
  | nil => exact ⟨[], .nil⟩
  | cons o os ih =>
    obtain ⟨s, hs⟩ := h o List.mem_cons_self
    obtain ⟨stubs, hstubs⟩ := ih fun o ho => h o (List.mem_cons_of_mem _ ho)
    exact ⟨s :: stubs, .cons hs hstubs⟩

/-! ## Documents -/

/-- The items of a list of stubs within the limits are stubs inside the document where they are
stubs alone. -/
lemma WithinLimits.forall₂_spells_iff (h : WithinLimits body) {stubs : List Stub}
    (hms : (Reading.ofBytes body).outline = .object ms true)
    (hos : .array os true ∈ valuesNamed "mappings" ms) :
    List.Forall₂ Spells os stubs ↔ List.Forall₂ SpellsAlone os stubs := by
  have hvalues := h.exists_value hms hos
  constructor <;> intro hstubs <;>
    refine ((List.forall₂_and_left os stubs).2 ⟨hvalues, hstubs⟩).imp ?_
  · exact fun o s ⟨⟨v, hv⟩, hs⟩ => (spells_iff hv).1 hs
  · exact fun o s ⟨⟨v, hv⟩, hs⟩ => (spells_iff hv).2 hs

/-- **A document within the limits** lists what the items of its list of stubs are alone. -/
lemma read_eq_ok_iff_of_withinLimits (h : WithinLimits body) {d : Document} :
    Document.read body = .ok d ↔ ∃ ms, (Reading.ofBytes body).outline = .object ms true ∧
      (valuesNamed "mappings" ms = [] ∧ d.stubs = [] ∨
        ∃ os, valuesNamed "mappings" ms = [.array os true] ∧
          List.Forall₂ SpellsAlone os d.stubs) := by
  rw [read_eq_ok_iff]
  constructor
  · rintro ⟨os, ⟨-, ms, hms, -, hlist⟩, hstubs⟩
    refine ⟨ms, hms, ?_⟩
    rcases hlist with ⟨hnone, rfl⟩ | hsome
    · exact .inl ⟨hnone, List.forall₂_nil_left_iff.1 hstubs⟩
    · have hos : .array os true ∈ valuesNamed "mappings" ms := by simp [hsome]
      exact .inr ⟨os, hsome, (h.forall₂_spells_iff hms hos).1 hstubs⟩
  · rintro ⟨ms, hms, ⟨hnone, hstubs⟩ | ⟨os, hsome, hstubs⟩⟩
    · refine ⟨[], ⟨h.complete, ms, hms, h.othersPass hms, .inl ⟨hnone, rfl⟩⟩, ?_⟩
      exact List.forall₂_nil_left_iff.2 hstubs
    · have hos : .array os true ∈ valuesNamed "mappings" ms := by simp [hsome]
      exact ⟨os, ⟨h.complete, ms, hms, h.othersPass hms, .inr hsome⟩,
        (h.forall₂_spells_iff hms hos).2 hstubs⟩

/-- **Only the lists of stubs count**: two texts within the limits with the same lists, in the same
order, are the same document or are refused for the same reason. -/
lemma read_eq_of_valuesNamed (h : WithinLimits body) (h' : WithinLimits body')
    (hms : (Reading.ofBytes body).outline = .object ms true)
    (hms' : (Reading.ofBytes body').outline = .object ms' true)
    (heq : valuesNamed "mappings" ms' = valuesNamed "mappings" ms) :
    Document.read body' = Document.read body := by
  have hdecode : Document.schema.decode Decoder.maxDepth (.object ms' true) =
      Document.schema.decode Decoder.maxDepth (.object ms true) :=
    Json.Schema.decode_eq_of_valuesNamed (s := Document.schema) rfl
      (h.othersPass hms) (h'.othersPass hms') heq true
  simp only [Document.read, Decoder.run, Decoder.read, hms, hms', h.complete, h'.complete, hdecode]

/-- **Which texts are documents.** A JSON text within the limits is a document if, and only if, it
is an object in which at most one member has the name `mappings`, and the value of this member, if
there is one, is an array in which each item is a stub alone. The document then lists these stubs in
this order, and none if there is no such member. A text with the same members of this name, and any
others anywhere between them, has the same outcome, also if it is refused.

**Proof sketch.** A document is read from its only list of stubs, item by item. The items of this
list are values, so that a stub has room enough inside the document if it has room alone. -/
theorem accepts_iff (h : WithinLimits body) :
    ((∃ d, Document.read body = .ok d) ↔
      ∃ ms, (Reading.ofBytes body).outline = .object ms true ∧
        (valuesNamed "mappings" ms).length ≤ 1 ∧
        ∀ v ∈ valuesNamed "mappings" ms, ∃ os, v = .array os true ∧
          ∀ o ∈ os, ∃ s, SpellsAlone o s) ∧
    (∀ d, Document.read body = .ok d →
      ∃ ms, (Reading.ofBytes body).outline = .object ms true ∧
        (valuesNamed "mappings" ms = [] ∧ d.stubs = [] ∨
          ∃ os, valuesNamed "mappings" ms = [.array os true] ∧
            List.Forall₂ SpellsAlone os d.stubs)) ∧
    ∀ body' ms ms', WithinLimits body' →
      (Reading.ofBytes body).outline = .object ms true →
      (Reading.ofBytes body').outline = .object ms' true →
      valuesNamed "mappings" ms' = valuesNamed "mappings" ms →
        Document.read body' = Document.read body := by
  refine ⟨⟨?accepted, ?accepts⟩, fun d => (read_eq_ok_iff_of_withinLimits h).1,
    fun body' ms ms' h' => read_eq_of_valuesNamed h h'⟩
  case accepted =>
    rintro ⟨d, hd⟩
    obtain ⟨ms, hms, ⟨hnone, -⟩ | ⟨os, hsome, hstubs⟩⟩ := (read_eq_ok_iff_of_withinLimits h).1 hd
    · exact ⟨ms, hms, by simp [hnone], by simp [hnone]⟩
    · refine ⟨ms, hms, by simp [hsome], ?_⟩
      simp only [hsome, List.forall_mem_singleton]
      refine ⟨os, rfl, fun o ho => ?_⟩
      obtain ⟨i, hi, rfl⟩ := List.getElem_of_mem ho
      exact ⟨_, hstubs.get hi (hstubs.length_eq ▸ hi)⟩
  case accepts =>
    rintro ⟨ms, hms, hlength, hlists⟩
    match hvalues : valuesNamed "mappings" ms with
    | [] =>
      exact ⟨⟨[]⟩, (read_eq_ok_iff_of_withinLimits h).2 ⟨ms, hms, .inl ⟨hvalues, rfl⟩⟩⟩
    | [v] =>
      obtain ⟨os, rfl, hstubs⟩ := hlists v (by simp [hvalues])
      obtain ⟨stubs, hstubs⟩ := exists_forall₂_spellsAlone hstubs
      exact ⟨⟨stubs⟩, (read_eq_ok_iff_of_withinLimits h).2 ⟨ms, hms, .inr ⟨os, hvalues, hstubs⟩⟩⟩
    | _ :: _ :: _ => simp [hvalues] at hlength

/-- A document with stubs of both forms among other members, one of which comes twice. -/
def amongOthers : Value :=
  .object [("meta", .bool true), ("mappings", .array [.object [], .array [.string "a"]]),
    ("meta", .array [.null])]

/-- The document with the same stubs and no other members. -/
def withoutOthers : Value :=
  .object [("mappings", .array [.object [], .array [.string "a"]])]

/-- The text with other members is a document, and the one without them the same document. -/
theorem accepts_amongOthers :
    WithinLimits (Utf8.encode amongOthers.compact) ∧
    WithinLimits (Utf8.encode withoutOthers.compact) ∧
    (∃ d, Document.read (Utf8.encode amongOthers.compact) = .ok d) ∧
    Document.read (Utf8.encode withoutOthers.compact) =
      Document.read (Utf8.encode amongOthers.compact) := by
  have hreading {v : Value} (hv : v.floatFree = true) :
      Reading.ofBytes (Utf8.encode v.compact) = ⟨v.outline, true⟩ :=
    (Json.Decoder.ofBytes_encode _).trans (Reading.ofString_compact hv)
  have hamong := hreading (v := amongOthers) rfl
  have hwithout := hreading (v := withoutOthers) rfl
  have hlimits : WithinLimits (Utf8.encode amongOthers.compact) := by
    refine withinLimits_of_isSome (congrArg Reading.complete hamong) ?_
    rw [hamong]
    rfl
  have hlimits' : WithinLimits (Utf8.encode withoutOthers.compact) := by
    refine withinLimits_of_isSome (congrArg Reading.complete hwithout) ?_
    rw [hwithout]
    rfl
  obtain ⟨haccepts, -, hothers⟩ := accepts_iff hlimits
  refine ⟨hlimits, hlimits', haccepts.2 ⟨_, congrArg Reading.outline hamong, Nat.le_refl 1, ?_⟩,
    hothers _ _ _ hlimits' (congrArg Reading.outline hamong)
      (congrArg Reading.outline hwithout) rfl⟩
  refine List.forall_mem_singleton.2 ⟨_, rfl, ?_⟩
  exact List.forall_mem_cons.2 ⟨⟨_, rfl⟩, List.forall_mem_singleton.2 ⟨_, rfl⟩⟩

end Document

end HttpStub
