import HttpStub.Proofs.Json.Room
import HttpStub.Proofs.Stub.Document

set_option autoImplicit false

/-!
# Documents that nest too deeply

A document is read back from its text if its JSON values open no more arrays and objects than the
records around them leave. If one of them does, the text is refused: a reader with more room would
get to the end and find the value where it was written, and what a reader with less room gets to the
end of is the same.

## Main definitions

* `HttpStub.Document.Shallow` — the JSON values of the document fit where they stand.

## Main results

* `HttpStub.Document.steady_decode` — more room changes nothing about the document that is read.
* `HttpStub.Document.exists_restores` — with room enough, a document is restored.
* `HttpStub.Document.ofText_text_iff` — which documents are read back from their texts.
-/

namespace HttpStub

open Json (Value Decoder Field Schema exists_room_of_forall exists_readable_of_legible)

variable {P Q : Value → Prop}

/-! ## More room -/

/-- Expected values are read steadily. -/
lemma steady_expectedValue : expectedValueSchema.decode.Steady := by
  refine Schema.steady_decode ?_
  simp only [expectedValueSchema, List.forall_mem_cons]
  exact ⟨Field.steady_mandatory Decoder.steady_string _ _, by simp⟩

/-- Conditions on parameters are read steadily. -/
lemma QueryMatcher.steady_decode : schema.decode.Steady := by
  refine Schema.steady_decode ?_
  simp only [schema, List.forall_mem_cons]
  exact ⟨Field.steady_optional Decoder.steady_string _ _,
    Field.steady_list steady_expectedValue _ _, by simp⟩

/-- Conditions on headers are read steadily. -/
lemma HeaderMatcher.steady_decode : schema.decode.Steady := by
  refine Schema.steady_decode ?_
  simp only [schema, List.forall_mem_cons]
  exact ⟨Field.steady_optional Decoder.steady_string _ _,
    Field.steady_optional Decoder.steady_string _ _, by simp⟩

/-- Conditions on the body are read steadily. -/
lemma BodyPattern.steady_decode : schema.decode.Steady := by
  refine Schema.steady_decode ?_
  simp only [schema, List.forall_mem_cons]
  exact ⟨Field.steady_optional Decoder.steady_value _ _,
    Field.steady_optional Decoder.steady_bool _ _,
    Field.steady_optional Decoder.steady_bool _ _, by simp⟩

/-- Patterns are read steadily. -/
lemma RequestPattern.steady_decode : schema.decode.Steady := by
  refine Schema.steady_decode ?_
  simp only [schema, List.forall_mem_cons]
  refine ⟨?_, ?_, ?_, ?_, ?_, ?_, ?_, by simp⟩
  case refine_4 => exact Field.steady_always Decoder.steady_string _ _
  case refine_5 => exact Field.steady_dict QueryMatcher.steady_decode _ _
  case refine_6 => exact Field.steady_list BodyPattern.steady_decode _ _
  case refine_7 => exact Field.steady_dict HeaderMatcher.steady_decode _ _
  all_goals exact Field.steady_optional Decoder.steady_string _ _

/-- Responses are read steadily. -/
lemma Reply.steady_decode : schema.decode.Steady := by
  refine Schema.steady_decode ?_
  simp only [schema, List.forall_mem_cons]
  refine ⟨?_, ?_, ?_, ?_, ?_, by simp⟩
  · exact Field.steady_always (Decoder.steady_refine statusOfValue) _ _
  · exact Field.steady_optional Decoder.steady_string _ _
  · exact Field.steady_optional Decoder.steady_value _ _
  · exact Field.steady_dict (Decoder.steady_refine HeaderValues.ofValue) _ _
  · exact Field.steady_optional Decoder.steady_string _ _

/-- Stubs are read steadily. -/
lemma Stub.steady_decode : schema.decode.Steady := by
  refine Schema.steady_decode ?_
  simp only [schema, List.forall_mem_cons]
  refine ⟨?_, ?_, ?_, ?_, ?_, ?_, ?_, ?_, by simp⟩
  case refine_7 => exact Field.steady_always RequestPattern.steady_decode _ _
  case refine_8 => exact Field.steady_always Reply.steady_decode _ _
  all_goals exact Field.steady_optional Decoder.steady_string _ _

/-- **More room changes nothing** about the document that is read. -/
lemma Document.steady_decode : schema.decode.Steady := by
  refine Schema.steady_decode ?_
  simp only [schema, List.forall_mem_cons]
  exact ⟨Field.steady_always (Decoder.steady_list Stub.steady_decode) _ _, by simp⟩

/-! ## Properties of the JSON values -/

/-- What holds of `null` and of a value that comes back holds of the value. -/
lemma forall_of_unlessNull {x : Option Value} (hnull : P .null)
    (h : ∀ v ∈ x.bind Value.unlessNull, P v) : ∀ v ∈ x, P v := by
  rintro v rfl
  by_cases hv : v = .null
  · exact hv ▸ hnull
  · exact h v (Value.unlessNull_eq hv)

/-- What holds of `null` and of the values that are read back holds of all values. -/
lemma Stub.allJson_of_readBack {s : Stub} (hP : P .null) (hQ : Q .null)
    (h : s.readBack.AllJson P Q) : s.AllJson P Q :=
  ⟨fun _ hb => forall_of_unlessNull hP (h.request _ (List.mem_map_of_mem hb)),
    forall_of_unlessNull hQ h.response⟩

/-- **Some room is enough for a stub** whose values can be read back at all. -/
lemma Stub.exists_readable {s : Stub} (h : s.AllJson Value.Legible Value.Legible) :
    ∃ n, s.AllJson (Value.Readable n) (Value.Readable n) := by
  obtain ⟨m, hm⟩ := exists_room_of_forall (p := fun n b => BodyPattern.AllJson (Value.Readable n) b)
    (fun _ _ hmn _ hb v hv => (hb v hv).mono hmn)
    fun b hb => exists_readable_of_legible (h.request b hb)
  obtain ⟨n, hn⟩ := exists_readable_of_legible h.response
  exact ⟨max m n, fun b hb v hv => (hm b hb v hv).mono (le_max_left m n),
    fun v hv => (hn v hv).mono (le_max_right m n)⟩

/-! ## Documents -/

namespace Document

variable {d : Document}

/-- The JSON values of the document open no more arrays and objects than there is room for where
they stand. -/
abbrev Shallow (d : Document) : Prop :=
  d.AllJson (fun v => v.depth ≤ conditionRoom) (fun v => v.depth ≤ bodyRoom)

/-- What holds of `null` and of the values that come back holds of all values of a document. -/
lemma allJson_of_readBack (hP : P .null) (hQ : Q .null) (h : d.readBack.AllJson P Q) :
    d.AllJson P Q :=
  fun _ hs => Stub.allJson_of_readBack hP hQ (h _ (List.mem_map_of_mem hs))

/-- There is room for a document whose values can be read back at all. -/
lemma exists_restores (h : d.AllJson Value.Legible Value.Legible) (m : Nat) :
    ∃ room ≥ m, Decoder.Restores schema.decode room d.readBack d.toJson := by
  obtain ⟨n, hn⟩ := exists_room_of_forall
    (p := fun n s => Stub.AllJson (Value.Readable n) (Value.Readable n) s)
    (fun _ _ hle _ hs => hs.imp (fun _ hv => hv.mono hle) fun _ hv => hv.mono hle)
    fun s hs => Stub.exists_readable (h s hs)
  refine ⟨max n m + 8, by omega, restores_of_room fun s hs => ?_⟩
  exact (hn s hs).imp (fun v hv => hv.mono (by omega)) fun v hv => hv.mono (by omega)

/-- A document whose text is read fits the reader, if its values can be read back at all.

**Proof sketch.** With room enough the document is restored from the JSON that is written. What has
been read with less room is the same, and what has been read fits where it stands. -/
lemma shallow_of_ofText_text (h : d.AllJson Value.Legible Value.Legible) {d' : Document}
    (hread : Document.ofText d.text = .ok d') : d.Shallow := by
  obtain ⟨room, hroom, hrestores⟩ := exists_restores h Decoder.maxDepth
  have hdecode : schema.decode Decoder.maxDepth d.toJson.outline = .ok d' :=
    (Decoder.runString_compact _ hrestores.floatFree).symm.trans hread
  have hmore := steady_decode.mono hroom hdecode
  obtain rfl : d.readBack = d' := Except.ok.inj (hrestores.decode.symm.trans hmore)
  have hgiven := given_of_read ((read_encode d.text).trans hread)
  refine allJson_of_readBack (Nat.zero_le _) (Nat.zero_le _) fun s hs => ?_
  exact (hgiven s hs).imp (fun v hv => hv.fits.depth_le) fun v hv => hv.fits.depth_le

/-- The values of a document can be read back if they have no floating point number and repeat no
name in an object. -/
lemma legible (hf : d.FloatFree) (hk : d.AllJson Value.DistinctKeys Value.DistinctKeys) :
    d.AllJson Value.Legible Value.Legible :=
  fun s hs => ((hf s hs).and (hk s hs)).imp (fun _ hv => ⟨hv.1, hv.2⟩) fun _ hv => ⟨hv.1, hv.2⟩

/-- They can be read back with the room of the reader if the document fits it. -/
lemma Shallow.readable (hshallow : d.Shallow) (h : d.AllJson Value.Legible Value.Legible) :
    d.AllJson (Value.Readable conditionRoom) (Value.Readable bodyRoom) :=
  fun s hs => ((h s hs).and (hshallow s hs)).imp
    (fun _ hv => ⟨hv.1.floatFree, hv.1.distinctKeys, hv.2⟩)
    fun _ hv => ⟨hv.1.floatFree, hv.1.distinctKeys, hv.2⟩

/-- **Which documents are read back**, of those whose values can be read back at all: the ones that
fit the reader. -/
theorem ofText_text_iff (h : d.AllJson Value.Legible Value.Legible) :
    Document.ofText d.text = .ok d.readBack ↔ d.Shallow :=
  ⟨shallow_of_ofText_text h, fun hshallow => ofText_text (hshallow.readable h)⟩

end Document

end HttpStub
