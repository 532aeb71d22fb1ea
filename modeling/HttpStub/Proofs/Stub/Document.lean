import HttpStub.Proofs.Json.Decoded
import HttpStub.Proofs.Json.Restore
import HttpStub.Stub.Format

set_option autoImplicit false

/-!
# Documents read back

A document is written as a text that is read as the same document, but for one kind of value: an
optional JSON value that is `null` is written, and read as if it had been left out. No document that
was read from a text holds such a value, in whatever form the text was. Nor does its own text nest
too deeply: a record in the form of an object opens as much as one in the form of an array, so each
value stands in the text that is written where it stood in the text that was read.

## Main definitions

* `HttpStub.Stub.AllJson`, `HttpStub.Document.AllJson` — the JSON values of the record have given
  properties.
* `HttpStub.Stub.readBack`, `HttpStub.Document.readBack` — the record without `null` as a JSON
  value.
* `HttpStub.Document.FloatFree` — no JSON value of the document has a floating point number.

## Main results

* `HttpStub.Stub.restores`, `HttpStub.Document.restores` — what is restored from a record.
* `HttpStub.Document.ofText_text` — a document is read back from its text without `null` as a JSON
  value.
* `HttpStub.Document.given_of_read` — what is known of the JSON values of a document that is read.
* `HttpStub.Document.read_text` — a document that is read is read back as it is.
-/

namespace HttpStub

open Json (Value Decoder DecodeError Field Schema RestoresAll)

variable {room : Nat} {P Q : Value → Prop}

/-! ## Conditions -/

/-- An expected value is restored with room for its record. -/
lemma restores_expectedValue (room : Nat) (v : String) :
    Decoder.Restores expectedValueSchema.decode (room + 1) v (expectedValueSchema.encode v) := by
  refine Schema.restores (by decide) ?_
  refine .cons (Field.restores_mandatory (Decoder.restores_string room v)) ?_
  exact .nil v

/-- A condition on a parameter is restored with room for the list in it. -/
lemma QueryMatcher.restores (room : Nat) (m : QueryMatcher) :
    Decoder.Restores schema.decode (room + 3) m (schema.encode m) := by
  refine Schema.restores (by decide) ?_
  refine .cons (Field.restores_optional_string fun _ => rfl) ?_
  refine .cons (Field.restores_list (g := id) (fun v _ => restores_expectedValue room v)
    fun _ => rfl) ?_
  simp only [List.map_id]
  exact .nil m

/-- A condition on a header is restored with room for its record. -/
lemma HeaderMatcher.restores (room : Nat) (m : HeaderMatcher) :
    Decoder.Restores schema.decode (room + 1) m (schema.encode m) := by
  refine Schema.restores (by decide) ?_
  refine .cons (Field.restores_optional_string fun _ => rfl) ?_
  refine .cons (Field.restores_optional_string fun _ => rfl) ?_
  exact .nil m

namespace BodyPattern

/-- The value of the condition has the property `P`. -/
def AllJson (P : Value → Prop) (p : BodyPattern) : Prop :=
  ∀ v ∈ p.equalToJson, P v

instance [DecidablePred P] (p : BodyPattern) : Decidable (p.AllJson P) :=
  inferInstanceAs (Decidable (∀ v ∈ p.equalToJson, P v))

/-- The condition as it is read back. -/
def readBack (p : BodyPattern) : BodyPattern :=
  { p with equalToJson := p.equalToJson.bind Value.unlessNull }

/-- A condition on the body that has been read is read back as it is. -/
lemma readBack_eq {p : BodyPattern} (h : p.AllJson (Value.Given room)) : p.readBack = p := by
  obtain ⟨_ | v, _, _⟩ := p
  · rfl
  · simp [readBack, Value.unlessNull_eq (h v rfl).ne_null]

/-- A condition on the body is restored without `null` as its value. -/
lemma restores {p : BodyPattern} (h : p.AllJson (Value.Readable room)) :
    Decoder.Restores schema.decode (room + 1) p.readBack (schema.encode p) := by
  refine Schema.restores (by decide) ?_
  refine .cons (Field.restores_optional_value h fun _ => rfl) ?_
  refine .cons (Field.restores_optional_bool fun _ => rfl) ?_
  refine .cons (Field.restores_optional_bool fun _ => rfl) ?_
  exact .nil p.readBack

/-- The value of a condition on the body that is read can have been read with it. -/
lemma given_of_decode {o : Json.Outline} {p : BodyPattern}
    (h : schema.decode (room + 1) o = .ok p) : p.AllJson (Value.Given room) := by
  have hdefault : schema.default.AllJson (Value.Given room) := by simp [AllJson, schema]
  refine Schema.decode_keeps hdefault ?_ h
  simp only [schema, List.forall_mem_cons]
  refine ⟨?_, ?_, ?_, by simp⟩
  case refine_1 => exact Field.keeps_of_set rfl fun _ _ _ hx _ => Decoder.given_of_optional hx
  all_goals exact Field.keeps_of_set rfl fun _ _ _ _ ha => ha

end BodyPattern

/-! ## Patterns -/

namespace RequestPattern

/-- The values of the conditions on the body have the property `P`. -/
def AllJson (P : Value → Prop) (p : RequestPattern) : Prop :=
  ∀ b ∈ p.bodyPatterns, b.AllJson P

instance [DecidablePred P] (p : RequestPattern) : Decidable (p.AllJson P) :=
  inferInstanceAs (Decidable (∀ b ∈ p.bodyPatterns, b.AllJson P))

/-- The pattern as it is read back. -/
def readBack (p : RequestPattern) : RequestPattern :=
  { p with bodyPatterns := p.bodyPatterns.map BodyPattern.readBack }

/-- A pattern that has been read is read back as it is. -/
lemma readBack_eq {p : RequestPattern} (h : p.AllJson (Value.Given room)) : p.readBack = p := by
  have hmap : p.bodyPatterns.map BodyPattern.readBack = p.bodyPatterns :=
    (List.map_congr_left fun b hb => BodyPattern.readBack_eq (h b hb)).trans (List.map_id _)
  rw [readBack, hmap]

/-- **What is restored from a pattern.** -/
lemma restores {p : RequestPattern} (h : p.AllJson (Value.Readable (room + 2))) :
    Decoder.Restores schema.decode (room + 5) p.readBack (schema.encode p) := by
  refine Schema.restores (by decide) ?_
  refine .cons (Field.restores_optional_string fun _ => rfl) ?_
  refine .cons (Field.restores_optional_string fun _ => rfl) ?_
  refine .cons (Field.restores_optional_string fun _ => rfl) ?_
  refine .cons (Field.restores_always (Decoder.restores_string _ p.method)) ?_
  refine .cons (Field.restores_dict (fun e _ => QueryMatcher.restores room e.2) fun _ => rfl) ?_
  refine .cons (Field.restores_list (fun b hb => BodyPattern.restores (h b hb)) fun _ => rfl) ?_
  refine .cons (Field.restores_dict (fun e _ => HeaderMatcher.restores _ e.2) fun _ => rfl) ?_
  exact .nil p.readBack

/-- The pattern without conditions has no values. -/
lemma given_blank : blank.AllJson (Value.Given room) := by
  simp [AllJson, blank]

/-- The values of a pattern that is read stand three levels deep in it. -/
lemma given_of_decode {o : Json.Outline} {p : RequestPattern}
    (h : schema.decode (room + 3) o = .ok p) : p.AllJson (Value.Given room) := by
  refine Schema.decode_keeps given_blank ?_ h
  simp only [schema, List.forall_mem_cons]
  refine ⟨?_, ?_, ?_, ?_, ?_, ?_, ?_, by simp⟩
  case refine_6 =>
    exact Field.keeps_of_set rfl fun _ _ _ hbs _ =>
      Decoder.forall_of_list (fun _ _ => BodyPattern.given_of_decode) hbs
  all_goals exact Field.keeps_of_set rfl fun _ _ _ _ ha => ha

end RequestPattern

/-! ## Responses -/

/-- A status is read from the number that it is written as. -/
lemma restores_status (room : Nat) (n : UInt16) :
    (Decoder.refine statusOfValue).Restores room n (.number (.ofNat n.toNat)) := by
  have hlt : n.toNat < 65536 := n.toNat_lt
  obtain ⟨i, hi, hval⟩ : ∃ i, Json.Number.ofNat n.toNat = .integer i ∧ i.val = n.toNat :=
    ⟨_, dif_pos (by omega), rfl⟩
  rw [hi]
  refine Decoder.restores_refine ⟨rfl, trivial, Nat.zero_le _⟩ ?_
  simp [statusOfValue, Json.Number.toNat?, hval, hlt]

/-- Texts that are written as values are all read back. -/
lemma allStrings?_map_string (ss : List String) : allStrings? (ss.map .string) = some ss := by
  induction ss with
  | nil => rfl
  | cons s ss ih => simp only [List.map_cons, allStrings?, ih, Option.map_some]

/-- The values of a header are restored: a single one from a text, others from a list. -/
lemma HeaderValues.restores (room : Nat) (v : HeaderValues) :
    (Decoder.refine ofValue).Restores (room + 1) v v.toJson := by
  cases v with
  | one s => exact Decoder.restores_refine (Value.readable_string _ s) rfl
  | many ss =>
    refine Decoder.restores_refine ?_ ?_
    · exact Value.readable_array (List.forall_mem_map.2 fun s _ => Value.readable_string room s)
    · simp only [toJson, ofValue, allStrings?_map_string]

namespace Reply

/-- The JSON body has the property `P`. -/
def AllJson (P : Value → Prop) (r : Reply) : Prop :=
  ∀ v ∈ r.jsonBody, P v

instance [DecidablePred P] (r : Reply) : Decidable (r.AllJson P) :=
  inferInstanceAs (Decidable (∀ v ∈ r.jsonBody, P v))

/-- The response as it is read back. -/
def readBack (r : Reply) : Reply :=
  { r with jsonBody := r.jsonBody.bind Value.unlessNull }

/-- A response that has been read is read back as it is. -/
lemma readBack_eq {r : Reply} (h : r.AllJson (Value.Given room)) : r.readBack = r := by
  obtain ⟨_, _, _ | v, _, _⟩ := r
  · rfl
  · simp [readBack, Value.unlessNull_eq (h v rfl).ne_null]

/-- **What is restored from a response.** -/
lemma restores {r : Reply} (h : r.AllJson (Value.Readable (room + 2))) :
    Decoder.Restores schema.decode (room + 3) r.readBack (schema.encode r) := by
  refine Schema.restores (by decide) ?_
  refine .cons (Field.restores_always (restores_status _ r.status)) ?_
  refine .cons (Field.restores_optional_string fun _ => rfl) ?_
  refine .cons (Field.restores_optional_value h fun _ => rfl) ?_
  refine .cons (Field.restores_dict (fun e _ => HeaderValues.restores room e.2) fun _ => rfl) ?_
  refine .cons (Field.restores_optional_string fun _ => rfl) ?_
  exact .nil r.readBack

/-- The response that says nothing has no value. -/
lemma given_blank : blank.AllJson (Value.Given room) := by
  simp [AllJson, blank]

/-- The value of a response that is read stands one level deep in it. -/
lemma given_of_decode {o : Json.Outline} {r : Reply} (h : schema.decode (room + 1) o = .ok r) :
    r.AllJson (Value.Given room) := by
  refine Schema.decode_keeps given_blank ?_ h
  simp only [schema, List.forall_mem_cons]
  refine ⟨?_, ?_, ?_, ?_, ?_, by simp⟩
  case refine_3 => exact Field.keeps_of_set rfl fun _ _ _ hx _ => Decoder.given_of_optional hx
  all_goals exact Field.keeps_of_set rfl fun _ _ _ _ ha => ha

end Reply

/-! ## Stubs -/

namespace Stub

/-- The values of the conditions on the body have the property `P`, and the JSON body of the
response has the property `Q`. -/
structure AllJson (P Q : Value → Prop) (s : Stub) : Prop where
  request : s.request.AllJson P
  response : s.response.AllJson Q

instance [DecidablePred P] [DecidablePred Q] (s : Stub) : Decidable (s.AllJson P Q) :=
  decidable_of_iff (s.request.AllJson P ∧ s.response.AllJson Q)
    ⟨fun h => ⟨h.1, h.2⟩, fun h => ⟨h.request, h.response⟩⟩

/-- Where all values have a property, they have every weaker one. -/
lemma AllJson.imp {P' Q' : Value → Prop} {s : Stub} (h : s.AllJson P Q) (hP : ∀ v, P v → P' v)
    (hQ : ∀ v, Q v → Q' v) : s.AllJson P' Q' :=
  ⟨fun b hb v hv => hP v (h.request b hb v hv), fun v hv => hQ v (h.response v hv)⟩

/-- Where all values have two properties, they have both at once. -/
lemma AllJson.and {P' Q' : Value → Prop} {s : Stub} (h : s.AllJson P Q) (h' : s.AllJson P' Q') :
    s.AllJson (fun v => P v ∧ P' v) (fun v => Q v ∧ Q' v) :=
  ⟨fun b hb v hv => ⟨h.request b hb v hv, h'.request b hb v hv⟩,
    fun v hv => ⟨h.response v hv, h'.response v hv⟩⟩

/-- The stub as it is read back. -/
def readBack (s : Stub) : Stub :=
  { s with request := s.request.readBack, response := s.response.readBack }

/-- A stub that has been read is read back as it is. -/
lemma readBack_eq {s : Stub} {room' : Nat} (h : s.AllJson (Value.Given room) (Value.Given room')) :
    s.readBack = s := by
  rw [readBack, RequestPattern.readBack_eq h.request, Reply.readBack_eq h.response]

/-- **What is restored from a stub.** A condition on the body stands inside four arrays and objects
of the stub, the body of the response inside two. -/
lemma restores {s : Stub}
    (h : s.AllJson (Value.Readable (room + 2)) (Value.Readable (room + 4))) :
    Decoder.Restores schema.decode (room + 6) s.readBack (schema.encode s) := by
  refine Schema.restores (by decide) ?_
  refine .cons (Field.restores_optional_string fun _ => rfl) ?_
  refine .cons (Field.restores_optional_string fun _ => rfl) ?_
  refine .cons (Field.restores_optional_string fun _ => rfl) ?_
  refine .cons (Field.restores_optional_string fun _ => rfl) ?_
  refine .cons (Field.restores_optional_string fun _ => rfl) ?_
  refine .cons (Field.restores_optional_string fun _ => rfl) ?_
  refine .cons (Field.restores_always (RequestPattern.restores h.request)) ?_
  refine .cons (Field.restores_always (Reply.restores h.response)) ?_
  exact .nil s.readBack

/-- The values of a stub that is read stand four levels deep in it if they belong to the pattern,
and two levels deep if they belong to the response. -/
lemma given_of_decode {o : Json.Outline} {s : Stub} (h : schema.decode (room + 6) o = .ok s) :
    s.AllJson (Value.Given (room + 2)) (Value.Given (room + 4)) := by
  refine Schema.decode_keeps ⟨RequestPattern.given_blank, Reply.given_blank⟩ ?_ h
  simp only [schema, List.forall_mem_cons]
  refine ⟨?_, ?_, ?_, ?_, ?_, ?_, ?_, ?_, by simp⟩
  case refine_7 =>
    exact Field.keeps_of_set rfl fun _ _ _ hp ha =>
      ⟨RequestPattern.given_of_decode hp, ha.response⟩
  case refine_8 =>
    exact Field.keeps_of_set rfl fun _ _ _ hr ha => ⟨ha.request, Reply.given_of_decode hr⟩
  all_goals exact Field.keeps_of_set rfl fun _ _ _ _ ha => ⟨ha.request, ha.response⟩

end Stub

/-! ## Documents -/

namespace Document

/-- The values of all conditions on the body have the property `P`, and the JSON bodies of all
responses have the property `Q`. -/
def AllJson (P Q : Value → Prop) (d : Document) : Prop :=
  ∀ s ∈ d.stubs, s.AllJson P Q

instance [DecidablePred P] [DecidablePred Q] (d : Document) : Decidable (d.AllJson P Q) :=
  inferInstanceAs (Decidable (∀ s ∈ d.stubs, s.AllJson P Q))

/-- No JSON value of the document has a floating point number. -/
abbrev FloatFree (d : Document) : Prop :=
  d.AllJson (fun v => v.floatFree = true) (fun v => v.floatFree = true)

/-- The document as it is read back. -/
def readBack (d : Document) : Document :=
  ⟨d.stubs.map Stub.readBack⟩

/-- How many arrays and objects a condition on the body may open inside a document: six of those
that the reader allows are open where its value starts. -/
def conditionRoom : Nat := 121

/-- How many arrays and objects the body of a response may open inside a document: four of those
that the reader allows are open where it starts. -/
def bodyRoom : Nat := 123

variable {d : Document}

/-- A document that has been read is read back as it is. -/
lemma readBack_eq {m n : Nat} (h : d.AllJson (Value.Given m) (Value.Given n)) :
    d.readBack = d := by
  have hmap : d.stubs.map Stub.readBack = d.stubs :=
    (List.map_congr_left fun s hs => Stub.readBack_eq (h s hs)).trans (List.map_id _)
  rw [readBack, hmap]

/-- **What is restored from a document**, with any room. -/
lemma restores_of_room
    (h : d.AllJson (Value.Readable (room + 2)) (Value.Readable (room + 4))) :
    Decoder.Restores schema.decode (room + 8) d.readBack d.toJson := by
  refine Schema.restores (by decide) ?_
  refine .cons (Field.restores_always (Decoder.restores_list fun s hs => Stub.restores (h s hs))) ?_
  exact .nil d.readBack

/-- What is restored from a document with the room of the reader. -/
lemma restores (h : d.AllJson (Value.Readable conditionRoom) (Value.Readable bodyRoom)) :
    Decoder.Restores schema.decode Decoder.maxDepth d.readBack d.toJson :=
  @restores_of_room 119 d h

/-- A text and its octets describe the same document. -/
lemma read_encode (s : String) : Document.read (Utf8.encode s) = Document.ofText s :=
  Decoder.run_encode schema.decode s

/-- **A document is read back from its text** without `null` as a JSON value. -/
theorem ofText_text (h : d.AllJson (Value.Readable conditionRoom) (Value.Readable bodyRoom)) :
    Document.ofText d.text = .ok d.readBack :=
  (restores h).runString

/-- **The JSON values of a document that is read** are not `null`, and fit where they stand. -/
lemma given_of_read {bs : Bytes} (h : Document.read bs = .ok d) :
    d.AllJson (Value.Given conditionRoom) (Value.Given bodyRoom) := by
  obtain ⟨o, ho⟩ := Decoder.exists_of_read h
  have hdefault : schema.default.AllJson (Value.Given conditionRoom) (Value.Given bodyRoom) := by
    simp [AllJson, schema]
  refine Schema.decode_keeps hdefault ?_ ho
  simp only [schema, List.forall_mem_cons]
  refine ⟨?_, by simp⟩
  exact Field.keeps_of_set rfl fun _ _ _ hss _ =>
    Decoder.forall_of_list (fun _ _ => Stub.given_of_decode) hss

/-- A document that is read can be written and read back unless it has a floating point number. -/
lemma readable_of_read {bs : Bytes} (h : Document.read bs = .ok d) (hf : d.FloatFree) :
    d.AllJson (Value.Readable conditionRoom) (Value.Readable bodyRoom) :=
  fun s hs => ((hf s hs).and (given_of_read h s hs)).imp (fun _ hv => ⟨hv.1, hv.2.fits⟩)
    fun _ hv => ⟨hv.1, hv.2.fits⟩

/-- **A document that is read is read back from its text**, in full and in the same order, and its
text never nests too deeply for the reader. -/
theorem read_text {bs : Bytes} (h : Document.read bs = .ok d) (hf : d.FloatFree) :
    Document.read (Utf8.encode d.text) = .ok d ∧ Document.ofText d.text = .ok d ∧
      d.toJson.depth ≤ Decoder.maxDepth := by
  have hreadable := readable_of_read h hf
  have htext : Document.ofText d.text = .ok d := by
    rw [ofText_text hreadable, readBack_eq (given_of_read h)]
  exact ⟨(read_encode d.text).trans htext, htext, (restores hreadable).fits.depth_le⟩

/-- A text with stubs of both forms: an array that ends early, and an object with members that are
`null`, unknown, or of another type than they are written in. -/
def mixedForms : Value :=
  .object [("meta", .array [.null]),
    ("mappings", .array [.array [.string "a", .null, .string "b"],
      .object [("request", .array [.string "/x", .null]), ("priority", .number (.ofNat 1)),
        ("response", .object [("status", .string "+201"), ("body", .null),
          ("jsonBody", .array [.bool true, .object [("k", .null)]])])]])]

/-- The document of the text with stubs of both forms. -/
def ofMixedForms : Document :=
  ⟨[{ Stub.blank with id := some "a", name := some "b" },
    { Stub.blank with
      request := { RequestPattern.blank with url := some "/x" }
      response := { Reply.blank with
        status := 201
        jsonBody := some (.array [.bool true, .object [("k", .null)]]) } }]⟩

/-- Stubs of both forms are read back from the one form in which they are written. -/
theorem read_text_of_mixed_forms :
    Document.read (Utf8.encode mixedForms.compact) = .ok ofMixedForms ∧ ofMixedForms.FloatFree ∧
      Document.read (Utf8.encode ofMixedForms.text) = .ok ofMixedForms ∧
      Document.ofText ofMixedForms.text = .ok ofMixedForms ∧
      ofMixedForms.toJson.depth ≤ Decoder.maxDepth := by
  have hread : Document.read (Utf8.encode mixedForms.compact) = .ok ofMixedForms := by
    rw [read_encode, Document.ofText, Decoder.runString_compact _ rfl]
    rfl
  have hf : ofMixedForms.FloatFree := by decide
  exact ⟨hread, hf, read_text hread hf⟩

end Document

end HttpStub
