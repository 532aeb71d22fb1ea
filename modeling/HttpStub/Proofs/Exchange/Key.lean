import HttpStub.Exchange.Snapshot
import HttpStub.Proofs.Exchange.Pattern
import HttpStub.Proofs.Json.Schema

set_option autoImplicit false

/-!
# The key of a pattern

The key is the text of a pattern: method and URL between blanks, then the JSON of its conditions.
Without blanks in method and URL the four parts can be told apart, because no JSON text is the
start of another one and the two kinds of conditions start with different brackets.

## Main definitions

* `HttpStub.RequestPattern.Separable` — a pattern whose key shows its parts.
* `HttpStub.keyPart` — what conditions add to a key.

## Main results

* `HttpStub.RequestPattern.Separable.parts_eq_of_key_eq` — patterns with the same key have the same
  parts.
* `HttpStub.Exchange.requestPattern_eq_of_key_eq` — and so recorded requests with the same key have
  the same pattern.
* `HttpStub.Exchange.key_eq_iff_parts` — which recorded requests have the same key.
-/

namespace HttpStub

open Json (Value EndsNumber Schema Field)

/-! ## The JSON of conditions -/

/-- An expected value can be read off its JSON. -/
lemma encode_expectedValue_injective : Function.Injective expectedValueSchema.encode :=
  fun _ _ h => Field.mandatory_inj Field.string_injective
    (Schema.field_eq_of_encode_eq (by decide) h List.mem_cons_self)

/-- **A condition on a parameter** can be read off its JSON. -/
lemma QueryMatcher.encode_injective : Function.Injective QueryMatcher.schema.encode := by
  intro m m' h
  have hfield := fun f hf => Schema.field_eq_of_encode_eq (s := schema) (by decide) (f := f) h hf
  simp only [schema, List.forall_mem_cons] at hfield
  obtain ⟨hequal, hexactly, -⟩ := hfield
  obtain ⟨equalTo, hasExactly⟩ := m
  obtain ⟨equalTo', hasExactly'⟩ := m'
  obtain rfl : equalTo = equalTo' := Field.optional_inj Field.string_injective hequal
  obtain rfl : hasExactly = hasExactly' :=
    Field.list_inj encode_expectedValue_injective hexactly
  rfl

/-- **A condition on the body** can be read off its JSON. -/
lemma BodyPattern.encode_injective : Function.Injective BodyPattern.schema.encode := by
  intro p p' h
  have hfield := fun f hf => Schema.field_eq_of_encode_eq (s := schema) (by decide) (f := f) h hf
  simp only [schema, List.forall_mem_cons] at hfield
  obtain ⟨hjson, horder, hextra, -⟩ := hfield
  obtain ⟨json, order, extra⟩ := p
  obtain ⟨json', order', extra'⟩ := p'
  obtain rfl : json = json' := Field.optional_inj Function.injective_id hjson
  obtain rfl : order = order' := Field.optional_inj Field.bool_injective horder
  obtain rfl : extra = extra' := Field.optional_inj Field.bool_injective hextra
  rfl

/-- The JSON of an expected value can be read back from its text. -/
lemma legible_expectedValue (s : String) : (expectedValueSchema.encode s).Legible := by
  refine Schema.encode_legible (by decide) ?_
  simp [expectedValueSchema, Field.mandatory, Value.legible_string]

/-- The JSON of a condition on a parameter can be read back from its text. -/
lemma QueryMatcher.legible (m : QueryMatcher) : (schema.encode m).Legible := by
  refine Schema.encode_legible (by decide) ?_
  simp only [schema, List.forall_mem_cons]
  refine ⟨fun v hv => ?_, fun v hv => ?_, by simp⟩
  · obtain ⟨s, -, rfl⟩ := Option.map_eq_some_iff.1 hv
    exact Value.legible_string s
  · simp only [Field.list, Option.mem_def, Option.ite_none_left_eq_some, Option.some.injEq] at hv
    obtain ⟨-, rfl⟩ := hv
    simp [Value.legible_array, legible_expectedValue]

/-- The JSON of a condition that is made from a body can be read back from its text. -/
lemma BodyPattern.legible_ofJsonText (text : String) :
    (schema.encode (.ofJsonText text)).Legible := by
  refine Schema.encode_legible (by decide) ?_
  simp [schema, ofJsonText, Field.optional, Value.legible_string, Value.legible_bool]

/-! ## The parts of a key -/

/-- What conditions add to a key: nothing if there are none, or else a blank and their JSON. -/
def keyPart (absent : Bool) (v : Value) : List Char :=
  if absent then [] else ' ' :: v.chars

/-- Where there are no conditions, nothing is added. -/
lemma keyPart_true (v : Value) : keyPart true v = [] := rfl

/-- Conditions are set off by a blank. -/
lemma keyPart_false (v : Value) : keyPart false v = ' ' :: v.chars := rfl

/-- An object after a blank is not an array after a blank. -/
lemma object_ne_keyPart (members : Json.Members) (rest : List Char) (absent : Bool)
    (items : List Value) :
    ' ' :: ((Value.object members).chars ++ rest) ≠ keyPart absent (.array items) := by
  cases absent <;> simp [keyPart, Value.chars]

/-- What conditions add to a key starts with a blank, so that the URL in front of it ends there. -/
lemma head?_keyPart_append {absent absent' : Bool} {v w : Value} :
    ∀ c ∈ (keyPart absent v ++ keyPart absent' w).head?, c = ' ' := by
  cases absent <;> cases absent' <;> simp [keyPart]

/-- What conditions add to a key does not go on with a number. -/
lemma endsNumber_keyPart {absent : Bool} {v : Value} :
    EndsNumber ((keyPart absent v).map some) := by
  cases absent with
  | true => trivial
  | false => exact Json.endsNumber_cons (by decide) _

namespace RequestPattern

/-- The URL in the key of a pattern. -/
def keyUrl (p : RequestPattern) : String :=
  ((nonEmpty? p.url).orElse fun _ => p.urlPath).getD ""

/-- There is no blank in the method and in the URL of the pattern, and its conditions on the body
are JSON texts. -/
structure Separable (p : RequestPattern) : Prop where
  method_free : ' ' ∉ p.method.toList
  url_free : ' ' ∉ p.keyUrl.toList
  texts : ∀ b ∈ p.bodyPatterns, ∃ text, b = .ofJsonText text

variable {p q : RequestPattern}

/-- The key is its four parts, one after the other. -/
lemma toList_key (p : RequestPattern) :
    p.key.toList = p.method.toList ++ ' ' :: (p.keyUrl.toList ++
      (keyPart p.queryParameters.isEmpty p.queryJson ++
        keyPart p.bodyPatterns.isEmpty p.bodyJson)) := by
  unfold key keyPart keyUrl
  cases p.queryParameters.isEmpty <;> cases p.bodyPatterns.isEmpty <;>
    simp [Value.compact]

/-- The key of a pattern is made of its method, its URL and its conditions on parameters and
body. -/
lemma key_eq_of_parts (hmethod : p.method = q.method) (hurl : p.url = q.url)
    (hpath : p.urlPath = q.urlPath) (hquery : p.queryParameters = q.queryParameters)
    (hbody : p.bodyPatterns = q.bodyPatterns) : p.key = q.key := by
  simp only [key, queryJson, bodyJson, hmethod, hurl, hpath, hquery, hbody]

/-- The JSON of the conditions on parameters can be read back from its text. -/
lemma legible_queryJson : p.queryJson.Legible := by
  refine Value.legible_object.2 ⟨?_, ?_⟩
  · rw [List.map_map]
    exact p.queryParameters.nodup_keys
  · rw [List.forall_mem_map]
    exact fun m _ => m.2.legible

/-- The JSON of the conditions on the body can be read back from its text, since they are JSON
texts. -/
lemma Separable.legible_bodyJson (h : p.Separable) : p.bodyJson.Legible := by
  rw [bodyJson, Value.legible_array, List.forall_mem_map]
  intro b hb
  obtain ⟨text, rfl⟩ := h.texts b hb
  exact BodyPattern.legible_ofJsonText text

/-- The conditions on parameters can be read off their JSON. -/
lemma queryParameters_eq_of_queryJson_eq (h : p.queryJson = q.queryJson) :
    p.queryParameters = q.queryParameters := by
  have hmember : Function.Injective fun e : String × QueryMatcher =>
      (e.1, QueryMatcher.schema.encode e.2) :=
    Function.injective_id.prodMap QueryMatcher.encode_injective
  exact Dict.ext (List.map_injective_iff.2 hmember (Value.object.inj h))

/-- The conditions on the body can be read off their JSON. -/
lemma bodyPatterns_eq_of_bodyJson_eq (h : p.bodyJson = q.bodyJson) :
    p.bodyPatterns = q.bodyPatterns :=
  List.map_injective_iff.2 BodyPattern.encode_injective (Value.array.inj h)

/-- **The conditions on parameters** can be told from those on the body: both are objects or arrays
in brackets of their own.

**Proof sketch.** A key with conditions on parameters goes on with an opening brace, one without
them ends or goes on with an opening bracket. If both have such conditions, their texts cannot be
starts of each other (`Json.chars_append_inj`). -/
lemma queryPart_append_inj
    (h : keyPart p.queryParameters.isEmpty p.queryJson ++
        keyPart p.bodyPatterns.isEmpty p.bodyJson =
      keyPart q.queryParameters.isEmpty q.queryJson ++
        keyPart q.bodyPatterns.isEmpty q.bodyJson) :
    p.queryParameters = q.queryParameters ∧
      keyPart p.bodyPatterns.isEmpty p.bodyJson = keyPart q.bodyPatterns.isEmpty q.bodyJson := by
  have hempty : ∀ d : Dict QueryMatcher, d.isEmpty = true → d = .empty := fun d hd =>
    Dict.ext (List.isEmpty_iff.1 hd)
  rcases hp : p.queryParameters.isEmpty with _ | _ <;>
    rcases hq : q.queryParameters.isEmpty with _ | _ <;>
      simp only [hp, hq, keyPart_true, keyPart_false, List.nil_append, List.cons_append] at h
  · obtain ⟨hjson, hrest⟩ := Json.chars_append_inj legible_queryJson legible_queryJson
      endsNumber_keyPart endsNumber_keyPart (List.cons.inj h).2
    exact ⟨queryParameters_eq_of_queryJson_eq hjson, hrest⟩
  · exact absurd h (object_ne_keyPart _ _ _ _)
  · exact absurd h.symm (object_ne_keyPart _ _ _ _)
  · exact ⟨(hempty _ hp).trans (hempty _ hq).symm, h⟩

/-- The conditions on the body can be read off the end of the key. -/
lemma Separable.bodyPart_inj (hp : p.Separable) (hq : q.Separable)
    (h : keyPart p.bodyPatterns.isEmpty p.bodyJson = keyPart q.bodyPatterns.isEmpty q.bodyJson) :
    p.bodyPatterns = q.bodyPatterns := by
  rcases hpb : p.bodyPatterns.isEmpty with _ | _ <;>
    rcases hqb : q.bodyPatterns.isEmpty with _ | _ <;>
      simp only [hpb, hqb, keyPart_true, keyPart_false, reduceCtorEq, List.cons.injEq,
        true_and] at h
  · refine bodyPatterns_eq_of_bodyJson_eq
      (Json.compact_inj hp.legible_bodyJson hq.legible_bodyJson ?_)
    rw [Value.compact, h, Value.compact]
  · rw [List.isEmpty_iff.1 hpb, List.isEmpty_iff.1 hqb]

/-- **Patterns with the same key** have the same parts. -/
lemma Separable.parts_eq_of_key_eq (hp : p.Separable) (hq : q.Separable) (h : p.key = q.key) :
    p.method = q.method ∧ p.keyUrl = q.keyUrl ∧ p.queryParameters = q.queryParameters ∧
      p.bodyPatterns = q.bodyPatterns := by
  have hkey := congrArg String.toList h
  rw [toList_key, toList_key] at hkey
  obtain ⟨hmethod, hrest⟩ := append_inj_of_not_mem hp.method_free hq.method_free (by simp)
    (by simp) hkey
  obtain ⟨hurl, hparts⟩ := append_inj_of_not_mem hp.url_free hq.url_free head?_keyPart_append
    head?_keyPart_append (List.cons.inj hrest).2
  obtain ⟨hquery, hbody⟩ := queryPart_append_inj hparts
  exact ⟨String.toList_injective hmethod, String.toList_injective hurl, hquery,
    hp.bodyPart_inj hq hbody⟩

end RequestPattern

/-! ## The keys of recorded requests -/

/-- A query leads to at least one condition: even an empty one has a parameter. -/
lemma queryMatchers_ne_empty (query : String) : queryMatchers query ≠ .empty := by
  intro h
  obtain ⟨pair, hpair⟩ := List.exists_mem_of_ne_nil _ (queryPairs_ne_nil query)
  have hmem := mem_queryMatchers_iff.2 ⟨List.mem_map_of_mem hpair, rfl⟩
  rw [h] at hmem
  exact absurd hmem List.not_mem_nil

namespace Exchange

variable {a b e : Exchange} {o o' : SnapshotOptions}

/-- The URL in the key of a recorded request is its path, whether the pattern asks for the path or
for the whole target. -/
lemma keyUrl_requestPattern : (e.requestPattern o).keyUrl = e.path := by
  unfold RequestPattern.keyUrl
  rcases hs : nonEmpty? (splitTarget e.target).2 with _ | q
  · rw [requestPattern_of_no_query hs]
    by_cases hpath : e.path = ""
    · simp [nonEmpty?, RequestPattern.blank, hpath]
    · simp [nonEmpty?_some hpath]
  · rw [requestPattern_of_query hs]
    rfl

/-- **The key of a recorded request shows its parts**, if there is no blank in its first line
besides the two that separate it. -/
lemma separable_requestPattern (hmethod : ' ' ∉ e.method.toList) (htarget : ' ' ∉ e.target.toList) :
    (e.requestPattern o).Separable where
  method_free := by rwa [method_requestPattern]
  url_free := by
    rw [keyUrl_requestPattern]
    exact fun h => htarget (mem_of_mem_path h)
  texts := by
    rw [bodyPatterns_requestPattern]
    simp

/-- **Recorded requests without blanks have the same key** only if they have the same pattern, also
if their stubs are made with different options. -/
lemma requestPattern_eq_of_key_eq (ha : ' ' ∉ a.method.toList) (ha' : ' ' ∉ a.target.toList)
    (hb : ' ' ∉ b.method.toList) (hb' : ' ' ∉ b.target.toList)
    (h : (a.toStub o).key = (b.toStub o').key) : a.requestPattern o = b.requestPattern o' := by
  obtain ⟨hmethod, hurl, hquery, hbody⟩ :=
    (separable_requestPattern ha ha').parts_eq_of_key_eq (separable_requestPattern hb hb') h
  simp only [method_requestPattern] at hmethod
  simp only [keyUrl_requestPattern] at hurl
  rcases hqa : nonEmpty? (splitTarget a.target).2 with _ | q <;>
    rcases hqb : nonEmpty? (splitTarget b.target).2 with _ | q'
  · rw [requestPattern_of_no_query hqa, requestPattern_of_no_query hqb] at hbody ⊢
    dsimp only at hbody
    rw [hmethod, hurl, hbody]
  · rw [requestPattern_of_no_query hqa, requestPattern_of_query hqb] at hquery
    exact absurd hquery.symm (queryMatchers_ne_empty q')
  · rw [requestPattern_of_query hqa, requestPattern_of_no_query hqb] at hquery
    exact absurd hquery (queryMatchers_ne_empty q)
  · rw [requestPattern_of_query hqa, requestPattern_of_query hqb] at hquery hbody ⊢
    dsimp only at hquery hbody
    rw [hmethod, hurl, hquery, hbody]

/-- **Keys are unambiguous.** The stubs of two recorded requests without blanks in method and target
have the same key exactly when they agree in the method, in both forms of the URL, and in the
conditions on parameters and body. Then they have the same pattern: nothing that is written into
parameters or bodies makes one key of two patterns.

**Proof sketch.** A key consists of these parts, so equal parts make equal keys. The other way round
the parts can be told apart (`requestPattern_eq_of_key_eq`). The key does not say which form its URL
has, but only patterns with a path have conditions on parameters, and these always have some. -/
theorem key_eq_iff_parts (ha : ' ' ∉ a.method.toList) (ha' : ' ' ∉ a.target.toList)
    (hb : ' ' ∉ b.method.toList) (hb' : ' ' ∉ b.target.toList) (o o' : SnapshotOptions) :
    ((a.toStub o).key = (b.toStub o').key ↔
      (a.toStub o).request.method = (b.toStub o').request.method ∧
      (a.toStub o).request.url = (b.toStub o').request.url ∧
      (a.toStub o).request.urlPath = (b.toStub o').request.urlPath ∧
      (a.toStub o).request.queryParameters = (b.toStub o').request.queryParameters ∧
      (a.toStub o).request.bodyPatterns = (b.toStub o').request.bodyPatterns) ∧
    ((a.toStub o).key = (b.toStub o').key → (a.toStub o).request = (b.toStub o').request) := by
  have hpattern : (a.toStub o).key = (b.toStub o').key →
      (a.toStub o).request = (b.toStub o').request := requestPattern_eq_of_key_eq ha ha' hb hb'
  refine ⟨⟨fun h => ?_, ?_⟩, hpattern⟩
  · rw [hpattern h]
    exact ⟨rfl, rfl, rfl, rfl, rfl⟩
  · rintro ⟨hmethod, hurl, hpath, hquery, hbody⟩
    exact RequestPattern.key_eq_of_parts hmethod hurl hpath hquery hbody

/-- Two spellings of the same parameters give one key. A value that spells the end of the conditions
on parameters and a condition on the body is told from such a condition. -/
theorem key_of_spelled_conditions :
    ((unanswered "GET" "/s?q=%5B+b&p" []).toStub .off).key =
      ((unanswered "GET" "/s?q=[%20b&p=" []).toStub .off).key ∧
    ((unanswered "GET" "/s?q=a%22%7D%5D%7D%7D+%5B%7B%22equalToJson%22:%221" []).toStub .off).key ≠
      ((unanswered "GET" "/s?q=a" (Utf8.encode "1")).toStub .off).key := by
  constructor
  · have hquery : ((unanswered "GET" "/s?q=%5B+b&p" []).toStub .off).request.queryParameters =
        ((unanswered "GET" "/s?q=[%20b&p=" []).toStub .off).request.queryParameters :=
      Dict.ext (by decide)
    exact (key_eq_iff_parts (by decide) (by decide) (by decide) (by decide) .off .off).1.2
      ⟨rfl, rfl, rfl, hquery, rfl⟩
  · intro h
    obtain ⟨-, -, -, hquery, -⟩ := (key_eq_iff_parts (by decide) (by decide) (by decide)
      (by decide) .off .off).1.1 h
    exact absurd (congrArg Dict.entries hquery) (by decide)

end Exchange

end HttpStub
