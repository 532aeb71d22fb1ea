import HttpStub.Proofs.Exchange.Pattern
import HttpStub.Proofs.Stub.Document
import HttpStub.Server.Admin

set_option autoImplicit false

/-!
# Exported stubs

The stub of an exchange goes out in the answer to a request for a snapshot, and comes back when this
answer is imported. All of it comes back but one thing: a response body that was recorded as the
JSON text `null` is kept as the value `null`, which is written as a member and read as no member, so
that the response has no body any more.

## Main definitions

* `HttpStub.Exchange.exported` — the answer with the stub of an exchange.

## Main results

* `HttpStub.Exchange.response_performSnapshot` — when a server gives this answer.
* `HttpStub.Exchange.performImport_exported` — what a server makes of it.
* `HttpStub.Exchange.bodyBytes_readBack_iff` — the body comes back unless it was `null`.
* `HttpStub.Exchange.import_export_iff` — the stub of an exchange comes back as it was, with the
  same body exactly if the exchange was not answered with `null`.
-/

namespace HttpStub

open Json (Value Decoder)

namespace Exchange

variable {e : Exchange} {o : SnapshotOptions} {P : Value → Prop}

/-! ## The JSON values of the stub -/

/-- The conditions on the body hold texts and nothing else. -/
lemma allJson_requestPattern (h : ∀ t, P (.string t)) : (e.requestPattern o).AllJson P := by
  intro b hb v hv
  rw [bodyPatterns_requestPattern, Option.mem_toList, Option.map_eq_some_iff] at hb
  obtain ⟨w, -, rfl⟩ := hb
  obtain rfl : Value.string (o.normalize w).compact = v := Option.some.inj hv
  exact h _

/-- The pattern of a recorded request is read back as it was. -/
lemma readBack_requestPattern : (e.requestPattern o).readBack = e.requestPattern o := by
  have hgiven : (e.requestPattern o).AllJson (Value.Given 0) :=
    allJson_requestPattern fun _ => ⟨Value.noConfusion, trivial, Nat.le_refl _⟩
  exact RequestPattern.readBack_eq hgiven

/-- The JSON body of the response is the normal form of the recorded one. -/
lemma jsonBody_reply : (e.reply o).jsonBody = (e.jsonBody? o).map o.normalize := by
  unfold reply
  split
  · next h => rw [h]; rfl
  · next h => rw [h]; rfl

/-- What is recorded as a JSON body fits the room of the reader. -/
lemma fits_of_jsonBody? {v : Value} (h : e.jsonBody? o = some v) : v.Fits Decoder.maxDepth := by
  unfold jsonBody? at h
  split at h
  · exact Json.fits_of_parse? h
  · cases h

/-- The stub of an exchange can be written and read back if the JSON body of its response has no
floating point number and opens no more than the stubs of a document leave. -/
lemma readable_toStub
    (h : ∀ v ∈ (e.toStub o).response.jsonBody,
      v.floatFree = true ∧ v.depth ≤ Document.bodyRoom) :
    (e.toStub o).AllJson (Value.Readable Document.conditionRoom)
      (Value.Readable Document.bodyRoom) := by
  refine ⟨allJson_requestPattern (Value.readable_string _), fun v hv => ?_⟩
  obtain ⟨hf, hd⟩ := h v hv
  have hnormal : (e.jsonBody? o).map o.normalize = some v := jsonBody_reply ▸ hv
  obtain ⟨w, hw, rfl⟩ := Option.map_eq_some_iff.1 hnormal
  exact ⟨hf, (fits_of_jsonBody? hw).normalize.distinctKeys, hd⟩

/-! ## The body of the response -/

/-- A response whose JSON body was not recorded as `null` comes back as it was. -/
lemma readBack_reply_of_ne (h : e.jsonBody? o ≠ some .null) : (e.reply o).readBack = e.reply o := by
  have hbind : (e.reply o).jsonBody.bind Value.unlessNull = (e.reply o).jsonBody := by
    rw [jsonBody_reply]
    rcases hv : e.jsonBody? o with _ | v
    · rfl
    · have hne : o.normalize v ≠ .null := fun hnull =>
        h (by rw [hv, Value.normalize_eq_null_iff.1 hnull])
      exact Value.unlessNull_eq hne
  rw [Reply.readBack, hbind]

/-- The response of a stub that was answered with `null` has this value as its body. -/
lemma reply_of_null (h : e.jsonBody? o = some .null) :
    e.reply o = ⟨e.status, none, some .null, e.replyHeaders, none⟩ := by
  have hnormal : o.normalize .null = .null := Value.normalize_eq_null_iff.2 rfl
  simp only [reply, h, hnormal, Reply.blank]

/-- **The body comes back** unless it was recorded as `null`. -/
lemma bodyBytes_readBack_iff :
    (e.reply o).readBack.bodyBytes = (e.reply o).bodyBytes ↔ e.jsonBody? o ≠ some .null := by
  constructor
  · intro hbytes hnull
    -- the value is left out when it is read, and nothing is served in its place
    have hempty : (e.reply o).readBack.bodyBytes = [] := by rw [reply_of_null hnull]; rfl
    have htext : (e.reply o).bodyBytes = Utf8.encode "null" := by rw [reply_of_null hnull]; rfl
    rw [hempty, htext] at hbytes
    exact absurd hbytes (by decide)
  · intro h
    rw [readBack_reply_of_ne h]

/-! ## Export and import -/

/-- The answer to a request for a snapshot, with the stub of the exchange in it. -/
def exported (e : Exchange) (o : SnapshotOptions) : Response :=
  .ofJson 200 (Document.text ⟨[e.toStub o]⟩)

/-- A single exchange leads to its own stub, whether or not repetitions are chained. -/
lemma snapshot_singleton (o : SnapshotOptions) (e : Exchange) : snapshot o [e] = [e.toStub o] := by
  have hstubs : (if o.repeatsAsScenarios then scenarios o [e] else deduplicated o [e]) =
      [e.toStub o] := by
    cases o.repeatsAsScenarios <;> rfl
  rw [snapshot, hstubs, List.mergeSort_singleton]

/-- **A snapshot of a single exchange** is answered with its stub. -/
lemma response_performSnapshot {server : Server} {body : Bytes} (hmode : server.mode = .record)
    (hdrain : (server.recorder.drain (SnapshotRequest.ofBody body).1.filter?.1).1 = [e]) :
    (server.performSnapshot body).response =
      e.exported (server.settings.snapshotOptions
        (SnapshotRequest.ofBody body).1.repeatsAsScenarios) := by
  simp only [Server.performSnapshot, if_pos hmode, Server.takeSnapshot, hdrain, snapshot_singleton]
  rfl

/-- A stub that is added can be told from the server. -/
lemma stub_eq_of_addStubs_eq {server : Server} {s t : Stub}
    (h : server.addStubs [s] = server.addStubs [t]) : s = t := by
  have hstubs : server.stubs ++ [s] = server.stubs ++ [t] := congrArg Server.stubs h
  exact List.singleton_inj.1 (List.append_cancel_left hstubs)

/-- **What is imported from the stub of an exchange**: one stub, as it is read back. -/
lemma performImport_exported (server : Server)
    (h : ∀ v ∈ (e.toStub o).response.jsonBody,
      v.floatFree = true ∧ v.depth ≤ Document.bodyRoom) :
    ∃ events, server.performImport (e.exported o).body =
      ⟨.blank 200, events, server.addStubs [(e.toStub o).readBack]⟩ := by
  have hall : Document.AllJson (Value.Readable Document.conditionRoom)
      (Value.Readable Document.bodyRoom) ⟨[e.toStub o]⟩ := by
    intro s hs
    rw [List.mem_singleton.1 hs]
    exact readable_toStub h
  have hread : Document.read (e.exported o).body = .ok ⟨[(e.toStub o).readBack]⟩ := by
    rw [exported, Response.ofJson, Response.ofText, Document.read_encode, Document.ofText_text hall]
    rfl
  simp only [Server.performImport, hread]
  exact ⟨_, rfl⟩

/-- **The stub of an exchange comes back** when it is exported and imported, to any server: one stub
with the same pattern, status and headers, and with the same body exactly if the exchange was not
answered with JSON that is `null`. -/
theorem import_export_iff (e : Exchange) (o : SnapshotOptions) (server : Server)
    (h : ∀ v ∈ (e.toStub o).response.jsonBody, v.floatFree = true ∧ v.depth ≤ 120) :
    ∃ s : Stub,
      (server.performImport (e.exported o).body).response = .blank 200 ∧
      (server.performImport (e.exported o).body).server = server.addStubs [s] ∧
      s.request = (e.toStub o).request ∧
      s.response.status = (e.toStub o).response.status ∧
      s.response.headers = (e.toStub o).response.headers ∧
      (s.response.bodyBytes = (e.toStub o).response.bodyBytes ↔ e.jsonBody? o ≠ some .null) := by
  have hroom : ∀ v ∈ (e.toStub o).response.jsonBody,
      v.floatFree = true ∧ v.depth ≤ Document.bodyRoom :=
    fun v hv => ⟨(h v hv).1, (h v hv).2.trans (by decide)⟩
  obtain ⟨events, himport⟩ := performImport_exported server hroom
  rw [himport]
  exact ⟨(e.toStub o).readBack, rfl, rfl, readBack_requestPattern, rfl, rfl, bodyBytes_readBack_iff⟩

/-- A request for `/x` that was answered with a JSON text. -/
def answeredWith (json : String) : Exchange :=
  ⟨"GET", "/x", [], 200, [("content-type", jsonMediaType)], Utf8.encode json⟩

/-- The stub of an exchange that was answered with `[null]` comes back with its body. -/
theorem import_export_of_array :
    (∀ v ∈ ((answeredWith "[null]").toStub .off).response.jsonBody,
      v.floatFree = true ∧ v.depth ≤ 120) ∧
    ∃ s : Stub,
      ((default : Server).performImport ((answeredWith "[null]").exported .off).body).server =
        (default : Server).addStubs [s] ∧
      s.response.bodyBytes = ((answeredWith "[null]").toStub .off).response.bodyBytes := by
  have hbody : ∀ v ∈ ((answeredWith "[null]").toStub .off).response.jsonBody,
      v.floatFree = true ∧ v.depth ≤ 120 := by
    intro v hv
    obtain rfl : Value.array [.null] = v := Option.some.inj hv
    decide
  obtain ⟨s, -, hserver, -, -, -, hbytes⟩ :=
    import_export_iff (answeredWith "[null]") .off default hbody
  exact ⟨hbody, s, hserver, hbytes.2 fun hnull => Value.noConfusion (Option.some.inj hnull)⟩

/-- Not every stub of an exchange comes back with its body: the text `null` is lost. -/
theorem not_forall_import_export :
    ¬ ∀ (e : Exchange) (o : SnapshotOptions) (server : Server),
      (∀ v ∈ (e.toStub o).response.jsonBody, v.floatFree = true ∧ v.depth ≤ 120) →
        ∃ s : Stub,
          (server.performImport (e.exported o).body).server = server.addStubs [s] ∧
          s.request = (e.toStub o).request ∧
          s.response.status = (e.toStub o).response.status ∧
          s.response.headers = (e.toStub o).response.headers ∧
          s.response.bodyBytes = (e.toStub o).response.bodyBytes := by
  intro h
  have hjson : (answeredWith "null").jsonBody? .off = some .null := by
    rfl
  have hvalue : ∀ v ∈ ((answeredWith "null").toStub .off).response.jsonBody, v = .null :=
    fun v hv => (Option.some.inj hv).symm
  obtain ⟨s, hserver, -, -, -, hbytes⟩ :=
    h (answeredWith "null") .off default fun v hv => by rw [hvalue v hv]; decide
  obtain ⟨events, himport⟩ := performImport_exported (o := .off) (e := answeredWith "null") default
    fun v hv => by rw [hvalue v hv]; decide
  rw [himport] at hserver
  obtain rfl := stub_eq_of_addStubs_eq hserver
  exact bodyBytes_readBack_iff.1 hbytes hjson

end Exchange

end HttpStub
