import HttpStub.Proofs.Exchange.Export
import HttpStub.Proofs.Exchange.Reply
import HttpStub.Proofs.Json.Rearranged
import HttpStub.Proofs.Server.Task

set_option autoImplicit false

/-!
# Recorded responses that are served again

A server that replays answers with the stub of an exchange as the backend has answered: with the
same status, with the same headers but for those that do not go into stubs, and with the same body,
where JSON is the same value, perhaps in another order.

## Main definitions

* `HttpStub.Exchange.Servable` — HTTP can carry the recorded response, and its body is a text.
* `HttpStub.Exchange.Repeats` — a response repeats the recorded one.

## Main results

* `HttpStub.Exchange.repeats_serve` — the response of a generated stub does.
* `HttpStub.Server.serve_repeats` — so does a server that answers with the stub.
-/

namespace HttpStub

/-- The octets of a text are decoded as this text. -/
lemma Utf8.decodeLossy_encode (s : String) : Utf8.decodeLossy (Utf8.encode s) = s := by
  have hchars : (fun c : Option Char => c.getD replacement) ∘ some = id := rfl
  rw [decodeLossy, scan_encode, List.map_map, hchars, List.map_id, String.ofList_toList]

namespace Exchange

variable {e : Exchange} {o : SnapshotOptions}

/-- The recorded response can be served: HTTP can carry its status and its headers, its body is a
text, and no floating point number is in it if it is JSON. -/
structure Servable (e : Exchange) : Prop where
  status : 100 ≤ e.status ∧ e.status ≤ 999
  headers : ∀ h ∈ e.responseHeaders, isFieldName h.1 = true ∧ isFieldValue (Utf8.encode h.2) = true
  text : ∃ t, e.responseBody = Utf8.encode t
  floatFree : ∀ v, Json.parse? e.responseBody = some v → v.floatFree = true

/-- **A response repeats the recorded one.** The status is the same. Under a name in any letter case
are the values that have been recorded under it, in their order, unless the name does not go into
stubs. The body is the same, octet by octet, unless it is JSON and announced as such; then it is
JSON for the same value up to the order of members, and of items if the options ask to sort them. -/
structure Repeats (e : Exchange) (o : SnapshotOptions) (answer : Response) : Prop where
  status : answer.status = e.status
  headers : ∀ name,
    (answer.headers.entries.filter fun h => Ascii.sameText h.1 name).map Prod.snd =
      if isSnapshotExcluded name then []
      else (e.responseHeaders.filter fun h => Ascii.sameText h.1 name).map fun h => Utf8.encode h.2
  text : isJsonMediaType e.responseHeaders o.jsonContentTypes = false ∨
      Json.parse? e.responseBody = none → answer.body = e.responseBody
  json : isJsonMediaType e.responseHeaders o.jsonContentTypes = true →
    ∀ v, Json.parse? e.responseBody = some v →
      ∃ w, Json.parse? answer.body = some w ∧ v.Rearranged o.sortArrayMembers w

/-! ## Bodies -/

/-- A body that is no JSON is served as a text. -/
lemma body_serve_of_text (h : e.jsonBody? o = none) :
    (e.reply o).serve.body = Utf8.encode (Utf8.decodeLossy e.responseBody) := by
  simp only [Reply.serve, reply, h, Reply.bodyBytes, Reply.blank]

/-- A body that is JSON is served as the compact text of its normal form. -/
lemma body_serve_of_json {v : Json.Value} (h : e.jsonBody? o = some v) :
    (e.reply o).serve.body = Utf8.encode (o.normalize v).compact := by
  simp only [Reply.serve, reply, h, Reply.bodyBytes, Json.Value.compact, Utf8.encode,
    String.toList_ofList]

/-- What is served of a JSON body is read as its normal form. -/
lemma parse?_body_serve {v : Json.Value} (h : e.jsonBody? o = some v) (hf : v.floatFree = true) :
    Json.parse? (e.reply o).serve.body = some (o.normalize v) := by
  rw [body_serve_of_json h, Json.parse?, Json.Decoder.run_encode]
  exact parseString?_normalize hf (fits_of_jsonBody? h)

/-! ## Responses -/

/-- **The response of a generated stub** repeats the recorded one. -/
lemma repeats_serve (he : e.Servable) (o : SnapshotOptions) : e.Repeats o (e.reply o).serve where
  status := by
    rw [Reply.serve, status_reply, statusOr, if_pos he.status]
  headers name := by
    have hlegal : (e.responseHeaders.filter fun h => Ascii.sameText h.1 name).filter isLegalField =
        e.responseHeaders.filter fun h => Ascii.sameText h.1 name := by
      refine List.filter_eq_self.2 fun h hh => ?_
      obtain ⟨hname, hvalue⟩ := he.headers h (List.mem_of_mem_filter hh)
      rw [isLegalField, hname, hvalue, Bool.and_self]
    rw [values_serve_reply, hlegal]
  text h := by
    have hnone : e.jsonBody? o = none := by
      unfold jsonBody?
      rcases h with h | h
      · rw [h]; rfl
      · rw [h, ite_self]
    obtain ⟨t, ht⟩ := he.text
    rw [body_serve_of_text hnone, ht, Utf8.decodeLossy_encode]
  json hmedia v hv := by
    have hsome : e.jsonBody? o = some v := by
      rw [jsonBody?, if_pos hmedia, hv]
    exact ⟨o.normalize v, parse?_body_serve hsome (he.floatFree v hv),
      Json.Value.rearranged_normalize _ _ v⟩

end Exchange

namespace Server

variable {s : Server} {r : Request} {stub : Stub}

/-- A server that replays serves the stub that is chosen, if it fits. -/
lemma response_serve_of_matched (hmode : s.mode = .replay)
    (hmatched : (select (s.addressed r) s.stubs).matched = true)
    (hstub : (select (s.addressed r) s.stubs).stub = some stub) (time : String) (d : Delivery) :
    (s.serve time d r).response = stub.response.serve := by
  have hbackend : ¬ s.mode.usesBackend = true := by
    rw [hmode]
    exact Bool.false_ne_true
  rw [response_serve, if_neg hbackend]
  simp only [replay, hmatched, hstub]

/-- **Recorded responses are served again**: where a server that replays chooses the stub of an
exchange, it repeats the response of the exchange. -/
theorem serve_repeats {e : Exchange} {o : SnapshotOptions} (he : e.Servable)
    (hmode : s.mode = .replay) (hmatched : (select (s.addressed r) s.stubs).matched = true)
    (hstub : (select (s.addressed r) s.stubs).stub = some (e.toStub o)) (time : String)
    (d : Delivery) : e.Repeats o (s.serve time d r).response := by
  rw [response_serve_of_matched hmode hmatched hstub]
  exact Exchange.repeats_serve he o

end Server

/-! ## An array with cookies -/

/-- A request for `/x` that was answered with an array and two headers of one name. -/
def Exchange.withCookies : Exchange :=
  ⟨"GET", "/x", [], 200,
    [("Content-Type", jsonMediaType), ("Set-Cookie", "a"), ("Date", "today"), ("set-cookie", "b")],
    Utf8.encode "[2,1]"⟩

/-- The options that ask to sort arrays. -/
def SnapshotOptions.sorting : SnapshotOptions :=
  { SnapshotOptions.off with sortArrayMembers := true }

/-- The server that has the stub of this exchange alone. -/
def Server.withCookies : Server :=
  (default : Server).addStubs [Exchange.withCookies.toStub .sorting]

/-- The value of its body. -/
lemma Exchange.parse?_withCookies :
    Json.parse? withCookies.responseBody =
      some (.array [.number (.ofNat 2), .number (.ofNat 1)]) := by
  rfl

/-- HTTP can carry its response. -/
lemma Exchange.servable_withCookies : withCookies.Servable where
  status := by decide
  headers := by decide
  text := ⟨"[2,1]", rfl⟩
  floatFree v hv := by
    rw [parse?_withCookies] at hv
    obtain rfl := Option.some.inj hv
    rfl

/-- An array is served again, with both of its cookies. -/
theorem Server.serve_repeats_withCookies :
    Exchange.withCookies.Servable ∧ withCookies.mode = .replay ∧
      (select (withCookies.addressed (.ofTarget "GET" "/x")) withCookies.stubs).matched = true ∧
      (select (withCookies.addressed (.ofTarget "GET" "/x")) withCookies.stubs).stub =
        some (Exchange.withCookies.toStub .sorting) ∧
      Exchange.withCookies.Repeats .sorting
        (withCookies.serve "now" .unreachable (.ofTarget "GET" "/x")).response := by
  have hmode : withCookies.mode = .replay := rfl
  have hmatched : (select (withCookies.addressed (.ofTarget "GET" "/x"))
      withCookies.stubs).matched = true := by
    rfl
  have hstub : (select (withCookies.addressed (.ofTarget "GET" "/x")) withCookies.stubs).stub =
      some (Exchange.withCookies.toStub .sorting) := by
    rfl
  exact ⟨Exchange.servable_withCookies, hmode, hmatched, hstub,
    serve_repeats Exchange.servable_withCookies hmode hmatched hstub "now" .unreachable⟩

end HttpStub
