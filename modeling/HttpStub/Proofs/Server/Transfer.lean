import HttpStub.Proofs.Exchange.Export
import HttpStub.Proofs.Exchange.Scenario
import HttpStub.Proofs.Server.Reachable
import HttpStub.Proofs.Stub.Nesting

set_option autoImplicit false

/-!
# From server to server

A server answers with documents of stubs: of all that it has, or of a snapshot. Another server
imports such a document if its JSON values fit the reader, and then has the same stubs in the same
order. But a stub that was added alone may nest two levels deeper than a document leaves room for,
and a recorded response four levels deeper. A document with such a stub is refused.

## Main definitions

* `HttpStub.Server.snapshotDocument` — the document that answers a request for a snapshot.
* `HttpStub.Server.Accepts`, `HttpStub.Server.Refuses` — what comes of a request to import.

## Main results

* `HttpStub.distinctKeys_of_mem_snapshot` — the stubs of a snapshot repeat no name in an object.
* `HttpStub.Server.accepts_of_shallow`, `HttpStub.Server.refuses_of_not_shallow` — which documents
  are imported.
* `HttpStub.Server.transfer_iff_shallow` — which of the documents that a server answers with.
-/

namespace HttpStub

open Json (Value Decoder)

/-! ## The stubs of a snapshot -/

section Snapshot

variable {o : SnapshotOptions} {es : List Exchange} {s : Stub}

/-- The stubs of a snapshot are made from exchanges, but for their part in a scenario. -/
lemma exists_of_mem_snapshot (h : s ∈ snapshot o es) :
    ∃ e : Exchange, s.request = (e.toStub o).request ∧ s.response = (e.toStub o).response := by
  cases ho : o.repeatsAsScenarios with
  | false =>
    obtain ⟨l, e, r, -, rfl, -⟩ := mem_deduplicated_iff.1 ((mem_snapshot_iff ho).1 h)
    exact ⟨e, rfl, rfl⟩
  | true =>
    rw [snapshot_eq_map ho] at h
    obtain ⟨i, -, rfl⟩ := List.mem_map.1 h
    obtain ⟨name, required, next, hstub⟩ := exists_scenarioStub_eq o es i
    rw [hstub]
    exact ⟨es.get i, rfl, rfl⟩

/-- **The stubs of a snapshot** repeat no name in an object. -/
lemma distinctKeys_of_mem_snapshot (h : s ∈ snapshot o es) :
    s.AllJson Value.DistinctKeys Value.DistinctKeys := by
  obtain ⟨e, hrequest, hresponse⟩ := exists_of_mem_snapshot h
  constructor
  · rw [hrequest]
    exact Exchange.allJson_requestPattern fun _ => trivial
  · rw [hresponse]
    intro v hv
    have hnormal : (e.jsonBody? o).map o.normalize = some v := Exchange.jsonBody_reply ▸ hv
    obtain ⟨w, hw, rfl⟩ := Option.map_eq_some_iff.1 hnormal
    exact (Exchange.fits_of_jsonBody? hw).normalize.distinctKeys

end Snapshot

/-- A response with a JSON text has the given status. -/
lemma Response.status_ofJson (status : UInt16) (text : String) :
    (ofJson status text).status = status := rfl

/-- Its body is the text. -/
lemma Response.body_ofJson (status : UInt16) (text : String) :
    (ofJson status text).body = Utf8.encode text := rfl

namespace Server

variable {s t : Server} {d : Document}

/-! ## Answers -/

/-- The document that answers a request for a snapshot. -/
def snapshotDocument (s : Server) (body : Bytes) : Document :=
  if s.mode = .record then ⟨(s.takeSnapshot (SnapshotRequest.ofBody body).1).1⟩ else ⟨[]⟩

/-- The document of a snapshot repeats no name in an object. -/
lemma distinctKeys_snapshotDocument (s : Server) (body : Bytes) :
    (s.snapshotDocument body).AllJson Value.DistinctKeys Value.DistinctKeys := by
  unfold snapshotDocument
  split
  · exact fun _ hs => distinctKeys_of_mem_snapshot hs
  · exact fun _ hs => absurd hs List.not_mem_nil

/-- A request for all stubs is answered with their document. -/
lemma administer_list (s : Server) (body : Bytes) :
    (s.administer "GET" "/__admin/mappings" body).response =
      .ofJson 200 (Document.text ⟨s.stubs⟩) := by
  rw [administer_of_task (by decide : AdminTask.of? _ _ = some .listStubs)]
  rfl

/-- The task to take a snapshot is answered with its document. -/
lemma response_perform_snapshot (s : Server) (body : Bytes) :
    (s.perform .snapshot body).response = .ofJson 200 (s.snapshotDocument body).text := by
  rw [perform, performSnapshot, snapshotDocument]
  split <;> rfl

/-- So is the request for it. -/
lemma administer_snapshot (s : Server) (body : Bytes) :
    (s.administer "POST" "/__admin/recordings/snapshot" body).response =
      .ofJson 200 (s.snapshotDocument body).text := by
  rw [administer_of_task (by decide : AdminTask.of? _ _ = some .snapshot),
    response_perform_snapshot]

/-- A request to import stubs is the task to do so. -/
lemma administer_import (t : Server) (body : Bytes) :
    t.administer "POST" "/__admin/mappings/import" body = t.performImport body :=
  administer_importStubs (by decide) t body

/-! ## Imports -/

/-- The server accepts the body as a document and adds the stubs. -/
structure Accepts (t : Server) (body : Bytes) (stubs : List Stub) : Prop where
  status : (t.administer "POST" "/__admin/mappings/import" body).response.status = 200
  server : (t.administer "POST" "/__admin/mappings/import" body).server = t.addStubs stubs

/-- The server refuses the body as a document and stays as it is. -/
structure Refuses (t : Server) (body : Bytes) : Prop where
  status : (t.administer "POST" "/__admin/mappings/import" body).response.status = 400
  server : (t.administer "POST" "/__admin/mappings/import" body).server = t

/-- **A document that fits the reader is imported** as it is read back. -/
lemma accepts_of_shallow (t : Server) (hd : d.AllJson Value.Legible Value.Legible)
    (hshallow : d.Shallow) : t.Accepts (Utf8.encode d.text) d.readBack.stubs := by
  have hread : Document.read (Utf8.encode d.text) = .ok d.readBack :=
    (Document.read_encode d.text).trans ((Document.ofText_text_iff hd).2 hshallow)
  constructor
  · rw [administer_import, performImport, hread]
    rfl
  · rw [administer_import, performImport, hread]

/-- **A document that does not fit the reader is refused.** -/
lemma refuses_of_not_shallow (t : Server) (hd : d.AllJson Value.Legible Value.Legible)
    (hshallow : ¬ d.Shallow) : t.Refuses (Utf8.encode d.text) := by
  rcases hread : Document.read (Utf8.encode d.text) with e | d'
  · constructor
    · rw [administer_import, performImport, hread]
      rfl
    · rw [administer_import, performImport, hread]
  · rw [Document.read_encode] at hread
    exact absurd (Document.shallow_of_ofText_text hd hread) hshallow

/-- What comes of an answer with a document whose values can be read back at all. -/
lemma transfer_of_answer {answer : Response} (hanswer : answer = .ofJson 200 d.text) (t : Server)
    (hd : d.AllJson Value.Legible Value.Legible) :
    answer.status = 200 ∧ (d.Shallow → t.Accepts answer.body d.readBack.stubs) ∧
      (¬ d.Shallow → t.Refuses answer.body) := by
  rw [hanswer, Response.status_ofJson, Response.body_ofJson]
  exact ⟨rfl, accepts_of_shallow t hd, refuses_of_not_shallow t hd⟩

/-- **The documents that a server answers with**, without floating point numbers, are accepted by
any server if they fit the reader, and refused if they do not. The stubs of a server come back as
they are, in the same order. -/
theorem transfer_iff_shallow (hs : s.Reachable) (body : Bytes) (t : Server) :
    (Document.FloatFree ⟨s.stubs⟩ →
      let answer := (s.administer "GET" "/__admin/mappings" body).response
      answer.status = 200 ∧ (Document.Shallow ⟨s.stubs⟩ → t.Accepts answer.body s.stubs) ∧
        (¬ Document.Shallow ⟨s.stubs⟩ → t.Refuses answer.body)) ∧
    ((s.snapshotDocument body).FloatFree →
      let answer := (s.administer "POST" "/__admin/recordings/snapshot" body).response
      answer.status = 200 ∧
        ((s.snapshotDocument body).Shallow →
          t.Accepts answer.body (s.snapshotDocument body).readBack.stubs) ∧
        (¬ (s.snapshotDocument body).Shallow → t.Refuses answer.body)) := by
  constructor
  · intro hf
    have hgiven : Document.AllJson (Value.Given Stub.conditionRoom) (Value.Given Stub.bodyRoom)
        ⟨s.stubs⟩ := hs.given
    have hlegible := Document.legible hf fun stub hstub =>
      (hgiven stub hstub).imp (fun _ hv => hv.fits.distinctKeys) fun _ hv => hv.fits.distinctKeys
    have htransfer := transfer_of_answer (administer_list s body) t hlegible
    rwa [Document.readBack_eq hgiven] at htransfer
  · intro hf
    exact transfer_of_answer (administer_snapshot s body) t
      (Document.legible hf (distinctKeys_snapshotDocument s body))

end Server

/-! ## Nested arrays -/

/-- An array with this many arrays inside, each the only item of the one around it. -/
def nestedArrays : Nat → Value
  | 0 => .array []
  | n + 1 => .array [nestedArrays n]

/-- Nested arrays are as deep as there are arrays, the outermost one among them. -/
lemma depth_nestedArrays (n : Nat) : (nestedArrays n).depth = n + 1 := by
  induction n with
  | zero => rfl
  | succ n ih => simp [nestedArrays, Value.depth, Json.itemsDepth, ih]

/-- Nested arrays can be read back, if there is room. -/
lemma legible_nestedArrays (n : Nat) : (nestedArrays n).Legible := by
  induction n with
  | zero => simp [nestedArrays, Value.legible_array]
  | succ n ih => simpa [nestedArrays, Value.legible_array] using ih

/-- Nested arrays are a value. -/
lemma nestedArrays_ne_null (n : Nat) : nestedArrays n ≠ .null := by
  cases n <;> exact Value.noConfusion

/-- The stub that is answered with nested arrays. -/
def Stub.nesting (n : Nat) : Stub :=
  { Stub.blank with response := { Reply.blank with jsonBody := some (nestedArrays n) } }

section Nesting

variable {P Q : Value → Prop} {n : Nat}

/-- The nested arrays are the only value of the stub. -/
lemma Stub.allJson_nesting : (Stub.nesting n).AllJson P Q ↔ Q (nestedArrays n) := by
  constructor
  · exact fun h => h.response _ rfl
  · refine fun h => ⟨fun _ hb => absurd hb List.not_mem_nil, fun v hv => ?_⟩
    obtain rfl : nestedArrays n = v := Option.some.inj hv
    exact h

/-- They are the only value of a document with this stub alone. -/
lemma Document.allJson_nesting :
    Document.AllJson P Q ⟨[Stub.nesting n]⟩ ↔ Q (nestedArrays n) :=
  List.forall_mem_singleton.trans Stub.allJson_nesting

/-- This document can be read back, if there is room. -/
lemma Document.legible_nesting (n : Nat) :
    Document.AllJson Value.Legible Value.Legible ⟨[Stub.nesting n]⟩ :=
  Document.allJson_nesting.2 (legible_nestedArrays n)

/-- It has no floating point numbers. -/
lemma Document.floatFree_nesting (n : Nat) : Document.FloatFree ⟨[Stub.nesting n]⟩ :=
  Document.allJson_nesting.2 (legible_nestedArrays n).floatFree

/-- **It fits the reader** as long as the arrays leave room for the document around them. -/
lemma Document.shallow_nesting_iff : Document.Shallow ⟨[Stub.nesting n]⟩ ↔ n < bodyRoom := by
  refine Document.allJson_nesting.trans ?_
  rw [depth_nestedArrays, Nat.add_one_le_iff]

/-- Such a stub can be read alone if its arrays fit there. -/
lemma Stub.read_nesting (hn : n < Stub.bodyRoom) :
    Stub.read (Utf8.encode (Stub.nesting n).text) = .ok (Stub.nesting n) := by
  have hfits : (nestedArrays n).Fits Stub.bodyRoom :=
    ⟨(legible_nestedArrays n).distinctKeys, (depth_nestedArrays n).trans_le hn⟩
  have hgiven : (Stub.nesting n).Given :=
    Stub.allJson_nesting.2 ⟨nestedArrays_ne_null n, hfits⟩
  have hrestores := @Stub.restores 121 (Stub.nesting n)
    (Stub.allJson_nesting.2 ⟨(legible_nestedArrays n).floatFree, hfits⟩)
  rw [Stub.readBack_eq hgiven] at hrestores
  exact (Decoder.run_encode _ _).trans hrestores.runString

end Nesting

namespace Server

/-- The server at its start, after this stub has been added. -/
def nesting (n : Nat) : Server :=
  ((ofSettings .default).administer "POST" "/__admin/mappings"
    (Utf8.encode (Stub.nesting n).text)).server

/-- A server gets into the state with this stub. -/
lemma reachable_nesting (n : Nat) : (nesting n).Reachable :=
  .administer (.start .default) _ _ _

/-- The stub is accepted alone as long as it fits by itself. -/
lemma stubs_nesting {n : Nat} (hn : n < Stub.bodyRoom) : (nesting n).stubs = [Stub.nesting n] := by
  have htask : AdminTask.of? "POST" "/__admin/mappings" = some .addStub := by decide
  rw [nesting, administer_of_task htask, perform, performAdd, Stub.read_nesting hn]
  rfl

/-- Arrays that just fit a document come back. -/
theorem transfer_of_shallow_arrays :
    (nesting 122).Reachable ∧ Document.FloatFree ⟨(nesting 122).stubs⟩ ∧
      Document.Shallow ⟨(nesting 122).stubs⟩ ∧
      (default : Server).Accepts
        ((nesting 122).administer "GET" "/__admin/mappings" []).response.body
        (nesting 122).stubs := by
  have hstubs : (nesting 122).stubs = [Stub.nesting 122] := stubs_nesting (by decide)
  have hf : Document.FloatFree ⟨(nesting 122).stubs⟩ := by
    rw [hstubs]
    exact Document.floatFree_nesting 122
  have hshallow : Document.Shallow ⟨(nesting 122).stubs⟩ := by
    rw [hstubs]
    exact Document.shallow_nesting_iff.2 (by decide)
  obtain ⟨-, haccepts, -⟩ := (transfer_iff_shallow (reachable_nesting 122) [] default).1 hf
  exact ⟨reachable_nesting 122, hf, hshallow, haccepts hshallow⟩

/-- Not every document that a server answers with is accepted: arrays that can be added with a stub
alone need not fit a document. -/
theorem not_forall_transfer :
    ¬ ∀ s : Server, s.Reachable → Document.FloatFree ⟨s.stubs⟩ → ∀ (body : Bytes) (t : Server),
      (t.administer "POST" "/__admin/mappings/import"
        (s.administer "GET" "/__admin/mappings" body).response.body).response.status = 200 := by
  intro h
  have hstubs : (nesting 123).stubs = [Stub.nesting 123] := stubs_nesting (by decide)
  have hlegible : Document.AllJson Value.Legible Value.Legible ⟨(nesting 123).stubs⟩ := by
    rw [hstubs]
    exact Document.legible_nesting 123
  have hdeep : ¬ Document.Shallow ⟨(nesting 123).stubs⟩ := by
    rw [hstubs, Document.shallow_nesting_iff]
    decide
  have hf : Document.FloatFree ⟨(nesting 123).stubs⟩ := by
    rw [hstubs]
    exact Document.floatFree_nesting 123
  obtain ⟨-, -, hrefuses⟩ := transfer_of_answer (administer_list (nesting 123) []) default hlegible
  have hstatus := h (nesting 123) (reachable_nesting 123) hf [] default
  rw [(hrefuses hdeep).status] at hstatus
  exact absurd hstatus (by decide)

end Server

end HttpStub
