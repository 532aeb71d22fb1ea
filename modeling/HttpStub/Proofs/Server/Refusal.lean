import HttpStub.Proofs.Json.Restore
import HttpStub.Proofs.Server.Task
import HttpStub.Proofs.Stub.Listing

set_option autoImplicit false

/-!
# Requests that are refused

A request of an administrator that is refused leaves the server as it is. A document of stubs is
refused as a whole if any of its stubs cannot be read; otherwise all of them are added.

## Main results

* `HttpStub.Server.administer_refused` — what is refused changes nothing.
* `HttpStub.Server.administer_atomic` — the same, and that a document is imported as a whole.
-/

namespace HttpStub

open Json (Outline Reading Value)

namespace Server

variable {s : Server}

/-! ## What is refused -/

/-- **What is refused changes nothing.** -/
lemma administer_refused {method path : String} {body : Bytes}
    (h : (s.administer method path body).response.status = 400 ∨
      (s.administer method path body).response.status = 404) :
    (s.administer method path body).server = s := by
  cases htask : AdminTask.of? method path with
  | none => rw [administer, htask]
  | some task =>
    rw [administer_of_task htask] at h ⊢
    exact (performs s task body).eq_of_refused h

/-! ## Documents -/

/-- **A document is imported as a whole**, if all of its stubs can be read. -/
lemma performImport_of_spells {body : Bytes} {os : List Outline} {stubs : List Stub}
    (hlists : Document.Lists body os) (h : List.Forall₂ Document.Spells os stubs) :
    (s.performImport body).response.status = 200 ∧
      (s.performImport body).server = s.addStubs stubs := by
  have hread : Document.read body = .ok ⟨stubs⟩ := Document.read_eq_ok_iff.2 ⟨os, hlists, h⟩
  rw [performImport, hread]
  exact ⟨rfl, rfl⟩

/-- **Anything else is refused.** -/
lemma performImport_of_not_spells {body : Bytes}
    (h : ∀ os stubs, Document.Lists body os → ¬ List.Forall₂ Document.Spells os stubs) :
    (s.performImport body).response.status = 400 ∧ (s.performImport body).server = s := by
  cases hread : Document.read body with
  | error e =>
    rw [performImport, hread]
    exact ⟨rfl, rfl⟩
  | ok d =>
    obtain ⟨os, hlists, hstubs⟩ := Document.read_eq_ok_iff.1 hread
    exact absurd hstubs (h os d.stubs hlists)

/-- **Refused requests of administrators leave no trace.** Whatever is answered with 400 or 404
leaves the server as it was. A request to import, by whatever spelling of its path, is answered with
200 if the body is a document all of whose stubs can be read, and then they are added in the order
of the document. Otherwise it is answered with 400, and nothing is added, not even the stubs in
front of one that cannot be read. -/
theorem administer_atomic (s : Server) (method path : String) (body : Bytes) :
    let a := s.administer method path body
    (a.response.status = 400 ∨ a.response.status = 404 → a.server = s) ∧
    (method = "POST" → adminSegments path = ["mappings", "import"] →
      (∀ os stubs, Document.Lists body os → List.Forall₂ Document.Spells os stubs →
        a.response.status = 200 ∧ a.server = { s with stubs := s.stubs ++ stubs }) ∧
      ((∀ os stubs, Document.Lists body os → ¬ List.Forall₂ Document.Spells os stubs) →
        a.response.status = 400 ∧ a.server = s) ∧
      ∀ os, Document.Lists body os → (∃ o ∈ os, ∀ stub, ¬ Document.Spells o stub) →
        a.response.status = 400 ∧ a.server = s) := by
  intro a
  refine ⟨administer_refused, fun hmethod hpath => ?_⟩
  have ha : a = s.performImport body := by
    subst hmethod
    exact administer_importStubs hpath s body
  rw [ha]
  refine ⟨fun os stubs => performImport_of_spells, performImport_of_not_spells, ?_⟩
  rintro os hlists ⟨o, ho, hbroken⟩
  refine performImport_of_not_spells fun os' stubs hlists' hstubs => ?_
  -- a text has one list only, so the item would be one of those that are read
  obtain rfl := hlists.unique hlists'
  obtain ⟨i, hi, rfl⟩ := List.getElem_of_mem ho
  exact hbroken _ (hstubs.get hi (hstubs.length_eq ▸ hi))

/-- A document with two stubs, the second of which cannot be read. -/
def brokenDocument : Value :=
  .object [("mappings", .array [.object [], .object [("request", .bool true)]])]

/-- The items that this document lists. -/
lemma lists_brokenDocument :
    Document.Lists (Utf8.encode brokenDocument.compact)
      [.object [] true, .object [(some "request", .bool true)] true] := by
  have hreading : Reading.ofBytes (Utf8.encode brokenDocument.compact) =
      ⟨brokenDocument.outline, true⟩ :=
    (Json.Decoder.ofBytes_encode _).trans (Reading.ofString_compact rfl)
  constructor
  · rw [hreading]
  · rw [hreading]
    exact ⟨_, rfl, by simp [Json.OthersPass], .inr rfl⟩

/-- The first stub is not imported either. -/
theorem import_of_broken :
    adminSegments "/__admin//mappings/import" = ["mappings", "import"] ∧
    Document.Spells (.object [] true) Stub.blank ∧
    ((default : Server).administer "POST" "/__admin//mappings/import"
      (Utf8.encode brokenDocument.compact)).response.status = 400 ∧
    ((default : Server).administer "POST" "/__admin//mappings/import"
      (Utf8.encode brokenDocument.compact)).server = default := by
  have hpath : adminSegments "/__admin//mappings/import" = ["mappings", "import"] := by
    decide
  have hbroken : ∀ stub, ¬ Document.Spells (.object [(some "request", .bool true)] true) stub := by
    intro stub h
    cases h
  obtain ⟨hrefused, himport⟩ := administer_atomic default "POST" "/__admin//mappings/import"
    (Utf8.encode brokenDocument.compact)
  have hstatus := ((himport rfl hpath).2.2 _ lists_brokenDocument
    ⟨_, List.mem_cons_of_mem _ List.mem_cons_self, hbroken⟩).1
  exact ⟨hpath, rfl, hstatus, hrefused (.inl hstatus)⟩

end Server

end HttpStub
