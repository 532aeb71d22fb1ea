import HttpStub.Proofs.Exchange.Reply
import HttpStub.Proofs.Server.Transfer

set_option autoImplicit false

/-!
# Headers that are not passed on

A response that is served has been made of a stub, of an answer of the backend, or by the server
itself. Each way withholds internal headers, whatever the letter case of their names; and a snapshot
leaves out even more of the headers that have been recorded.

## Main results

* `HttpStub.Server.response_serve_cases` — the ways in which a response is made.
* `HttpStub.Reply.isInternal_of_mem`, `HttpStub.Answer.isInternal_of_mem` — what each way withholds.
* `HttpStub.Server.serve_withholds` — internal headers are never passed on.
-/

namespace HttpStub

/-! ## The ways in which a response is made -/

/-- No internal header is served from a stub, even if the stub has one. -/
lemma Reply.isInternal_of_mem {r : Reply} {h : String × Bytes}
    (hh : h ∈ r.serve.headers.entries) : isInternal h.1 = false := by
  rw [entries_serve] at hh
  obtain ⟨f, hf, rfl⟩ := List.mem_map.1 hh
  obtain ⟨e, he, hfe⟩ := List.mem_flatMap.1 (List.mem_of_mem_filter hf)
  obtain ⟨v, -, rfl⟩ := List.mem_map.1 hfe
  obtain ⟨-, hkept⟩ := List.mem_filter.1 he
  rw [fieldEntry, isInternal_lower]
  exact Bool.not_eq_true' _ ▸ hkept

/-- Of these headers the last one alone is served. -/
example :
    Reply.serve { Reply.blank with
      headers := .ofList [("DATE", .one "1"), ("X-GDC-Trace", .one "2"), ("X-Id", .one "3")] } =
    ⟨200, ⟨[("x-id", Utf8.encode "3")]⟩, []⟩ := by
  decide +kernel

namespace Answer

/-- The headers of an answer that are handed on. -/
lemma entries_toResponse (a : Answer) :
    a.toResponse.headers.entries =
      ((a.headers.filter fun f => !isRelayExcluded f.1).filter isLegalField).map fieldEntry :=
  Headers.entries_foldl_append? _ .empty

/-- No internal header of an answer is handed on. -/
lemma isInternal_of_mem {a : Answer} {h : String × Bytes}
    (hh : h ∈ a.toResponse.headers.entries) : isInternal h.1 = false := by
  rw [entries_toResponse] at hh
  obtain ⟨f, hf, rfl⟩ := List.mem_map.1 hh
  obtain ⟨-, hkept⟩ := List.mem_filter.1 (List.mem_of_mem_filter hf)
  rw [fieldEntry, isInternal_lower]
  exact isInternal_of_isRelayExcluded (Bool.not_eq_true' _ ▸ hkept)

end Answer

namespace Server

/-- **The ways in which a response is made**: from a stub, from an answer of the backend, or, if
there is neither, by the server itself. -/
lemma response_serve_cases (s : Server) (time : String) (d : Delivery) (r : Request) :
    (∃ stub, (select (s.addressed r) s.stubs).stub = some stub ∧
        (s.serve time d r).response = stub.response.serve) ∨
      (∃ a, s.answer? d r = some a ∧ (s.serve time d r).response = a.toResponse) ∨
      ∃ status text, (s.serve time d r).response = .ofJson status text := by
  rw [response_serve]
  split
  · unfold relay answer?
    cases s.backend? with
    | none => exact .inr (.inr ⟨_, _, rfl⟩)
    | some b =>
      dsimp only [Option.bind_some]
      cases b.forward d (s.addressed r) with
      | error e => exact .inr (.inr ⟨_, _, rfl⟩)
      | ok a => exact .inr (.inl ⟨a, rfl, rfl⟩)
  · unfold replay
    dsimp only
    split
    · next stub hmatched hstub => exact .inl ⟨stub, hstub, rfl⟩
    · exact .inr (.inr ⟨_, _, rfl⟩)

/-- **Internal headers are never passed on**: no response that is served carries one, and no stub of
a snapshot does, nor a header that speaks of how an answer was transferred. -/
theorem serve_withholds :
    (∀ (s : Server) (time : String) (d : Delivery) (r : Request),
      ∀ h ∈ (s.serve time d r).response.headers.entries, ¬ IsInternalName h.1) ∧
    ∀ (o : SnapshotOptions) (es : List Exchange), ∀ stub ∈ snapshot o es,
      ∀ h ∈ stub.response.headers.entries,
        ¬ IsInternalName h.1 ∧ ∀ name ∈ transferNames, Ascii.sameText h.1 name = false := by
  constructor
  · intro s time d r h hh
    rw [← isInternal_iff, Bool.not_eq_true]
    rcases response_serve_cases s time d r with
      ⟨stub, -, heq⟩ | ⟨a, -, heq⟩ | ⟨status, text, heq⟩ <;> rw [heq] at hh
    · exact Reply.isInternal_of_mem hh
    · exact Answer.isInternal_of_mem hh
    · obtain rfl : h = ("content-type", Utf8.encode "application/json") := List.mem_singleton.1 hh
      decide
  · intro o es stub hstub h hh
    obtain ⟨e, -, hresponse⟩ := exists_of_mem_snapshot hstub
    rw [hresponse] at hh
    have hkept : isSnapshotExcluded h.1 = false :=
      e.isSnapshotExcluded_of_mem (e.headers_reply o ▸ hh)
    have hnot := isSnapshotExcluded_iff.not.1 (Bool.not_eq_true _ ▸ hkept)
    push Not at hnot
    exact ⟨hnot.1, fun name hname => Bool.not_eq_true _ ▸ hnot.2 name hname⟩

end Server

end HttpStub
