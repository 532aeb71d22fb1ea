import HttpStub.Proofs.Json.Room
import HttpStub.Proofs.Server.Task
import HttpStub.Proofs.Stub.Document

set_option autoImplicit false

/-!
# The stubs of a server

All stubs of a server have been read from texts, of stubs or of documents. So their JSON values are
not `null`, repeat no name in an object, and fit where they stood.

## Main definitions

* `HttpStub.Stub.Given` — the JSON values of the stub can have been read with it.
* `HttpStub.Server.Reachable` — the states that a server can get into.

## Main results

* `HttpStub.Server.Reachable.given` — all stubs of a server have been read.
-/

namespace HttpStub

open Json (Value Decoder toOption_eq_some_iff)

/-! ## Stubs that have been read -/

namespace Stub

/-- How many arrays and objects a condition on the body may open in the text of a stub: four of
those that the reader allows are open where its value starts. -/
def conditionRoom : Nat := 123

/-- How many arrays and objects the body of a response may open in the text of a stub: two of those
that the reader allows are open where it starts. -/
def bodyRoom : Nat := 125

/-- The JSON values of the stub can have been read with it. -/
abbrev Given (s : Stub) : Prop :=
  s.AllJson (Value.Given conditionRoom) (Value.Given bodyRoom)

/-- A stub that has been read has JSON values that can have been read with it. -/
lemma given_of_read {bs : Bytes} {s : Stub} (h : Stub.read bs = .ok s) : s.Given := by
  obtain ⟨o, ho⟩ := Decoder.exists_of_read h
  exact @given_of_decode 121 o s ho

end Stub

/-- The stubs of a document stand deeper in its text than a stub alone. -/
lemma Document.stub_given_of_read {bs : Bytes} {d : Document} (h : Document.read bs = .ok d) :
    ∀ s ∈ d.stubs, s.Given :=
  fun s hs => (given_of_read h s hs).imp (fun _ hv => hv.mono (by decide))
    fun _ hv => hv.mono (by decide)

/-! ## Runs -/

namespace Server

variable {s : Server}

/-- The states that a server can get into, from its start on: by requests of administrators, by
other requests, and by exchanges that are recorded. -/
inductive Reachable : Server → Prop
  | start (settings : Settings) : Reachable (.ofSettings settings)
  | administer {s : Server} (hs : Reachable s) (method path : String) (body : Bytes) :
    Reachable (s.administer method path body).server
  | serve {s : Server} (hs : Reachable s) (time : String) (d : Delivery) (r : Request) :
    Reachable (s.serve time d r).server
  | record {s : Server} (hs : Reachable s) (e : Exchange) : Reachable (s.record e)

/-- **All stubs of a server have been read.** -/
lemma Reachable.given (hs : s.Reachable) : ∀ stub ∈ s.stubs, stub.Given := by
  induction hs with
  | start settings => exact fun _ hstub => absurd hstub List.not_mem_nil
  | @administer s _ method path body ih =>
    unfold Server.administer
    split
    · next task _ =>
      rw [(performs s task body).stubs_eq]
      cases task with
      | addStub =>
        refine List.forall_mem_append.2 ⟨ih, fun stub hstub => ?_⟩
        exact Stub.given_of_read (toOption_eq_some_iff.1 (Option.mem_toList.1 hstub))
      | importStubs =>
        refine List.forall_mem_append.2 ⟨ih, fun stub hstub => ?_⟩
        obtain ⟨d, hd, hstub⟩ := List.mem_flatMap.1 hstub
        have hread := toOption_eq_some_iff.1 (Option.mem_toList.1 hd)
        exact Document.stub_given_of_read hread stub hstub
      | reset => exact fun _ hstub => absurd hstub List.not_mem_nil
      | clearStubs => exact fun _ hstub => absurd hstub List.not_mem_nil
      | _ => exact ih
    · exact ih
  | serve _ time d r ih =>
    rw [stubs_serve]
    exact ih
  | record _ e ih => exact ih

end Server

end HttpStub
