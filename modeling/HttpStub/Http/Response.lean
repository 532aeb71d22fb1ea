import HttpStub.Http.Header

/-!
# Responses

## Main definitions

* `HttpStub.Response` — what a client is answered.
* `HttpStub.Response.ofJson`, `HttpStub.Response.blank` — responses with and without a body.
* `HttpStub.statusOr` — a status that HTTP can carry.
-/

namespace HttpStub

/-- What a client is answered. -/
structure Response where
  status : UInt16
  headers : Headers
  body : Bytes
  deriving DecidableEq, Repr

/-- The status if HTTP can carry it: it has three digits. -/
def statusOr (fallback status : UInt16) : UInt16 :=
  if 100 ≤ status ∧ status ≤ 999 then status else fallback

namespace Response

/-- A response without headers and body. -/
def blank (status : UInt16) : Response :=
  ⟨status, .empty, []⟩

/-- A response with a text as its body. -/
def ofText (status : UInt16) (mediaType text : String) : Response :=
  ⟨status, Headers.empty.append "content-type" (Utf8.encode mediaType), Utf8.encode text⟩

/-- A response with a JSON text as its body. -/
def ofJson (status : UInt16) (text : String) : Response :=
  ofText status "application/json" text

end Response

end HttpStub
