import HttpStub.Http.Request
import HttpStub.Log
import HttpStub.Url.Reader

/-!
# Sending requests on

A request is prepared for the backend; the network delivers it or does not; what comes back is
turned into an answer. The first and the last step are functions, and the network is a value of
`Delivery` between them.

## Main definitions

* `HttpStub.Headers.addressedTo` — the headers of a request, fitted to the backend.
* `HttpStub.Backend.prepare` — the request as it goes to the backend.
* `HttpStub.Delivery` — what the network makes of it.
* `HttpStub.Backend.forward` — all steps in one.
-/

namespace HttpStub

/-! ## Headers -/

/-- The headers of a request, fitted to the backend: if it has a name, `Origin` and `Referer` speak
of it, as far as the texts are legal; and packed answers are welcome in one format only. -/
def Headers.addressedTo (backend : Option String) (refererPath : String) (h : Headers) : Headers :=
  let named :=
    match backend with
    | none => h
    | some b =>
      if b.isEmpty then h
      else
        (h.insertIfLegal "origin" (Utf8.encode b)).insertIfLegal "referer"
          (Utf8.encode (b ++ refererPath))
  named.insert "accept-encoding" (Utf8.encode "gzip")

/-! ## Errors -/

/-- Why a request has no answer. -/
inductive RelayError where
  /-- The method is no token. -/
  | invalidMethod (method : String)
  /-- The text is no address. -/
  | noAddress (spelled : String)
  /-- The address is none that a request can be sent to. -/
  | unusable (spelled : String) (url : Url)
  /-- The backend gives no answer. -/
  | unreachable (spelled : String) (url : Url)
  /-- The answer ends before its body does. -/
  | brokenOff (spelled : String)
  deriving DecidableEq, Repr

/-- The wording of an error. -/
def RelayError.message : RelayError → String
  | .invalidMethod m => "invalid method: " ++ m
  | .noAddress a => "upstream request to " ++ a ++ " failed: builder error"
  | .unusable a u =>
    "upstream request to " ++ a ++ " failed: builder error for url (" ++ u.text ++ ")"
  | .unreachable a u =>
    "upstream request to " ++ a ++ " failed: error sending request for url (" ++ u.text ++ ")"
  | .brokenOff a =>
    "failed to read upstream response from " ++ a ++ ": error decoding response body"

/-! ## Requests and answers -/

/-- The characters that cannot stand in the host of a request. -/
def isRefusedInHost (c : Char) : Bool :=
  ['"', '\x60', '\x7b', '\x7d'].contains c

/-- A request can be sent to the address: it is one of HTTP, its host can be written down, and it is
not too long. -/
def Url.isSendable (u : Url) : Bool :=
  (u.scheme == "http" || u.scheme == "https")
    && u.host?.any (!·.text.toList.any isRefusedInHost) && u.text.utf8ByteSize ≤ 65534

/-- A request as it goes to the backend. The user of an address logs in; the address that is sent
names nobody. -/
structure Outgoing where
  method : String
  url : Url
  login : Option Url.Login
  headers : Headers
  body : Bytes
  deriving DecidableEq, Repr

/-- What the network makes of a request. -/
inductive Delivery where
  /-- No answer arrives. -/
  | unreachable
  /-- The answer ends before its body does. -/
  | brokenOff
  /-- An answer arrives; its body is unpacked. -/
  | answered (status : UInt16) (headers : Headers) (body : Bytes)
  deriving DecidableEq, Repr

/-- The answer of a backend. The headers are texts, those of one name together. -/
structure Answer where
  status : UInt16
  headers : List (String × String)
  body : Bytes
  deriving DecidableEq, Repr

/-- The server that requests are sent on to, by the text in front of all targets. -/
structure Backend where
  base : String
  deriving DecidableEq, Repr

namespace Backend

/-- The backend that a text names; slashes at the end do not count. -/
def ofText (s : String) : Backend :=
  ⟨Text.trimEnd (· == '/') s⟩

/-- The address of a target. -/
def address (b : Backend) (target : String) : String :=
  b.base ++ target

/-- The request as it goes to the backend. The host is part of the address, so its header goes. -/
def prepare (b : Backend) (r : Request) : Except RelayError Outgoing :=
  let spelled := b.address r.target
  if !isToken r.method then .error (.invalidMethod r.method)
  else
    match Url.read spelled with
    | none => .error (.noAddress spelled)
    | some u =>
      if u.host?.isNone then .error (.unusable spelled u)
      else
        let login := u.login?
        let u := if login.isSome then u.withoutUser else u
        if u.isSendable then .ok ⟨r.method, u, login, r.headers.remove "host", r.body⟩
        else .error (.unusable spelled u)

/-- The answer that a delivery brings for a request to an address. -/
def conclude (spelled : String) (url : Url) : Delivery → Except RelayError Answer
  | .unreachable => .error (.unreachable spelled url)
  | .brokenOff => .error (.brokenOff spelled)
  | .answered status headers body =>
    .ok ⟨status, headers.grouped.map fun (n, v) => (n, Utf8.decodeLossy v), body⟩

/-- The answer to a request, given what the network makes of it. -/
def forward (b : Backend) (d : Delivery) (r : Request) : Except RelayError Answer := do
  let o ← b.prepare r
  conclude (b.address r.target) o.url d

/-- The event for the log when a request is sent on. -/
def notices (b : Backend) (r : Request) : List Event :=
  if isToken r.method then
    [⟨.debug, "Forwarding " ++ r.method ++ " " ++ b.address r.target⟩]
  else []

end Backend

end HttpStub
