import HttpStub.Http.Gzip
import HttpStub.Http.Request
import HttpStub.Http.Response
import HttpStub.Relay.Backend

/-!
# Messages as octets

How requests and responses travel over a connection that serves one request.

## Main definitions

* `HttpStub.Arrival.ofBytes` — the request that a client has sent so far.
* `HttpStub.Response.bytes` — a response for a client.
* `HttpStub.Base64.encode` — octets as letters, digits, `+` and `/`, in groups of four.
* `HttpStub.Outgoing.bytes` — a request for the backend.
* `HttpStub.Delivery.ofBytes` — what the backend has sent until the connection ended.

## Design

A message is a head, whose lines end at an empty one, and a body, whose length the head tells: by
its number of octets, in chunks that each tell theirs, or not at all.
-/

namespace HttpStub

/-! ## Heads -/

/-- The end of a line. -/
def lineEnd : Bytes := [0x0D, 0x0A]

/-- The head of a message, and the octets after the empty line. -/
def cutHead? : Bytes → Option (Bytes × Bytes)
  | [] => none
  | 0x0D :: 0x0A :: 0x0D :: 0x0A :: rest => some ([], rest)
  | b :: bs => (cutHead? bs).map fun (head, rest) => (b :: head, rest)

/-- The octets up to the end of a line, and those after it. -/
def cutLine? : Bytes → Option (Bytes × Bytes)
  | [] => none
  | 0x0D :: 0x0A :: rest => some ([], rest)
  | b :: bs => (cutLine? bs).map fun (line, rest) => (b :: line, rest)

/-- The lines of a head; `fuel` bounds their number. -/
def headLines : Nat → Bytes → List Bytes
  | 0, _ => []
  | fuel + 1, bs =>
    match cutLine? bs with
    | some (line, rest) => line :: headLines fuel rest
    | none => [bs]

/-- A header of a line. -/
def readHeader? (line : Bytes) : Option (String × Bytes) :=
  let isSpace (b : UInt8) : Bool := b == 0x20 || b == 0x09
  match line.dropWhile (· != 0x3A) with
  | [] => none
  | _ :: value =>
    let name := Utf8.decodeLossy (line.takeWhile (· != 0x3A))
    let value := Text.trimList isSpace value
    if isToken name && isFieldValue value then some (name, value) else none

/-- The first line of a head with the headers after it. -/
structure Head where
  start : String
  headers : Headers
  deriving DecidableEq, Repr

/-- The head that octets spell. -/
def Head.read? (bs : Bytes) : Option Head :=
  match headLines (bs.length + 1) bs with
  | [] => none
  | start :: lines =>
    (lines.mapM readHeader?).map fun hs => ⟨Utf8.decodeLossy start, .ofList hs⟩

/-! ## Bodies -/

/-- How a head tells the length of the body. -/
inductive Framing where
  | octets (n : Nat)
  | chunks
  | toEnd
  deriving DecidableEq, Repr

/-- What has arrived of a body. -/
inductive BodyArrival where
  | complete (body : Bytes)
  | incomplete
  | malformed
  deriving DecidableEq, Repr

/-- The number that a text spells in decimal digits. -/
def decimal? (s : String) : Option Nat :=
  if !s.isEmpty && s.toList.all Char.isDigit then some (Nat.ofDigitChars 10 s.toList 0) else none

/-- The way in which headers tell the length of the body. -/
def framingOf? (h : Headers) (otherwise : Framing) : Option Framing :=
  if Ascii.sameText (h.text "transfer-encoding") "chunked" then some .chunks
  else if (h.values "transfer-encoding").isEmpty then
    if (h.values "content-length").isEmpty then some otherwise
    else (decimal? (h.text "content-length")).map .octets
  else none

/-- The number of octets that the line in front of a chunk tells. -/
def chunkSize? (line : Bytes) : Option Nat :=
  let ds := line.takeWhile fun b => (Percent.hexValue? b).isSome
  if ds.isEmpty then none
  else some (ds.foldl (fun n b => n * 16 + ((Percent.hexValue? b).getD 0).toNat) 0)

/-- The body in chunks, after the octets that are given; `fuel` bounds the number of chunks. -/
def readChunks : Nat → Bytes → Bytes → BodyArrival
  | 0, _, _ => .incomplete
  | fuel + 1, acc, bs =>
    match cutLine? bs with
    | none => .incomplete
    | some (line, rest) =>
      match chunkSize? line with
      | none => .malformed
      | some 0 =>
        -- What follows the last chunk ends at an empty line, like a head.
        if (cutHead? (lineEnd ++ rest)).isSome then .complete acc else .incomplete
      | some n =>
        if rest.length < n + 2 then .incomplete
        else readChunks fuel (acc ++ rest.take n) (rest.drop (n + 2))

/-- The body that has arrived; `ended` tells whether no more octets follow. -/
def readBody (f : Framing) (ended : Bool) (bs : Bytes) : BodyArrival :=
  match f with
  | .octets n => if bs.length < n then .incomplete else .complete (bs.take n)
  | .chunks => readChunks (bs.length + 1) [] bs
  | .toEnd => if ended then .complete bs else .incomplete

/-! ## Requests of clients -/

/-- What has arrived of a request. -/
inductive Arrival where
  | complete (r : Request)
  | incomplete
  | malformed
  deriving DecidableEq, Repr

/-- Path and query of a target, which may be a whole address. -/
def pathOfTarget (target : String) : String :=
  if target.toList.head? == some '/' then target
  else
    match restOfAddress target with
    | some rest => if rest.isEmpty then "/" else rest
    | none => target
where
  /-- What follows the host of an address. -/
  restOfAddress (s : String) : Option String := do
    let (_, rest) ← Text.cut? ':' s.toList
    match rest with
    | '/' :: '/' :: rest => some (String.ofList (rest.dropWhile (· != '/')))
    | _ => none

/-- The request that a client has sent so far. -/
def Arrival.ofBytes (bs : Bytes) : Arrival :=
  match cutHead? bs with
  | none => .incomplete
  | some (head, rest) =>
    match Head.read? head with
    | none => .malformed
    | some head =>
      match Text.split ' ' head.start, framingOf? head.headers (.octets 0) with
      | [method, target, _], some framing =>
        match readBody framing false rest with
        | .complete body =>
          if isToken method then .complete ⟨method, pathOfTarget target, head.headers, body⟩
          else .malformed
        | .incomplete => .incomplete
        | .malformed => .malformed
      | _, _ => .malformed

/-! ## Written messages -/

/-- A head with its headers. -/
def headBytes (start : String) (hs : List (String × Bytes)) : Bytes :=
  Utf8.encode start ++ lineEnd
    ++ hs.flatMap (fun (n, v) => Utf8.encode (n ++ ": ") ++ v ++ lineEnd) ++ lineEnd

/-- The headers that a connection takes care of itself. -/
def isConnectionHeader (name : String) : Bool :=
  ["connection", "content-length", "transfer-encoding", "host"].contains (Ascii.lower name)

/-- Headers for a body that is sent as it is over a connection that serves one request. -/
def bodyHeaders (body : Bytes) : List (String × Bytes) :=
  [("content-length", Utf8.encode (toString body.length)), ("connection", Utf8.encode "close")]

/-- A response for a client. The method `HEAD` asks for its head only. -/
def Response.bytes (r : Response) (method : String) : Bytes :=
  let kept := r.headers.grouped.filter fun h => !isConnectionHeader h.1
  headBytes ("HTTP/1.1 " ++ toString r.status.toNat ++ " ") (kept ++ bodyHeaders r.body)
    ++ (if method = "HEAD" then [] else r.body)

/-! ### Octets in 64 characters -/

namespace Base64

/-- The character for six bits. -/
def digit (n : Nat) : Char :=
  if n < 26 then Char.ofNat (65 + n)
  else if n < 52 then Char.ofNat (71 + n)
  else if n < 62 then Char.ofNat (n - 4)
  else if n = 62 then '+'
  else '/'

/-- The four characters for three octets. -/
def group (a b c : UInt8) : List Char :=
  let n := (a.toNat * 256 + b.toNat) * 256 + c.toNat
  [digit (n / 262144), digit (n / 4096 % 64), digit (n / 64 % 64), digit (n % 64)]

/-- The characters for some octets; what is missing from the last group is filled up with `=`. -/
def encodeList : Bytes → List Char
  | [] => []
  | [a] => (group a 0 0).take 2 ++ ['=', '=']
  | [a, b] => (group a b 0).take 3 ++ ['=']
  | a :: b :: c :: rest => group a b c ++ encodeList rest

/-- Octets as text. -/
def encode (bs : Bytes) : String :=
  String.ofList (encodeList bs)

end Base64

/-! ### Requests for the backend -/

/-- Name and password of a user as a header. -/
def Url.Login.header (l : Url.Login) : String :=
  "Basic " ++ Base64.encode (Utf8.encode (l.name ++ ":" ++ l.password.getD ""))

/-- The value of the header `Host`: the host of an address, and its socket unless it is the usual
one. -/
def Url.place (u : Url) : String :=
  match u.authority with
  | some a => Url.Authority.text { a with user := none }
  | none => ""

/-- The header with a value if there is none of its name. -/
def Headers.orElse (h : Headers) (name value : String) : Headers :=
  if (h.values name).isEmpty then h.append name (Utf8.encode value) else h

/-- The headers that a request for the backend arrives with: its host, its own, and what is said for
it where it says nothing. -/
def Outgoing.fields (o : Outgoing) : Headers :=
  let kept := o.headers.filterNames fun n => !isConnectionHeader n
  let named : Headers := ⟨("host", Utf8.encode o.url.place) :: kept.entries⟩
  let asked := (named.orElse "accept" "*/*").orElse "accept-encoding" "gzip"
  match o.login with
  | some l => asked.orElse "authorization" l.header
  | none => asked

/-- A request for the backend. -/
def Outgoing.bytes (o : Outgoing) : Bytes :=
  let target := o.url.path.text ++ (o.url.query.map ("?" ++ ·)).getD ""
  headBytes (o.method ++ " " ++ target ++ " HTTP/1.1") (o.fields.entries ++ bodyHeaders o.body)
    ++ o.body

/-! ## Answers of the backend -/

/-- The status that the first line of an answer tells. -/
def statusOf? (start : String) : Option UInt16 :=
  match Text.split ' ' start with
  | _ :: code :: _ => (decimal? code).bind fun n => if n < 1000 then some (UInt16.ofNat n) else none
  | _ => none

/-- An answer with a body of this method and status has one. -/
def hasBody (method : String) (status : UInt16) : Bool :=
  !(method = "HEAD" || status = 204 || status = 304 || status < 200)

/-- The answer with its body unpacked, if it is packed. -/
def Delivery.unpacked (status : UInt16) (h : Headers) (body : Bytes) : Delivery :=
  if Ascii.sameText (h.text "content-encoding") "gzip" && !body.isEmpty then
    match Gzip.unpack body with
    | some body => .answered status ((h.remove "content-encoding").remove "content-length") body
    | none => .brokenOff
  else .answered status h body

/-- What the backend has sent until the connection ended. -/
def Delivery.ofBytes (method : String) (bs : Bytes) : Delivery :=
  match cutHead? bs with
  | none => .unreachable
  | some (head, rest) =>
    match (Head.read? head).bind fun h => (statusOf? h.start).map fun s => (h.headers, s) with
    | none => .unreachable
    | some (h, status) =>
      if !hasBody method status then .answered status h []
      else
        match framingOf? h .toEnd with
        | none => .brokenOff
        | some framing =>
          match readBody framing true rest with
          | .complete body => .unpacked status h body
          | .incomplete => .brokenOff
          | .malformed => .brokenOff

end HttpStub
