import HttpStub.Dict
import HttpStub.Text.Ascii
import HttpStub.Text.Split
import HttpStub.Text.Utf8

/-!
# Recorded exchanges

## Main definitions

* `HttpStub.Exchange` — a request with the response that it was given.
* `HttpStub.Exchange.groupedHeaders` — the headers of the response by name.
* `HttpStub.isJsonMediaType` — the headers of a response announce a JSON body.
* `HttpStub.mediaTypesOf` — the media types of a list in a text.
-/

namespace HttpStub

/-- A request with the response that it was given. The response headers are in the order of arrival
and keep the spelling of their names. -/
structure Exchange where
  method : String
  target : String
  requestBody : Bytes
  status : UInt16
  responseHeaders : List (String × String)
  responseBody : Bytes
  deriving DecidableEq, Repr

/-- The response headers by name, where letter case does not count; the first spelling is kept. -/
def Exchange.groupedHeaders (e : Exchange) : List (String × List String) :=
  groupBy Ascii.sameText e.responseHeaders

/-! ## Media types -/

/-- The media type that always is JSON. -/
def jsonMediaType : String := "application/json"

/-- The media type of a header value, without its parameters. -/
def mediaTypeOf (value : String) : String :=
  match Text.cut? ';' value.toList with
  | some (before, _) => Text.trim Text.isBlank (String.ofList before)
  | none => Text.trim Text.isBlank value

/-- The media type is JSON, always or because it is listed. -/
def isJsonType (listed : List String) (mediaType : String) : Bool :=
  Ascii.sameText mediaType jsonMediaType
    || listed.any fun t => Ascii.sameText mediaType (Text.trim Text.isBlank t)

/-- Some header announces a JSON body. -/
def isJsonMediaType (headers : List (String × String)) (listed : List String) : Bool :=
  headers.any fun (name, value) =>
    Ascii.sameText name "content-type" && isJsonType listed (mediaTypeOf value)

/-- The media types between the commas of a text, without blank ones and the one that always is
JSON. -/
def mediaTypesOf (text : String) : List String :=
  ((Text.split ',' text).map (Text.trim Text.isBlank)).filter fun t =>
    !t.isEmpty && !Ascii.sameText t jsonMediaType

end HttpStub
