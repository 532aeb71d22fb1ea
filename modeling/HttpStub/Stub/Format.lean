import HttpStub.Json.Schema
import HttpStub.Stub.Basic

/-!
# Stubs as JSON

## Main definitions

* `HttpStub.Stub.schema`, `HttpStub.RequestPattern.schema`, `HttpStub.Reply.schema` and others — the
  members of each record with their defaults.
* `HttpStub.Document` — a list of stubs as it is kept in files and exchanged.
* `HttpStub.Stub.toJson`, `HttpStub.Document.toJson` — the JSON of a stub and of a document.
* `HttpStub.Stub.read`, `HttpStub.Document.read` — their reading from a text.
-/

namespace HttpStub

open Json (Value Decoder DecodeError Field Schema)

/-! ## Conditions -/

/-- A value of a list of expected ones. -/
def expectedValueSchema : Schema String where
  expected := "struct EqualToMatcher"
  positional := true
  default := ""
  fields := [.mandatory "equalTo" id (fun v _ => v) .string .string]

/-- The members of a condition on a parameter. -/
def QueryMatcher.schema : Schema QueryMatcher where
  expected := "struct QueryParamMatcher"
  positional := true
  default := ⟨none, []⟩
  fields :=
    [.optional "equalTo" (·.equalTo) (fun v m => { m with equalTo := v }) .string .string,
      .list "hasExactly" (·.hasExactly) (fun v m => { m with hasExactly := v })
        expectedValueSchema.encode expectedValueSchema.decode]

/-- The members of a condition on a header. -/
def HeaderMatcher.schema : Schema HeaderMatcher where
  expected := "struct HeaderMatcher"
  positional := true
  default := ⟨none, none⟩
  fields :=
    [.optional "equalTo" (·.equalTo) (fun v m => { m with equalTo := v }) .string .string,
      .optional "contains" (·.contains) (fun v m => { m with contains := v }) .string .string]

/-- The members of a condition on the body. -/
def BodyPattern.schema : Schema BodyPattern where
  expected := "struct BodyPattern"
  positional := true
  default := ⟨none, none, none⟩
  fields :=
    [.optional "equalToJson" (·.equalToJson) (fun v p => { p with equalToJson := v })
        id Decoder.value,
      .optional "ignoreArrayOrder" (·.ignoreArrayOrder)
        (fun v p => { p with ignoreArrayOrder := v }) .bool .bool,
      .optional "ignoreExtraElements" (·.ignoreExtraElements)
        (fun v p => { p with ignoreExtraElements := v }) .bool .bool]

/-- The members of a pattern. -/
def RequestPattern.schema : Schema RequestPattern where
  expected := "struct RequestPattern"
  positional := true
  default := .blank
  fields :=
    [.optional "url" (·.url) (fun v p => { p with url := v }) .string .string,
      .optional "urlPath" (·.urlPath) (fun v p => { p with urlPath := v }) .string .string,
      .optional "urlPattern" (·.urlPattern) (fun v p => { p with urlPattern := v })
        .string .string,
      .always "method" (·.method) (fun v p => { p with method := v }) .string .string,
      .dict "queryParameters" (·.queryParameters) (fun v p => { p with queryParameters := v })
        QueryMatcher.schema.encode QueryMatcher.schema.decode,
      .list "bodyPatterns" (·.bodyPatterns) (fun v p => { p with bodyPatterns := v })
        BodyPattern.schema.encode BodyPattern.schema.decode,
      .dict "headers" (·.headers) (fun v p => { p with headers := v })
        HeaderMatcher.schema.encode HeaderMatcher.schema.decode]

/-! ## Responses -/

/-- The number of a status that is given as a text: decimal digits, after a plus sign perhaps. -/
def statusOfText? (s : String) : Option UInt16 :=
  let digits :=
    match s.toList with
    | '+' :: cs => cs
    | cs => cs
  if digits.isEmpty || !digits.all Char.isDigit then none
  else
    let n := digits.foldl (fun n c => n * 10 + (c.toNat - 48)) 0
    if n < 65536 then some (UInt16.ofNat n) else none

/-- The status of a value: a number, or a text that spells one. -/
def statusOfValue : Value → Except DecodeError UInt16
  | .number n =>
    match n.toNat? with
    | some k =>
      if k < 65536 then .ok (UInt16.ofNat k) else .error (.refused "invalid status number")
    | none => .error (.refused "invalid status number")
  | .string s =>
    match statusOfText? s with
    | some k => .ok k
    | none => .error (.refused ("invalid status string: " ++ s))
  | _ => .error (.refused "status must be a number or string")

/-- The text of each value, if all are texts. -/
def allStrings? : List Value → Option (List String)
  | [] => some []
  | .string s :: vs => (allStrings? vs).map (s :: ·)
  | _ :: _ => none

/-- The values of a header: a text or a list of texts. -/
def HeaderValues.ofValue : Value → Except DecodeError HeaderValues
  | .string s => .ok (.one s)
  | .array vs =>
    match allStrings? vs with
    | some ss => .ok (.many ss)
    | none => .error noVariant
  | _ => .error noVariant
where
  /-- The error for any other value. -/
  noVariant : DecodeError :=
    .refused "data did not match any variant of untagged enum HeaderValue"

/-- The JSON of the values of a header. -/
def HeaderValues.toJson : HeaderValues → Value
  | .one s => .string s
  | .many ss => .array (ss.map .string)

/-- The members of a response. -/
def Reply.schema : Schema Reply where
  expected := "struct ResponseDefinition"
  positional := true
  default := .blank
  fields :=
    [.always "status" (·.status) (fun v r => { r with status := v })
        (fun n => .number (.ofNat n.toNat)) (.refine statusOfValue),
      .optional "body" (·.body) (fun v r => { r with body := v }) .string .string,
      .optional "jsonBody" (·.jsonBody) (fun v r => { r with jsonBody := v }) id Decoder.value,
      .dict "headers" (·.headers) (fun v r => { r with headers := v })
        HeaderValues.toJson (.refine HeaderValues.ofValue),
      .optional "proxyBaseUrl" (·.proxyBaseUrl) (fun v r => { r with proxyBaseUrl := v })
        .string .string]

/-! ## Stubs and documents -/

/-- The members of a stub. -/
def Stub.schema : Schema Stub where
  expected := "struct StubMapping"
  positional := true
  default := .blank
  fields :=
    [.optional "id" (·.id) (fun v s => { s with id := v }) .string .string,
      .optional "uuid" (·.uuid) (fun v s => { s with uuid := v }) .string .string,
      .optional "name" (·.name) (fun v s => { s with name := v }) .string .string,
      .optional "scenarioName" (·.scenarioName) (fun v s => { s with scenarioName := v })
        .string .string,
      .optional "requiredScenarioState" (·.requiredScenarioState)
        (fun v s => { s with requiredScenarioState := v }) .string .string,
      .optional "newScenarioState" (·.newScenarioState)
        (fun v s => { s with newScenarioState := v }) .string .string,
      .always "request" (·.request) (fun v s => { s with request := v })
        RequestPattern.schema.encode RequestPattern.schema.decode,
      .always "response" (·.response) (fun v s => { s with response := v })
        Reply.schema.encode Reply.schema.decode]

/-- A list of stubs as it is kept in files and exchanged. -/
structure Document where
  stubs : List Stub

/-- The members of a document. An array is not accepted in its place. -/
def Document.schema : Schema Document where
  expected := "an object with a \"mappings\" array"
  positional := false
  default := ⟨[]⟩
  fields :=
    [.always "mappings" (·.stubs) (fun v _ => ⟨v⟩)
      (fun ss => .array (ss.map Stub.schema.encode)) Stub.schema.decode.list]

/-- The JSON of a stub. -/
def Stub.toJson (s : Stub) : Value :=
  Stub.schema.encode s

/-- The compact text of a stub. -/
def Stub.text (s : Stub) : String :=
  s.toJson.compact

/-- The stub of a JSON text. -/
def Stub.read (bs : Bytes) : Except DecodeError Stub :=
  Stub.schema.decode.run bs

/-- The JSON of a document. -/
def Document.toJson (d : Document) : Value :=
  Document.schema.encode d

/-- The compact text of a document. -/
def Document.text (d : Document) : String :=
  d.toJson.compact

/-- The document of a JSON text. -/
def Document.read (bs : Bytes) : Except DecodeError Document :=
  Document.schema.decode.run bs

/-- The document of a text. -/
def Document.ofText (s : String) : Except DecodeError Document :=
  Document.schema.decode.runString s

/-- The condition on the target as logs show it. -/
def RequestPattern.urlText (p : RequestPattern) : String :=
  p.urlMatch.text

end HttpStub
